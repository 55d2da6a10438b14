import Autopilot.Proofs.Rerun
import Autopilot.Proofs.BestEffort

/-!
# A tombstone held by finalizers never alerts

The runbook of the `VirtPlatformTombstoneStuck` alert, which fires while the
tombstone gauge is below zero, lists finalizers among the causes of a
deletion error. In the code a `Delete` of an object held by finalizers is
served: the API server marks the object terminating, it stays readable with
its ownership label, and `reconcileTombstone` sets the gauge to deleted. The
next run fetches it again and does the same. So while nobody removes the
finalizers the object is never removed, and its tombstones never leave the
gauge at error or skipped: the alert cannot fire for it.

`HeldAt` is the invariant: a labelled object held by finalizers sits under the
key. No call removes it, whatever the answers (`HeldAt.reconcileTombstone`),
so no run does either. With no failures a call on that key is a served
`Delete` (`reconcileTombstone_of_held`), and a run writes one gauge entry per
tombstone, `deleted` for each naming the key (`reconcileEach_held_gauge`); the
runs after it have no failures either, so every later run does the same
(`finalizerHeld_never_alerts`).
-/

namespace Autopilot

/-- A labelled object held by finalizers is stored under `key`. -/
def World.HeldAt (w : World) (key : ObjKey) : Prop :=
  ∃ o, w.objects key = some o ∧ o.HasManagedByLabel ∧ o.getFinalizers ≠ []

/-- A served `Delete` of a held object leaves it held. -/
theorem afterDelete_held {c : String} {o : Unstructured} (hl : o.HasManagedByLabel)
    (hf : o.getFinalizers ≠ []) :
    ∃ o', afterDelete c o = some o' ∧ o'.HasManagedByLabel ∧ o'.getFinalizers ≠ [] := by
  unfold afterDelete
  rw [if_neg hf]
  split
  · exact ⟨o, rfl, hl, hf⟩
  · refine ⟨_, rfl, ?_, by simpa using hf⟩
    simpa [Unstructured.HasManagedByLabel] using hl

variable (r : TombstoneReconciler) (hco : Unstructured) {w : World} {k : ObjKey}

theorem World.HeldAt.reconcileTombstone (t : TombstoneMetadata) (h : w.HeldAt k) :
    (reconcileTombstone r t hco w).2.HeldAt k := by
  obtain ⟨o, ho, hl, hf⟩ := h
  rcases reconcileTombstone_objects r t hco w with hobj | ⟨o', ho', -, -, hobj⟩
  · exact ⟨o, by rw [hobj, ho], hl, hf⟩
  · by_cases hk : k = t.key
    · subst hk
      obtain rfl : o = o' := Option.some_injective _ (ho.symm.trans ho')
      obtain ⟨o'', hd, hheld⟩ := afterDelete_held (c := w.clock) hl hf
      exact ⟨o'', by rw [hobj, Function.update_same, hd], hheld⟩
    · exact ⟨o, by rw [hobj, Function.update_noteq hk, ho], hl, hf⟩

/-- With no failures, a call on a held key is a served `Delete`: it counts,
and sets the gauge to deleted. -/
theorem reconcileTombstone_of_held (t : TombstoneMetadata) (hf : w.NoFaults)
    (h : w.HeldAt t.key) :
    (reconcileTombstone r t hco w).1 = .ok true ∧
      (reconcileTombstone r t hco w).2.metrics = w.metrics ++ [(t.object, .deleted)] := by
  obtain ⟨o, ho, hl, -⟩ := h
  have hga : w.getAnswer t.key = .ok o := by rw [World.getAnswer_of_nextFault hf.nextFault, ho]
  rcases reconcileTombstone_cases r t hco w with
    ⟨e, hans, -, -⟩ | ⟨e, hans, -, -⟩ | ⟨o', hans, hnl, -⟩ | ⟨o', -, -, heq⟩
  · rw [hga] at hans; cases hans
  · rw [hga] at hans; cases hans
  · rw [hga] at hans; cases hans; exact absurd hl hnl
  · have hf₁ : (w.get t.key).2.NoFaults := hf.tail (World.get_faults w t.key)
    have hdel : (w.get t.key).2.deleteAnswer t.key = .ok () :=
      World.deleteAnswer_of_nextFault hf₁.nextFault ho
    rcases deleteTombstone_cases r t hco (w.get t.key).2 with ⟨e, hdel', -⟩ | ⟨-, heq'⟩
    · rw [hdel] at hdel'; cases hdel'
    · simp [heq, heq']

/-- The gauge entries of a run: one per tombstone, in order, each for the
tombstone's object, and `deleted` for every tombstone naming `k`. -/
def DeletedAt (k : ObjKey) (ts : List TombstoneMetadata)
    (entries : List (Unstructured × TombstoneStatus)) : Prop :=
  List.Forall₂ (fun t e => e.1 = t.object ∧ (t.key = k → e.2 = .deleted)) ts entries

theorem World.HeldAt.reconcileEach (ts : List TombstoneMetadata) (n : Nat) (errs : List String)
    (h : w.HeldAt k) : (reconcileEach r hco ts n errs w).2.HeldAt k := by
  induction ts generalizing n errs w with
  | nil => exact h
  | cons t rest ih => rw [reconcileEach_cons]; exact ih _ _ (h.reconcileTombstone r hco t)

/-- A run with no failures sets the gauge of every tombstone naming a held key
to deleted. -/
theorem reconcileEach_held_gauge (ts : List TombstoneMetadata) (n : Nat) (errs : List String)
    (hf : w.NoFaults) (h : w.HeldAt k) :
    ∃ entries, (reconcileEach r hco ts n errs w).2.metrics = w.metrics ++ entries ∧
      DeletedAt k ts entries := by
  induction ts generalizing n errs w with
  | nil => exact ⟨[], by simp [reconcileEach], .nil⟩
  | cons t rest ih =>
    rw [reconcileEach_cons]
    obtain ⟨entries, hm, hall⟩ :=
      ih _ _ (hf.reconcileTombstone r t hco) (h.reconcileTombstone r hco t)
    obtain ⟨-, st, -, -, -, hmet, -⟩ := reconcileTombstone_outcome r t hco w
    refine ⟨(t.object, st) :: entries, by rw [hm, hmet, List.append_assoc]; rfl,
      .cons ⟨rfl, fun hk => ?_⟩ hall⟩
    subst hk
    have hdel := (reconcileTombstone_of_held r hco t hf h).2
    rw [hmet] at hdel
    simpa using hdel

/-- A labelled object held by finalizers is never removed by
`ReconcileTombstones`: from any start where it is held, after any number of
runs, whatever the answers, it is still held. With no failures, the next run
writes one gauge entry per tombstone, in order, `deleted` for those naming it.
So the gauge of such a tombstone is never below zero and
`VirtPlatformTombstoneStuck` never fires for it, though the object stays in the
cluster. -/
theorem finalizerHeld_never_alerts (ts : List TombstoneMetadata) (h : w.HeldAt k) (runs : Nat) :
    ((fun w => (processTombstones r hco ts w).2)^[runs] w).HeldAt k ∧
      (w.NoFaults → ∃ entries, (processTombstones r hco ts
          ((fun w => (processTombstones r hco ts w).2)^[runs] w)).2.metrics =
        ((fun w => (processTombstones r hco ts w).2)^[runs] w).metrics ++ entries ∧
        DeletedAt k ts entries) := by
  induction runs generalizing w with
  | zero =>
    refine ⟨h, fun hf => ?_⟩
    rw [processTombstones_eq]
    exact reconcileEach_held_gauge r hco ts 0 [] hf h
  | succ m ih =>
    rw [Function.iterate_succ_apply]
    have hh : (processTombstones r hco ts w).2.HeldAt k := by
      rw [processTombstones_eq]; exact h.reconcileEach r hco ts 0 []
    refine (ih hh).imp_right fun hgauge hf => hgauge ?_
    rw [processTombstones_eq]; exact hf.reconcileEach r hco

theorem heldConfigMap_never_alerts :
    ((fun w => (processTombstones ⟨false⟩ ⟨[]⟩ [heldTombstone] w).2)^[3] heldWorld).HeldAt
        heldTombstone.key ∧
      ∃ entries, (processTombstones ⟨false⟩ ⟨[]⟩ [heldTombstone]
          ((fun w => (processTombstones ⟨false⟩ ⟨[]⟩ [heldTombstone] w).2)^[3] heldWorld)).2.metrics =
        ((fun w => (processTombstones ⟨false⟩ ⟨[]⟩ [heldTombstone] w).2)^[3] heldWorld).metrics ++
          entries ∧
        DeletedAt heldTombstone.key [heldTombstone] entries :=
  let h := finalizerHeld_never_alerts ⟨false⟩ ⟨[]⟩ [heldTombstone]
    ⟨heldConfigMap, by simp [heldWorld], by decide, by decide⟩ 3
  ⟨h.1, h.2 fun _ h => by cases h⟩

end Autopilot
