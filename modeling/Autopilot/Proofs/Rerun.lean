import Autopilot.Proofs.TombstoneStep

/-!
# Running the tombstones twice

Deletion would be idempotent if a second run after a clean first one found
nothing left to do. For the tombstone reconciler that fails exactly on objects
held by finalizers. A `Delete` of such an object only marks it terminating; the
object stays readable with its ownership label, and since `reconcileTombstone`
never looks at the deletion timestamp, the next run fetches it, passes the
label check, and deletes — and counts — it again. The same happens inside one
run when several tombstones name it.

What does hold is stated over `Settled`: a labelled object under the key is
held by finalizers and already terminating, so a `Delete` can no longer change
it. Every call that does not fail leaves its own key settled and no call
unsettles a key (`reconcileTombstone_settles`, `Settled.reconcileTombstone`),
so a run with a nil error settles every tombstone's key. From settled keys,
and with no failures, a run changes no object, succeeds, and sends its
`Delete`s to exactly the keys of the tombstones whose object still carries the
label, in order (`reconcileEach_of_settled`). When no tombstoned object carries
finalizers, no such object can remain, and the second run sends no `Delete` at
all. Within one run, whatever the answers, an object without finalizers is gone
after its first served `Delete`, so it is deleted at most once
(`reconcileEach_deletesOf_le`).
-/
namespace Autopilot

namespace World

/-- No request is set to fail. -/
def NoFaults (w : World) : Prop := ∀ f ∈ w.faults, f = none

/-- A labelled object under `key` is held by finalizers and terminating. -/
def Settled (w : World) (key : ObjKey) : Prop :=
  ∀ o, w.objects key = some o → o.HasManagedByLabel → o.getFinalizers ≠ [] ∧ o.isTerminating

/-- No object under `key` carries finalizers. -/
def FinalizerFree (w : World) (key : ObjKey) : Prop :=
  ∀ o, w.objects key = some o → o.getFinalizers = []

/-- An object with the ownership label is stored under `key`. -/
def managedAt (w : World) (key : ObjKey) : Bool :=
  match w.objects key with
  | some o => decide o.HasManagedByLabel
  | none => false

/-- A settled key without finalizers holds no labelled object. -/
theorem managedAt_eq_false {w : World} {key : ObjKey} (hs : w.Settled key)
    (hff : w.FinalizerFree key) : w.managedAt key = false := by
  unfold managedAt
  split
  · next o ho => exact decide_eq_false fun hl => (hs o ho hl).1 (hff o ho)
  · rfl

theorem NoFaults.nextFault {w : World} (h : w.NoFaults) : w.nextFault = none := by
  unfold World.nextFault
  cases hf : w.faults with
  | nil => rfl
  | cons f fs => simp [h f (by simp [hf])]

theorem NoFaults.tail {w : World} (h : w.NoFaults) {fs : List (Option String)}
    (hs : fs = w.faults.tail) : ∀ f ∈ fs, f = none :=
  fun f hf => h f (List.mem_of_mem_tail (hs ▸ hf))

end World

/-- A `Delete` answer that is `.ok` in the audit log, for `key`. -/
def Exchange.isDeleteOf (key : ObjKey) : Exchange → Bool
  | .delete k _ (.ok ()) => decide (k = key)
  | _ => false

theorem afterDelete_settled {c : String} {o o' : Unstructured} (h : afterDelete c o = some o') :
    o'.getFinalizers ≠ [] ∧ o'.isTerminating := by
  unfold afterDelete at h
  split at h
  · cases h
  · split at h <;> cases h <;> simp_all

theorem afterDelete_of_settled {c : String} {o : Unstructured} (hf : o.getFinalizers ≠ [])
    (ht : o.isTerminating) : afterDelete c o = some o := by
  simp [afterDelete, hf, ht]

theorem afterDelete_of_finalizerFree {c : String} {o : Unstructured} (hf : o.getFinalizers = []) :
    afterDelete c o = none := by
  simp [afterDelete, hf]

variable (r : TombstoneReconciler) (t : TombstoneMetadata) (hco : Unstructured) {w : World}

/-- A call changes the objects only through a served `Delete` of its own key. -/
theorem reconcileTombstone_objects (w : World) :
    (reconcileTombstone r t hco w).2.objects = w.objects ∨
    ∃ o, w.objects t.key = some o ∧ o.HasManagedByLabel ∧
      (reconcileTombstone r t hco w).1 = .ok true ∧
      (reconcileTombstone r t hco w).2.objects =
        Function.update w.objects t.key (afterDelete w.clock o) := by
  rcases reconcileTombstone_cases r t hco w with
    ⟨e, -, -, heq⟩ | ⟨e, -, -, heq⟩ | ⟨o, -, -, heq⟩ | ⟨o, hans, hl, heq⟩
  · exact .inl (by simp [heq])
  · exact .inl (by simp [heq])
  · exact .inl (by simp [heq])
  · rcases deleteTombstone_cases r t hco (w.get t.key).2 with ⟨e, hdel, heq'⟩ | ⟨hdel, heq'⟩
    · exact .inl (by simp [heq, heq', World.delete_objects_of_error hdel])
    · obtain ⟨o', ho', hobj⟩ := World.delete_objects_of_ok hdel
      have ho := World.getAnswer_ok hans
      simp only [World.get_objects] at ho'
      obtain rfl : o = o' := Option.some_injective _ (ho.symm.trans ho')
      exact .inr ⟨o, ho, hl, by simp [heq, heq'], by simp [heq, heq', hobj]⟩

theorem reconcileTombstone_clock (w : World) :
    (reconcileTombstone r t hco w).2.clock = w.clock := by
  rcases reconcileTombstone_cases r t hco w with
    ⟨e, -, -, heq⟩ | ⟨e, -, -, heq⟩ | ⟨o, -, -, heq⟩ | ⟨o, -, -, heq⟩
  · simp [heq]
  · simp [heq]
  · simp [heq]
  · rcases deleteTombstone_cases r t hco (w.get t.key).2 with ⟨e, -, heq'⟩ | ⟨-, heq'⟩ <;>
      simp [heq, heq']

theorem reconcileTombstone_faults (w : World) :
    (reconcileTombstone r t hco w).2.faults = w.faults.tail ∨
    (reconcileTombstone r t hco w).2.faults = w.faults.tail.tail := by
  rcases reconcileTombstone_cases r t hco w with
    ⟨e, -, -, heq⟩ | ⟨e, -, -, heq⟩ | ⟨o, -, -, heq⟩ | ⟨o, -, -, heq⟩
  · simp [heq]
  · simp [heq]
  · simp [heq]
  · rcases deleteTombstone_cases r t hco (w.get t.key).2 with ⟨e, -, heq'⟩ | ⟨-, heq'⟩ <;>
      simp [heq, heq']

theorem World.NoFaults.reconcileTombstone (h : w.NoFaults) :
    (reconcileTombstone r t hco w).2.NoFaults := by
  rcases reconcileTombstone_faults r t hco w with hf | hf
  · exact h.tail hf
  · intro f hf'
    rw [hf] at hf'
    exact h f (List.mem_of_mem_tail (List.mem_of_mem_tail hf'))

theorem World.Settled.of_objects {w' : World} {k : ObjKey} (he : w'.objects = w.objects)
    (h : w.Settled k) : w'.Settled k := by
  unfold World.Settled; rw [he]; exact h

theorem World.managedAt_of_objects {w' : World} (he : w'.objects = w.objects) (k : ObjKey) :
    w'.managedAt k = w.managedAt k := by
  unfold World.managedAt; rw [he]

theorem World.Settled.reconcileTombstone {k : ObjKey} (h : w.Settled k) :
    (reconcileTombstone r t hco w).2.Settled k := by
  intro o' ho' hl'
  rcases reconcileTombstone_objects r t hco w with hobj | ⟨o, -, -, -, hobj⟩
  · rw [hobj] at ho'; exact h o' ho' hl'
  · rw [hobj] at ho'
    by_cases hk : k = t.key
    · subst hk; rw [Function.update_same] at ho'; exact afterDelete_settled ho'
    · rw [Function.update_noteq hk] at ho'; exact h o' ho' hl'

theorem reconcileTombstone_settles {d : Bool} (h : (reconcileTombstone r t hco w).1 = .ok d) :
    (reconcileTombstone r t hco w).2.Settled t.key := by
  intro o' ho' hl'
  rcases reconcileTombstone_cases r t hco w with
    ⟨e, hans, hn, heq⟩ | ⟨e, -, -, heq⟩ | ⟨o, hans, hnl, heq⟩ | ⟨o, hans, hl, heq⟩
  · simp only [heq, World.setTombstoneStatus_objects, World.get_objects,
      World.getAnswer_notFound hans hn] at ho'
    cases ho'
  · simp [heq] at h
  · simp only [heq, TombstoneReconciler.record_objects, World.setTombstoneStatus_objects,
      World.get_objects, World.getAnswer_ok hans] at ho'
    cases ho'; exact absurd hl' hnl
  · rcases deleteTombstone_cases r t hco (w.get t.key).2 with ⟨e, -, heq'⟩ | ⟨hdel, heq'⟩
    · simp [heq, heq'] at h
    · obtain ⟨o'', -, hobj⟩ := World.delete_objects_of_ok hdel
      simp only [heq, heq', TombstoneReconciler.record_objects, World.setTombstoneStatus_objects,
        hobj, Function.update_same] at ho'
      exact afterDelete_settled ho'

theorem World.FinalizerFree.reconcileTombstone {k : ObjKey} (h : w.FinalizerFree k) :
    (reconcileTombstone r t hco w).2.FinalizerFree k := by
  intro o' ho'
  rcases reconcileTombstone_objects r t hco w with hobj | ⟨o, ho, -, -, hobj⟩
  · rw [hobj] at ho'; exact h o' ho'
  · rw [hobj] at ho'
    by_cases hk : k = t.key
    · subst hk
      rw [Function.update_same, afterDelete_of_finalizerFree (h o ho)] at ho'
      cases ho'
    · rw [Function.update_noteq hk] at ho'; exact h o' ho'

theorem reconcileTombstone_objects_none {k : ObjKey} (h : w.objects k = none) :
    (reconcileTombstone r t hco w).2.objects k = none := by
  rcases reconcileTombstone_objects r t hco w with hobj | ⟨o, ho, -, -, hobj⟩
  · rw [hobj, h]
  · have hk : k ≠ t.key := fun hk => by rw [hk, ho] at h; cases h
    rw [hobj, Function.update_noteq hk, h]

/-- From a settled key and with no failures, a call changes nothing, succeeds,
and sends a `Delete` of its key exactly when a labelled object is stored there. -/
theorem reconcileTombstone_of_settled (hf : w.NoFaults) (hs : w.Settled t.key) :
    (reconcileTombstone r t hco w).2.objects = w.objects ∧
    (reconcileTombstone r t hco w).1 = .ok (w.managedAt t.key) ∧
    (reconcileTombstone r t hco w).2.audit.filterMap Exchange.deleteKey =
      w.audit.filterMap Exchange.deleteKey ++ if w.managedAt t.key then [t.key] else [] := by
  have hga := @World.getAnswer_of_nextFault w t.key hf.nextFault
  rcases reconcileTombstone_cases r t hco w with
    ⟨e, hans, hn, heq⟩ | ⟨e, hans, hn, heq⟩ | ⟨o, hans, hnl, heq⟩ | ⟨o, hans, hl, heq⟩
  · have hm : w.managedAt t.key = false := by
      simp [World.managedAt, World.getAnswer_notFound hans hn]
    simp [heq, hm, Exchange.deleteKey]
  · rw [hans] at hga; split at hga <;> cases hga; simp at hn
  · have hm : w.managedAt t.key = false := by simp [World.managedAt, World.getAnswer_ok hans, hnl]
    simp [heq, hm, Exchange.deleteKey]
  · have ho := World.getAnswer_ok hans
    have hm : w.managedAt t.key = true := by simp [World.managedAt, ho, hl]
    have hf₁ : (w.get t.key).2.NoFaults := hf.tail (World.get_faults w t.key)
    have hdel : (w.get t.key).2.deleteAnswer t.key = .ok () :=
      World.deleteAnswer_of_nextFault hf₁.nextFault ho
    rcases deleteTombstone_cases r t hco (w.get t.key).2 with ⟨e, hdel', -⟩ | ⟨-, heq'⟩
    · rw [hdel] at hdel'; cases hdel'
    · obtain ⟨o', ho', hobj⟩ := World.delete_objects_of_ok hdel
      simp only [World.get_objects, ho, Option.some.injEq] at ho'
      subst ho'
      have hsame := afterDelete_of_settled (c := w.clock) (hs o ho hl).1 (hs o ho hl).2
      refine ⟨?_, by simp [heq, heq', hm], by simp [heq, heq', hm, Exchange.deleteKey]⟩
      simp [heq, heq', hobj, hsame, ← ho]

/-! ## Whole runs -/

variable {ts : List TombstoneMetadata} {n : Nat} {errs : List String}

theorem reconcileEach_errs (ts : List TombstoneMetadata) (n : Nat) (errs : List String)
    (w : World) : ∃ more, (reconcileEach r hco ts n errs w).1.2 = errs ++ more := by
  induction ts generalizing n errs w with
  | nil => exact ⟨[], by simp [reconcileEach]⟩
  | cons t rest ih =>
    rw [reconcileEach_cons]
    obtain ⟨more, h⟩ := ih (countDeleted (reconcileTombstone r t hco w).1 n)
      (collectError (reconcileTombstone r t hco w).1 errs) (reconcileTombstone r t hco w).2
    rw [h]
    cases (reconcileTombstone r t hco w).1 with
    | error e => exact ⟨e :: more, by simp [collectError]⟩
    | ok d => exact ⟨more, rfl⟩

theorem World.NoFaults.reconcileEach (h : w.NoFaults) :
    (reconcileEach r hco ts n errs w).2.NoFaults := by
  induction ts generalizing n errs w with
  | nil => exact h
  | cons t rest ih => rw [reconcileEach_cons]; exact ih (h.reconcileTombstone r t hco)

theorem World.Settled.reconcileEach {k : ObjKey} (h : w.Settled k) :
    (reconcileEach r hco ts n errs w).2.Settled k := by
  induction ts generalizing n errs w with
  | nil => exact h
  | cons t rest ih => rw [reconcileEach_cons]; exact ih (h.reconcileTombstone r t hco)

theorem World.FinalizerFree.reconcileEach {k : ObjKey} (h : w.FinalizerFree k) :
    (reconcileEach r hco ts n errs w).2.FinalizerFree k := by
  induction ts generalizing n errs w with
  | nil => exact h
  | cons t rest ih => rw [reconcileEach_cons]; exact ih (h.reconcileTombstone r t hco)

/-- A run that adds no error leaves every tombstone's key settled. -/
theorem reconcileEach_settles (h : (reconcileEach r hco ts n errs w).1.2 = errs) :
    ∀ t ∈ ts, (reconcileEach r hco ts n errs w).2.Settled t.key := by
  induction ts generalizing n errs w with
  | nil => simp
  | cons t rest ih =>
    rw [reconcileEach_cons] at h ⊢
    cases hres : (reconcileTombstone r t hco w).1 with
    | error e =>
      obtain ⟨more, hm⟩ := reconcileEach_errs r hco rest (countDeleted (.error e) n)
        (errs ++ [e]) (reconcileTombstone r t hco w).2
      rw [hres] at h; simp only [collectError] at h
      have := congrArg List.length (hm.symm.trans h); simp at this
    | ok d =>
      rw [hres] at h; simp only [collectError] at h ⊢
      intro t' ht'
      rcases List.mem_cons.mp ht' with rfl | ht'
      · exact (reconcileTombstone_settles r t' hco hres).reconcileEach r hco
      · exact ih h t' ht'

/-- From settled keys and with no failures, a run changes nothing, succeeds,
and deletes and counts the tombstones whose object still has the label, sending
their `Delete`s in order and no other. -/
theorem reconcileEach_of_settled (hf : w.NoFaults) (hs : ∀ t ∈ ts, w.Settled t.key) :
    (reconcileEach r hco ts n errs w).2.objects = w.objects ∧
    (reconcileEach r hco ts n errs w).1 = (n + (ts.filter (w.managedAt ·.key)).length, errs) ∧
    (reconcileEach r hco ts n errs w).2.audit.filterMap Exchange.deleteKey =
      w.audit.filterMap Exchange.deleteKey ++ (ts.filter (w.managedAt ·.key)).map (·.key) := by
  induction ts generalizing n errs w with
  | nil => simp [reconcileEach]
  | cons t rest ih =>
    obtain ⟨hobj, hres, haud⟩ :=
      reconcileTombstone_of_settled r t hco hf (hs t (List.mem_cons_self _ _))
    have hm := World.managedAt_of_objects hobj
    obtain ⟨h1, h2, h3⟩ := @ih _ (countDeleted (reconcileTombstone r t hco w).1 n)
      (collectError (reconcileTombstone r t hco w).1 errs)
      (hf.reconcileTombstone r t hco)
      (fun t' ht' => (hs t' (List.mem_cons_of_mem _ ht')).of_objects hobj)
    rw [reconcileEach_cons, hres]
    rw [hres] at h1 h2 h3
    simp only [hm] at h2 h3
    refine ⟨h1.trans hobj, ?_, ?_⟩
    · rw [h2]
      cases hmt : w.managedAt t.key <;> simp [countDeleted, collectError, List.filter_cons, hmt]
      omega
    · rw [h3, haud]
      cases hmt : w.managedAt t.key <;> simp [List.filter_cons, hmt]

theorem reconcileTombstone_deletesOf {k : ObjKey} (h : w.FinalizerFree k) :
    (reconcileTombstone r t hco w).2.audit.countP (Exchange.isDeleteOf k) =
      w.audit.countP (Exchange.isDeleteOf k) ∨
    ((reconcileTombstone r t hco w).2.audit.countP (Exchange.isDeleteOf k) =
      w.audit.countP (Exchange.isDeleteOf k) + 1 ∧
      w.objects k ≠ none ∧ (reconcileTombstone r t hco w).2.objects k = none) := by
  rcases reconcileTombstone_cases r t hco w with
    ⟨e, -, -, heq⟩ | ⟨e, -, -, heq⟩ | ⟨o, -, -, heq⟩ | ⟨o, hans, hl, heq⟩
  · exact .inl (by simp [heq, Exchange.isDeleteOf])
  · exact .inl (by simp [heq, Exchange.isDeleteOf])
  · exact .inl (by simp [heq, Exchange.isDeleteOf])
  · rcases deleteTombstone_cases r t hco (w.get t.key).2 with ⟨e, hdel, heq'⟩ | ⟨hdel, heq'⟩
    · exact .inl (by simp [heq, heq', hdel, Exchange.isDeleteOf])
    · by_cases hk : t.key = k
      · subst hk
        have ho := World.getAnswer_ok hans
        obtain ⟨o', ho', hobj⟩ := World.delete_objects_of_ok hdel
        simp only [World.get_objects, ho, Option.some.injEq] at ho'
        subst ho'
        refine .inr ⟨by simp [heq, heq', hdel, Exchange.isDeleteOf], by simp [ho], ?_⟩
        simp [heq, heq', hobj, afterDelete_of_finalizerFree (h o ho)]
      · exact .inl (by simp [heq, heq', hdel, Exchange.isDeleteOf, hk])

/-- Within one run, an object without finalizers is deleted at most once. -/
theorem reconcileEach_deletesOf_le {k : ObjKey} (h : w.FinalizerFree k) :
    (reconcileEach r hco ts n errs w).2.audit.countP (Exchange.isDeleteOf k) ≤
      w.audit.countP (Exchange.isDeleteOf k) + (w.objects k).isSome.toNat := by
  induction ts generalizing n errs w with
  | nil => simp [reconcileEach]
  | cons t rest ih =>
    rw [reconcileEach_cons]
    refine (ih (h.reconcileTombstone r t hco)).trans ?_
    rcases reconcileTombstone_deletesOf r t hco h with hc | ⟨hc, hne, hnone⟩
    · rw [hc]
      cases hk : w.objects k with
      | none => simp [reconcileTombstone_objects_none r t hco hk]
      | some o => simpa using Bool.toNat_le _
    · rw [hc, hnone]
      cases hk : w.objects k with
      | none => exact absurd hk hne
      | some o => simp

/-! ## The two runs -/

/-- The two-run law: after a run with a nil error, a second run with no
failures sends no `Delete`, returns `(0, nil)` and changes nothing, and no
object is deleted twice within the first. -/
def RerunLaw : Prop :=
  ∀ (r : TombstoneReconciler) (hco : Unstructured) (ts : List TombstoneMetadata)
    (w w₁ : World) (n₁ : Nat),
    processTombstones r hco ts w = ((n₁, none), w₁) → w₁.NoFaults →
    (processTombstones r hco ts w₁).1 = (0, none) ∧
    (processTombstones r hco ts w₁).2.audit.filterMap Exchange.deleteKey =
      w₁.audit.filterMap Exchange.deleteKey ∧
    (processTombstones r hco ts w₁).2.objects = w₁.objects ∧
    ∀ k, w₁.audit.countP (Exchange.isDeleteOf k) ≤ w.audit.countP (Exchange.isDeleteOf k) + 1

/-- Within any run, whatever the answers, an object without finalizers is
deleted at most once. After a clean first run, the second run with no failures
succeeds and changes no object; every tombstoned object that still carries the
label is held by finalizers and terminating, and the second run sends its
`Delete`s to, and counts, exactly the tombstones naming such an object, in
order. So when no tombstoned object carries finalizers it sends no `Delete` and
returns `(0, nil)`. -/
theorem processTombstones_rerun (r : TombstoneReconciler) (hco : Unstructured)
    (ts : List TombstoneMetadata) (w : World) :
    (∀ k, w.FinalizerFree k →
      (processTombstones r hco ts w).2.audit.countP (Exchange.isDeleteOf k) ≤
        w.audit.countP (Exchange.isDeleteOf k) + 1) ∧
    ∀ {n₁ : Nat} {w₁ : World}, processTombstones r hco ts w = ((n₁, none), w₁) → w₁.NoFaults →
      (∀ t ∈ ts, w₁.Settled t.key) ∧
      (processTombstones r hco ts w₁).1 = ((ts.filter (w₁.managedAt ·.key)).length, none) ∧
      (processTombstones r hco ts w₁).2.objects = w₁.objects ∧
      (processTombstones r hco ts w₁).2.audit.filterMap Exchange.deleteKey =
        w₁.audit.filterMap Exchange.deleteKey ++ (ts.filter (w₁.managedAt ·.key)).map (·.key) ∧
      ((∀ t ∈ ts, w.FinalizerFree t.key) →
        (processTombstones r hco ts w₁).1 = (0, none) ∧
        (processTombstones r hco ts w₁).2.audit.filterMap Exchange.deleteKey =
          w₁.audit.filterMap Exchange.deleteKey) := by
  refine ⟨fun k hk => ?_, fun hrun hf => ?_⟩
  · rw [processTombstones_eq]
    exact (reconcileEach_deletesOf_le r hco hk).trans (Nat.add_le_add_left (Bool.toNat_le _) _)
  rw [processTombstones_eq] at hrun
  simp only [Prod.mk.injEq, ite_eq_left_iff, reduceCtorEq, imp_false, not_not] at hrun
  obtain ⟨⟨-, herrs⟩, rfl⟩ := hrun
  have hs := reconcileEach_settles r hco herrs
  obtain ⟨h1, h2, h3⟩ := @reconcileEach_of_settled r hco _ ts 0 [] hf hs
  rw [processTombstones_eq]
  refine ⟨hs, by simp [h2], h1, h3, fun hfree => ?_⟩
  have hfil : ts.filter ((reconcileEach r hco ts 0 [] w).2.managedAt ·.key) = [] :=
    List.filter_eq_nil_iff.mpr fun t ht => by
      simp [World.managedAt_eq_false (hs t ht) ((hfree t ht).reconcileEach r hco)]
  simp [h2, h3, hfil]

/-- A ConfigMap the autopilot once managed, held by a finalizer. -/
def heldConfigMap : Unstructured :=
  ⟨[("apiVersion", .string "v1"), ("kind", .string "ConfigMap"),
    ("metadata", .object [("name", .string "retired"), ("namespace", .string "default"),
      ("labels", .object [(TombstoneLabel, .string TombstoneLabelValue)]),
      ("finalizers", .list [.string "example.com/hold"])])]⟩

/-- Its tombstone. -/
def heldTombstone : TombstoneMetadata := tombstoneOf "tombstones/retired.yaml" heldConfigMap

/-- A cluster holding only that ConfigMap. -/
def heldWorld : World :=
  ⟨fun k => if k = heldTombstone.key then some heldConfigMap else none, "2026-01-01T00:00:00Z",
    [], [], [], []⟩

/-- The first run over `heldWorld`. -/
def heldFirstRun : (Nat × Option String) × World :=
  processTombstones ⟨false⟩ ⟨[]⟩ [heldTombstone] heldWorld

theorem heldFirstRun_eq : heldFirstRun = ((1, none), heldFirstRun.2) := Prod.ext (by decide) rfl

theorem heldFirstRun_noFaults : heldFirstRun.2.NoFaults := by
  unfold World.NoFaults; decide

/-- The finalizer-held ConfigMap is deleted and counted again on the second run. -/
theorem rerunLaw_fails : ¬ RerunLaw := fun h => by
  have := (h ⟨false⟩ ⟨[]⟩ [heldTombstone] heldWorld heldFirstRun.2 1 heldFirstRun_eq
    heldFirstRun_noFaults).1
  revert this; decide

/-- The second run over the held ConfigMap deletes it again and counts it. -/
theorem heldFirstRun_rerun :
    (processTombstones ⟨false⟩ ⟨[]⟩ [heldTombstone] heldFirstRun.2).1 = (1, none) ∧
    (processTombstones ⟨false⟩ ⟨[]⟩ [heldTombstone] heldFirstRun.2).2.objects =
      heldFirstRun.2.objects ∧
    (processTombstones ⟨false⟩ ⟨[]⟩ [heldTombstone] heldFirstRun.2).2.audit.filterMap
        Exchange.deleteKey =
      heldFirstRun.2.audit.filterMap Exchange.deleteKey ++ [heldTombstone.key] := by
  have h := (processTombstones_rerun ⟨false⟩ ⟨[]⟩ [heldTombstone] heldWorld).2 heldFirstRun_eq
    heldFirstRun_noFaults
  have hm : heldFirstRun.2.managedAt heldTombstone.key = true := by decide
  simp only [List.filter_cons, hm, List.filter_nil, if_true] at h
  exact ⟨h.2.1, h.2.2.1, h.2.2.2.1⟩

end Autopilot
