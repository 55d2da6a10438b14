import Autopilot.Proofs.TombstoneStep

/-!
# Best effort: every tombstone is tried, in order, and the totals add up

`ReconcileTombstones` promises best effort: a failure on one tombstone is
collected and the loop goes on. What each tombstone does is a small table —
NotFound is success, another `Get` failure is an error, a live object without
the ownership label is skipped, and otherwise exactly one `Delete` decides
between deleted and error. `TombstoneOutcome` is that table, read off the audit
log: the requests the tombstone sent with their answers, the gauge value it
ends with, and whether it counts as a deletion.

The proof is the usual two layers. `reconcileTombstone_outcome` places one
call in the table, by the cases of the answers it got; `reconcileEach_steps`
strings the calls of the loop together by induction on the list, carrying the
count and the error list; `processTombstones_best_effort` reads the returned
pair off them.
-/

namespace Autopilot

/-- The table for one tombstone: the exchanges it adds to the audit log, its
final gauge value, and whether it is counted as deleted. -/
inductive TombstoneOutcome (ts : TombstoneMetadata) :
    List Exchange → TombstoneStatus → Bool → Prop where
  | gone (e : ApiError) : e.notFound →
      TombstoneOutcome ts [.get ts.key (.error e)] .deleted false
  | getFailed (e : ApiError) : e.notFound = false →
      TombstoneOutcome ts [.get ts.key (.error e)] .error false
  | skipped (live : Unstructured) : ¬ live.HasManagedByLabel →
      TombstoneOutcome ts [.get ts.key (.ok live)] .skipped false
  | deleted (live : Unstructured) (target : Option Unstructured) : live.HasManagedByLabel →
      TombstoneOutcome ts [.get ts.key (.ok live), .delete ts.key target (.ok ())] .deleted true
  | deleteFailed (live : Unstructured) (target : Option Unstructured) (e : ApiError) :
      live.HasManagedByLabel →
      TombstoneOutcome ts [.get ts.key (.ok live), .delete ts.key target (.error e)] .error false

/-- `reconcileTombstone`'s result agrees with the table's row: an error exactly
for the error status, and otherwise whether it counted. -/
def ResultMatches : Except String Bool → TombstoneStatus → Bool → Prop
  | .ok d, st, c => d = c ∧ st ≠ .error
  | .error _, st, c => st = .error ∧ c = false

theorem reconcileTombstone_outcome (r : TombstoneReconciler) (ts : TombstoneMetadata)
    (hco : Unstructured) (w : World) :
    ∃ xs st c, TombstoneOutcome ts xs st c ∧
      (reconcileTombstone r ts hco w).2.audit = w.audit ++ xs ∧
      (reconcileTombstone r ts hco w).2.metrics = w.metrics ++ [(ts.object, st)] ∧
      ResultMatches (reconcileTombstone r ts hco w).1 st c := by
  rcases reconcileTombstone_cases r ts hco w with
    ⟨e, hans, hn, heq⟩ | ⟨e, hans, hn, heq⟩ | ⟨o, hans, hl, heq⟩ | ⟨o, hans, hl, heq⟩
  · exact ⟨_, _, _, .gone e hn, by simp [heq, hans, ResultMatches]⟩
  · exact ⟨_, _, _, .getFailed e hn, by simp [heq, hans, ResultMatches]⟩
  · exact ⟨_, _, _, .skipped o hl, by simp [heq, hans, ResultMatches]⟩
  · rcases deleteTombstone_cases r ts hco (w.get ts.key).2 with ⟨e, hdel, heq'⟩ | ⟨hdel, heq'⟩
    · exact ⟨_, _, _, .deleteFailed o (w.objects ts.key) e hl,
        by simp [heq, heq', hans, hdel, ResultMatches]⟩
    · exact ⟨_, _, _, .deleted o (w.objects ts.key) hl,
        by simp [heq, heq', hans, hdel, ResultMatches]⟩

theorem ResultMatches.countDeleted {res : Except String Bool} {st : TombstoneStatus} {c : Bool}
    (h : ResultMatches res st c) (n : Nat) : countDeleted res n = if c then n + 1 else n := by
  rcases res with e | d
  · obtain ⟨-, rfl⟩ := h; rfl
  · obtain ⟨rfl, -⟩ := h; cases d <;> rfl

theorem ResultMatches.collectError_length {res : Except String Bool} {st : TombstoneStatus}
    {c : Bool} (h : ResultMatches res st c) (errs : List String) :
    (collectError res errs).length = if st = .error then errs.length + 1 else errs.length := by
  rcases res with e | d
  · obtain ⟨rfl, -⟩ := h; simp [collectError]
  · obtain ⟨-, hst⟩ := h; simp [collectError, hst]

/-- One tombstone's pass through the loop, as the table records it. -/
structure TombstoneStep where
  tombstone : TombstoneMetadata
  exchanges : List Exchange
  status : TombstoneStatus
  counted : Bool

/-- The step is a row of the table. -/
def TombstoneStep.Follows (s : TombstoneStep) : Prop :=
  TombstoneOutcome s.tombstone s.exchanges s.status s.counted

theorem reconcileEach_steps (r : TombstoneReconciler) (hco : Unstructured)
    (ts : List TombstoneMetadata) (n : Nat) (errs : List String) (w : World) :
    ∃ steps : List TombstoneStep,
      steps.map (·.tombstone) = ts ∧ (∀ s ∈ steps, s.Follows) ∧
      (reconcileEach r hco ts n errs w).2.audit = w.audit ++ (steps.map (·.exchanges)).flatten ∧
      (reconcileEach r hco ts n errs w).2.metrics =
        w.metrics ++ steps.map (fun s => (s.tombstone.object, s.status)) ∧
      (reconcileEach r hco ts n errs w).1.1 = n + (steps.filter (·.counted)).length ∧
      (reconcileEach r hco ts n errs w).1.2.length =
        errs.length + (steps.filter (·.status = .error)).length := by
  induction ts generalizing n errs w with
  | nil => exact ⟨[], by simp [reconcileEach]⟩
  | cons t rest ih =>
    obtain ⟨xs, st, c, hout, haud, hmet, hres⟩ := reconcileTombstone_outcome r t hco w
    obtain ⟨steps, h1, h2, h3, h4, h5, h6⟩ := ih (countDeleted (reconcileTombstone r t hco w).1 n)
      (collectError (reconcileTombstone r t hco w).1 errs) (reconcileTombstone r t hco w).2
    refine ⟨⟨t, xs, st, c⟩ :: steps, by simp [h1], List.forall_mem_cons.mpr ⟨hout, h2⟩, ?_⟩
    rw [reconcileEach_cons]
    refine ⟨by simp [h3, haud], by simp [h4, hmet], ?_, ?_⟩
    · rw [h5, hres.countDeleted]; cases c <;> simp; omega
    · rw [h6, hres.collectError_length]; by_cases hst : st = .error <;> simp [hst]; omega

theorem processTombstones_best_effort (r : TombstoneReconciler) (hco : Unstructured)
    (ts : List TombstoneMetadata) (w : World) :
    ∃ steps : List TombstoneStep,
      steps.map (·.tombstone) = ts ∧ (∀ s ∈ steps, s.Follows) ∧
      (processTombstones r hco ts w).2.audit = w.audit ++ (steps.map (·.exchanges)).flatten ∧
      (processTombstones r hco ts w).2.metrics =
        w.metrics ++ steps.map (fun s => (s.tombstone.object, s.status)) ∧
      (processTombstones r hco ts w).1.1 = (steps.filter (·.counted)).length ∧
      ((processTombstones r hco ts w).1.2.isSome ↔ ∃ s ∈ steps, s.status = .error) := by
  obtain ⟨steps, h1, h2, h3, h4, h5, h6⟩ := reconcileEach_steps r hco ts 0 [] w
  refine ⟨steps, h1, h2, ?_⟩
  unfold processTombstones
  rcases hre : reconcileEach r hco ts 0 [] w with ⟨⟨n, errs⟩, w'⟩
  rw [hre] at h3 h4 h5 h6
  dsimp only at h3 h4 h5 h6 ⊢
  have herr : errs.length > 0 ↔ ∃ s ∈ steps, s.status = .error := by
    rw [h6, List.length_nil, Nat.zero_add, gt_iff_lt, List.length_pos_iff_exists_mem]; simp
  split
  · next hpos => exact ⟨h3, h4, by simpa using h5, by simpa using herr.mp hpos⟩
  · next hpos => exact ⟨h3, h4, by simpa using h5, by simpa using mt herr.mpr hpos⟩

end Autopilot
