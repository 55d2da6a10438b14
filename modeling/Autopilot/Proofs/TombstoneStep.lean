import Autopilot.Engine.Interleaving

/-!
# What one tombstone can do

Every theorem about the tombstone reconciler — best effort, the second run,
the interleavings — goes through the same five branches of
`reconcileTombstone`. They are stated here once, as two inversion lemmas that
give each branch's answers and resulting world exactly, so the later proofs
rewrite with a branch and never unfold the reconciler again.

The answers are the API server's, and the server answers from its objects:
`getAnswer_ok` and `getAnswer_notFound` say which object a `Get` saw, and
`delete_objects_of_ok` what a served `Delete` leaves. The label check is
`labelMismatch`, which says exactly `HasManagedByLabel` negated.
-/

namespace Autopilot

theorem labelMismatch_eq_false_iff (o : Unstructured) :
    labelMismatch o.getLabels = false ↔ o.HasManagedByLabel := by
  unfold labelMismatch Unstructured.HasManagedByLabel
  cases o.getLabels with
  | none => simp
  | some m => simp [StringMap.index_some_eq_iff (by decide : TombstoneLabelValue ≠ "")]

namespace World

variable {w : World} {key : ObjKey}

theorem getAnswer_ok {o : Unstructured} (h : w.getAnswer key = .ok o) : w.objects key = some o := by
  unfold getAnswer at h; split at h <;> simp_all

theorem getAnswer_notFound {e : ApiError} (h : w.getAnswer key = .error e) (hn : e.notFound) :
    w.objects key = none := by
  unfold getAnswer at h; split at h <;> (try cases h) <;> simp_all

theorem getAnswer_of_nextFault (hf : w.nextFault = none) :
    w.getAnswer key = match w.objects key with
      | some o => .ok o
      | none => .error ⟨true, notFoundMessage key⟩ := by
  unfold getAnswer; rw [hf]; cases w.objects key <;> rfl

theorem deleteAnswer_of_nextFault {o : Unstructured} (hf : w.nextFault = none)
    (ho : w.objects key = some o) : w.deleteAnswer key = .ok () := by
  unfold deleteAnswer; rw [hf, ho]

theorem delete_objects_of_error {e : ApiError} (h : w.deleteAnswer key = .error e) :
    (w.delete key).2.objects = w.objects := by
  simp only [delete, h]

theorem delete_objects_of_ok (h : w.deleteAnswer key = .ok ()) :
    ∃ o, w.objects key = some o ∧
      (w.delete key).2.objects = Function.update w.objects key (afterDelete w.clock o) := by
  cases ho : w.objects key with
  | none => unfold deleteAnswer at h; rw [ho] at h; split at h <;> simp_all
  | some o => exact ⟨o, rfl, by simp only [delete, h, ho]⟩

end World

variable (r : TombstoneReconciler) (t : TombstoneMetadata) (hco : Unstructured) (w : World)

/-- The four ways `fetchTombstone` can end. -/
theorem fetchTombstone_cases :
    (∃ e, w.getAnswer t.key = .error e ∧ e.notFound = true ∧
      fetchTombstone r t hco w =
        (.done (.ok false), (w.get t.key).2.setTombstoneStatus t.object .deleted)) ∨
    (∃ e, w.getAnswer t.key = .error e ∧ e.notFound = false ∧
      fetchTombstone r t hco w =
        (.done (.error ("failed to get resource: " ++ e.message)),
          r.record ((w.get t.key).2.setTombstoneStatus t.object .error)
            (tombstoneEvent hco t .tombstoneFailed ("Failed to get resource: " ++ e.message)))) ∨
    (∃ o, w.getAnswer t.key = .ok o ∧ ¬ o.HasManagedByLabel ∧
      fetchTombstone r t hco w =
        (.done (.ok false), r.record ((w.get t.key).2.setTombstoneStatus t.object .skipped)
          (tombstoneEvent hco t .tombstoneSkipped
            "Label mismatch - resource not managed by virt-platform-autopilot"))) ∨
    (∃ o, w.getAnswer t.key = .ok o ∧ o.HasManagedByLabel ∧
      fetchTombstone r t hco w = (.toDelete o, (w.get t.key).2)) := by
  unfold fetchTombstone
  cases hans : w.getAnswer t.key with
  | error e =>
    cases hn : e.notFound
    · exact .inr (.inl ⟨e, rfl, hn, by simp [World.get, hans, hn]⟩)
    · exact .inl ⟨e, rfl, hn, by simp [World.get, hans, hn]⟩
  | ok o =>
    cases hl : labelMismatch o.getLabels
    · exact .inr (.inr (.inr ⟨o, rfl, (labelMismatch_eq_false_iff o).mp hl,
        by simp [World.get, hans, hl]⟩))
    · refine .inr (.inr (.inl ⟨o, rfl, ?_, by simp [World.get, hans, hl]⟩))
      rw [← labelMismatch_eq_false_iff, hl]; decide

/-- The four ways `reconcileTombstone` can leave its `Get`. -/
theorem reconcileTombstone_cases :
    (∃ e, w.getAnswer t.key = .error e ∧ e.notFound = true ∧
      reconcileTombstone r t hco w =
        (.ok false, (w.get t.key).2.setTombstoneStatus t.object .deleted)) ∨
    (∃ e, w.getAnswer t.key = .error e ∧ e.notFound = false ∧
      reconcileTombstone r t hco w =
        (.error ("failed to get resource: " ++ e.message),
          r.record ((w.get t.key).2.setTombstoneStatus t.object .error)
            (tombstoneEvent hco t .tombstoneFailed ("Failed to get resource: " ++ e.message)))) ∨
    (∃ o, w.getAnswer t.key = .ok o ∧ ¬ o.HasManagedByLabel ∧
      reconcileTombstone r t hco w =
        (.ok false, r.record ((w.get t.key).2.setTombstoneStatus t.object .skipped)
          (tombstoneEvent hco t .tombstoneSkipped
            "Label mismatch - resource not managed by virt-platform-autopilot"))) ∨
    (∃ o, w.getAnswer t.key = .ok o ∧ o.HasManagedByLabel ∧
      reconcileTombstone r t hco w = deleteTombstone r t hco (w.get t.key).2) := by
  unfold reconcileTombstone
  rcases fetchTombstone_cases r t hco w with
    ⟨e, h1, h2, h⟩ | ⟨e, h1, h2, h⟩ | ⟨o, h1, h2, h⟩ | ⟨o, h1, h2, h⟩ <;> rw [h]
  · exact .inl ⟨e, h1, h2, rfl⟩
  · exact .inr (.inl ⟨e, h1, h2, rfl⟩)
  · exact .inr (.inr (.inl ⟨o, h1, h2, rfl⟩))
  · exact .inr (.inr (.inr ⟨o, h1, h2, rfl⟩))

/-- The two ways `deleteTombstone` can end. -/
theorem deleteTombstone_cases :
    (∃ e, w.deleteAnswer t.key = .error e ∧
      deleteTombstone r t hco w =
        (.error ("failed to delete resource: " ++ e.message),
          r.record ((w.delete t.key).2.setTombstoneStatus t.object .error)
            (tombstoneEvent hco t .tombstoneFailed ("Failed to delete: " ++ e.message)))) ∨
    (w.deleteAnswer t.key = .ok () ∧
      deleteTombstone r t hco w =
        (.ok true, r.record ((w.delete t.key).2.setTombstoneStatus t.object .deleted)
          (tombstoneEvent hco t .tombstoneDeleted t.path))) := by
  unfold deleteTombstone
  cases hans : w.deleteAnswer t.key with
  | error e => exact .inl ⟨e, rfl, by simp [World.delete, hans]⟩
  | ok u => exact .inr ⟨rfl, by simp [World.delete, hans]⟩

/-- One round of the loop, with the call's result left whole. -/
theorem reconcileEach_cons (rest : List TombstoneMetadata) (n : Nat) (errs : List String) :
    reconcileEach r hco (t :: rest) n errs w =
      reconcileEach r hco rest (countDeleted (reconcileTombstone r t hco w).1 n)
        (collectError (reconcileTombstone r t hco w).1 errs) (reconcileTombstone r t hco w).2 := by
  rcases h : reconcileTombstone r t hco w with ⟨res, w'⟩
  cases res with
  | error e => simp [reconcileEach, h, countDeleted, collectError]
  | ok d => cases d <;> simp [reconcileEach, h, countDeleted, collectError]

theorem processTombstones_eq (ts : List TombstoneMetadata) :
    processTombstones r hco ts w =
      (((reconcileEach r hco ts 0 [] w).1.1,
        if (reconcileEach r hco ts 0 [] w).1.2 = [] then none
        else some (aggregatedError (reconcileEach r hco ts 0 [] w).1.2.length)),
        (reconcileEach r hco ts 0 [] w).2) := by
  unfold processTombstones
  rcases reconcileEach r hco ts 0 [] w with ⟨⟨n, errs⟩, w'⟩
  cases errs <;> simp

end Autopilot
