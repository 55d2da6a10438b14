import Mathlib.Logic.Relation
import Autopilot.Engine.Tombstone

/-!
# The tombstone reconciler among other writers

The reconciler is not alone on the API server: users, other operators and
garbage collection write objects while it runs. Its only suspension points are
its requests, so the system is the reconciler's requests interleaved with
arbitrary writes. A tombstone takes one step for its `Get` (with the label
check), and, when the object passed, a second for its `Delete`; in between the
reconciler holds the object it fetched, in `fetched`.

`Step` admits a write whenever `Allowed` says so: every write (`anyWrite`),
writes kept off the key whose object the reconciler holds (`awayFromFetched`),
or none (`noWrite`). The steps are `fetchTombstone` and `deleteTombstone`
themselves, so a run with no writes is `ReconcileTombstones`' loop
(`reconcileEach_reachable`).
-/

namespace Autopilot

/-- The reconciler inside `ReconcileTombstones`' loop. -/
structure Reconciling where
  pending : List TombstoneMetadata
  /-- The tombstone between its `Get` and its `Delete`, with the object fetched. -/
  fetched : Option (TombstoneMetadata × Unstructured)
  deleted : Nat
  errors : List String

/-- The reconciler and the API server it shares. -/
structure Sys where
  loop : Reconciling
  world : World

/-- The loop about to start on `ts`. -/
def Sys.init (ts : List TombstoneMetadata) (w : World) : Sys := ⟨⟨ts, none, 0, []⟩, w⟩

@[simp] theorem Sys.init_loop (ts : List TombstoneMetadata) (w : World) :
    (Sys.init ts w).loop = ⟨ts, none, 0, []⟩ := rfl

@[simp] theorem Sys.init_world (ts : List TombstoneMetadata) (w : World) :
    (Sys.init ts w).world = w := rfl

/-- `deletedCount` after a tombstone's result. -/
def countDeleted : Except String Bool → Nat → Nat
  | .ok true, n => n + 1
  | _, n => n

/-- `aggregatedErrors` after a tombstone's result. -/
def collectError : Except String Bool → List String → List String
  | .error e, errs => errs ++ [e]
  | _, errs => errs

variable (r : TombstoneReconciler) (hco : Unstructured)

/-- The `Get` of the next tombstone `t`, with everything up to the `Delete`. -/
def fetchStep (t : TombstoneMetadata) (rest : List TombstoneMetadata) (s : Sys) : Sys :=
  match fetchTombstone r t hco s.world with
  | (.done res, w) =>
    ⟨⟨rest, none, countDeleted res s.loop.deleted, collectError res s.loop.errors⟩, w⟩
  | (.toDelete live, w) => ⟨{ s.loop with pending := rest, fetched := some (t, live) }, w⟩

/-- The `Delete` of the held tombstone `t`, and what follows it. -/
def deleteStep (t : TombstoneMetadata) (s : Sys) : Sys :=
  match deleteTombstone r t hco s.world with
  | (res, w) =>
    ⟨⟨s.loop.pending, none, countDeleted res s.loop.deleted, collectError res s.loop.errors⟩, w⟩

/-- One step of the system: a request of the reconciler, or another actor's
write that `Allowed` admits. -/
inductive Step (Allowed : Sys → ObjKey → Prop) : Sys → Sys → Prop where
  | fetch {s : Sys} {t : TombstoneMetadata} {rest : List TombstoneMetadata} :
      s.loop.fetched = none → s.loop.pending = t :: rest → Step Allowed s (fetchStep r hco t rest s)
  | delete {s : Sys} {t : TombstoneMetadata} {live : Unstructured} :
      s.loop.fetched = some (t, live) → Step Allowed s (deleteStep r hco t s)
  | write {s : Sys} (k : ObjKey) (o : Option Unstructured) :
      Allowed s k → Step Allowed s { s with world := s.world.write k o }

/-- Writes by anyone, anywhere, at any time. -/
def anyWrite : Sys → ObjKey → Prop := fun _ _ => True

/-- Writes that leave alone the key whose object the reconciler holds. -/
def awayFromFetched (s : Sys) (k : ObjKey) : Prop :=
  ∀ t live, s.loop.fetched = some (t, live) → k ≠ t.key

/-- No other writer at all. -/
def noWrite : Sys → ObjKey → Prop := fun _ _ => False

end Autopilot
