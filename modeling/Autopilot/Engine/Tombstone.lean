import Autopilot.Cluster

/-!
# The tombstone reconciler

`ReconcileTombstones` loads the tombstones and runs `reconcileTombstone` on
each, best effort: an error is logged and collected, and the loop goes on.
`reconcileTombstone` fetches the live object, skips it unless it carries the
ownership label, and deletes it otherwise.

`reconcileTombstone` is written as its two halves, split at the gap between its
`Get` and its `Delete`: `fetchTombstone` is lines 108–164 of the source and
`deleteTombstone` lines 166–198. Sequentially nothing can happen in that gap,
and the two halves composed are the function; the interleaving model lets
other writers in there.
-/

namespace Autopilot

/-- `TombstoneReconciler`. Its client and loader are the `World` and the walk
it runs on; what remains is whether `SetEventRecorder` gave it a recorder. -/
structure TombstoneReconciler where
  hasRecorder : Bool

/-- Record an event if there is a recorder; a nil recorder drops it. -/
def TombstoneReconciler.record (r : TombstoneReconciler) (w : World) (e : Event) : World :=
  if r.hasRecorder then { w with events := w.events ++ [e] } else w

/-- The safety check `labels == nil || labels[TombstoneLabel] != TombstoneLabelValue`. -/
def labelMismatch (labels : Option StringMap) : Bool :=
  labels.isNone || StringMap.index labels TombstoneLabel != TombstoneLabelValue

/-- The ownership label `managed-by=virt-platform-autopilot` on the object. -/
def Unstructured.HasManagedByLabel (o : Unstructured) : Prop :=
  o.getLabels.bind (·.lookup TombstoneLabel) = some TombstoneLabelValue

instance (o : Unstructured) : Decidable o.HasManagedByLabel :=
  inferInstanceAs (Decidable (_ = _))

/-- Where `reconcileTombstone` stands after its `Get`: finished, or holding a
live object that passed the label check. -/
inductive Fetched where
  | done (result : Except String Bool)
  | toDelete (live : Unstructured)

/-- The event `reconcileTombstone` records about `ts`. -/
def tombstoneEvent (hco : Unstructured) (ts : TombstoneMetadata) (reason : EventReason)
    (message : String) : Event :=
  ⟨hco, reason, ts.gvk.kind, ts.ns, ts.name, message⟩

/-- `reconcileTombstone` up to its `Delete`. -/
def fetchTombstone (r : TombstoneReconciler) (ts : TombstoneMetadata) (hco : Unstructured)
    (w : World) : Fetched × World :=
  match w.get ts.key with
  | (.error err, w) =>
    if err.notFound then (.done (.ok false), w.setTombstoneStatus ts.object .deleted)
    else
      let w := w.setTombstoneStatus ts.object .error
      (.done (.error ("failed to get resource: " ++ err.message)),
        r.record w (tombstoneEvent hco ts .tombstoneFailed
          ("Failed to get resource: " ++ err.message)))
  | (.ok live, w) =>
    if labelMismatch live.getLabels then
      let w := w.setTombstoneStatus ts.object .skipped
      (.done (.ok false), r.record w (tombstoneEvent hco ts .tombstoneSkipped
        "Label mismatch - resource not managed by virt-platform-autopilot"))
    else (.toDelete live, w)

/-- `reconcileTombstone` from its `Delete` on. The request addresses the key
the live object was fetched under, which is where the server found it. -/
def deleteTombstone (r : TombstoneReconciler) (ts : TombstoneMetadata) (hco : Unstructured)
    (w : World) : Except String Bool × World :=
  match w.delete ts.key with
  | (.error err, w) =>
    let w := w.setTombstoneStatus ts.object .error
    (.error ("failed to delete resource: " ++ err.message),
      r.record w (tombstoneEvent hco ts .tombstoneFailed ("Failed to delete: " ++ err.message)))
  | (.ok (), w) =>
    let w := w.setTombstoneStatus ts.object .deleted
    (.ok true, r.record w (tombstoneEvent hco ts .tombstoneDeleted ts.path))

/-- `reconcileTombstone`: whether the object was deleted, or the error. -/
def reconcileTombstone (r : TombstoneReconciler) (ts : TombstoneMetadata) (hco : Unstructured)
    (w : World) : Except String Bool × World :=
  match fetchTombstone r ts hco w with
  | (.done result, w) => (result, w)
  | (.toDelete _, w) => deleteTombstone r ts hco w

/-- The loop of `ReconcileTombstones`, carrying `deletedCount` and
`aggregatedErrors`. -/
def reconcileEach (r : TombstoneReconciler) (hco : Unstructured) :
    List TombstoneMetadata → Nat → List String → World → (Nat × List String) × World
  | [], n, errs, w => ((n, errs), w)
  | ts :: rest, n, errs, w =>
    match reconcileTombstone r ts hco w with
    | (.error e, w) => reconcileEach r hco rest n (errs ++ [e]) w
    | (.ok deleted, w) => reconcileEach r hco rest (if deleted then n + 1 else n) errs w

/-- The aggregated error `ReconcileTombstones` returns for `k` failures. -/
def aggregatedError (k : Nat) : String :=
  "tombstone processing completed with " ++ toString k ++ " errors (see logs for details)"

/-- `ReconcileTombstones` from the loop on, for the tombstones it loaded. -/
def processTombstones (r : TombstoneReconciler) (hco : Unstructured) (ts : List TombstoneMetadata)
    (w : World) : (Nat × Option String) × World :=
  match reconcileEach r hco ts 0 [] w with
  | ((n, errs), w) => if errs.length > 0 then ((n, some (aggregatedError errs.length)), w)
    else ((n, none), w)

/-- `ReconcileTombstones`: the number deleted and the error, if any. -/
def reconcileTombstones (unmarshal : String → Except String Unstructured)
    (r : TombstoneReconciler) (walk : TombstonesWalk) (hco : Unstructured) (w : World) :
    (Nat × Option String) × World :=
  match loadTombstones unmarshal walk with
  | .error e => ((0, some ("failed to load tombstones: " ++ e)), w)
  | .ok [] => ((0, none), w)
  | .ok ts => processTombstones r hco ts w

end Autopilot

namespace Autopilot.TombstoneReconciler

variable (r : TombstoneReconciler) (w : World) (e : Event)

@[simp] theorem record_audit : (r.record w e).audit = w.audit := by
  unfold record; split <;> rfl
@[simp] theorem record_objects : (r.record w e).objects = w.objects := by
  unfold record; split <;> rfl
@[simp] theorem record_metrics : (r.record w e).metrics = w.metrics := by
  unfold record; split <;> rfl
@[simp] theorem record_faults : (r.record w e).faults = w.faults := by
  unfold record; split <;> rfl
@[simp] theorem record_clock : (r.record w e).clock = w.clock := by
  unfold record; split <;> rfl
@[simp] theorem record_events :
    (r.record w e).events = w.events ++ if r.hasRecorder then [e] else [] := by
  unfold record; split <;> simp_all

end Autopilot.TombstoneReconciler
