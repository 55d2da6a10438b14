import Mathlib.Logic.Function.Basic
import Autopilot.Assets.Tombstone

/-!
# The API server and the reconciler's sinks

The tombstone reconciler talks to the cluster through two requests, `Get` and
`Delete`, and leaves traces in two sinks of its own process, the tombstone
gauge and the event recorder. `World` holds all of it in one flat record.

The API server is the part the code does not contain, so it is modelled by the
Kubernetes semantics the code relies on. A `Get` answers the object stored
under its key, or NotFound. A `Delete` of an object that finalizers hold only
marks it terminating — it stays readable — and deleting it again changes
nothing; any other object is removed. Two deletions the server delays
otherwise are left out: graceful deletion (a Pod with a grace period stays,
terminating, until its kubelet confirms) and a Namespace's `spec.finalizers`
(it stays until its content is gone); both would be held objects here too.
Any request may instead fail: `faults`
says, request by request, what the server fails the next ones with, so a
theorem over every `faults` list is a theorem over every pattern of failures.

Every request goes into the server's audit log, with its answer, and a
`Delete` also with the object it found under its key. Other actors' writes are
logged there too: they are the steps the interleaving model adds.
-/

namespace Autopilot

/-- Where the API server keeps an object: the kind a request names and the
`client.ObjectKey`. -/
structure ObjKey where
  gvk : GroupVersionKind
  ns : String
  name : String
  deriving DecidableEq, Repr

/-- The key a tombstone's `Get` and `Delete` address. -/
def TombstoneMetadata.key (ts : TombstoneMetadata) : ObjKey := ⟨ts.gvk, ts.ns, ts.name⟩

/-- An error the API server answers with; `notFound` is `errors.IsNotFound`. -/
structure ApiError where
  notFound : Bool
  message : String

/-- NotFound's message; the server names the resource, the kind stands in for
it here. -/
def notFoundMessage (key : ObjKey) : String := key.gvk.kind ++ " " ++ key.name ++ " not found"

/-- One entry of the audit log. -/
inductive Exchange where
  | get (key : ObjKey) (answer : Except ApiError Unstructured)
  | delete (key : ObjKey) (target : Option Unstructured) (answer : Except ApiError Unit)
  | write (key : ObjKey) (obj : Option Unstructured)

/-- The key of a `Get`. -/
def Exchange.getKey : Exchange → Option ObjKey
  | .get k _ => some k
  | _ => none

/-- The key of a `Delete`. -/
def Exchange.deleteKey : Exchange → Option ObjKey
  | .delete k _ _ => some k
  | _ => none

/-- The values of the tombstone gauge. -/
inductive TombstoneStatus where
  | deleted
  | error
  | skipped
  deriving DecidableEq, Repr

/-- The tombstone events, recorded against the HCO. -/
inductive EventReason where
  | tombstoneDeleted
  | tombstoneSkipped
  | tombstoneFailed
  deriving DecidableEq, Repr

/-- An event as the recorder is called with it. -/
structure Event where
  involved : Unstructured
  reason : EventReason
  kind : String
  ns : String
  name : String
  message : String

/-- The API server and the reconciler process's sinks. -/
structure World where
  objects : ObjKey → Option Unstructured
  /-- The `deletionTimestamp` a `Delete` would stamp now. -/
  clock : String
  /-- What the next requests are failed with; `none`, or no entry, serves one. -/
  faults : List (Option String)
  audit : List Exchange
  metrics : List (Unstructured × TombstoneStatus)
  events : List Event

/-- What a served `Delete` at time `clock` leaves under the key of `o`: nothing,
or, for an object with `metadata.finalizers`, the object marked terminating.
Graceful deletion and a Namespace's `spec.finalizers` are not modelled. -/
def afterDelete (clock : String) (o : Unstructured) : Option Unstructured :=
  if o.getFinalizers = [] then none
  else if o.isTerminating then some o
  else some (o.setDeletionTimestamp clock)

namespace World

/-- The failure the next request is answered with, if any. -/
def nextFault (w : World) : Option String := w.faults.head?.join

/-- The answer the next `Get` of `key` gets. -/
def getAnswer (w : World) (key : ObjKey) : Except ApiError Unstructured :=
  match w.nextFault, w.objects key with
  | some msg, _ => .error ⟨false, msg⟩
  | none, some o => .ok o
  | none, none => .error ⟨true, notFoundMessage key⟩

/-- `client.Get`. -/
def get (w : World) (key : ObjKey) : Except ApiError Unstructured × World :=
  let answer := w.getAnswer key
  (answer, { w with faults := w.faults.tail, audit := w.audit ++ [.get key answer] })


/-- The answer the next `Delete` of `key` gets. -/
def deleteAnswer (w : World) (key : ObjKey) : Except ApiError Unit :=
  match w.nextFault, w.objects key with
  | some msg, _ => .error ⟨false, msg⟩
  | none, some _ => .ok ()
  | none, none => .error ⟨true, notFoundMessage key⟩

/-- `client.Delete`. -/
def delete (w : World) (key : ObjKey) : Except ApiError Unit × World :=
  let answer := w.deleteAnswer key
  let objects := match answer, w.objects key with
    | .ok (), some o => Function.update w.objects key (afterDelete w.clock o)
    | _, _ => w.objects
  (answer, { w with objects := objects, faults := w.faults.tail,
                    audit := w.audit ++ [.delete key (w.objects key) answer] })

/-- Another actor stores `obj` under `key`, or deletes it for `none`. -/
def write (w : World) (key : ObjKey) (obj : Option Unstructured) : World :=
  { w with objects := Function.update w.objects key obj, audit := w.audit ++ [.write key obj] }

/-- `observability.SetTombstoneStatus`. -/
def setTombstoneStatus (w : World) (obj : Unstructured) (st : TombstoneStatus) : World :=
  { w with metrics := w.metrics ++ [(obj, st)] }

end World

end Autopilot

namespace Autopilot.World

variable (w : World) (key : ObjKey)

@[simp] theorem get_fst : (w.get key).1 = w.getAnswer key := rfl
@[simp] theorem get_audit : (w.get key).2.audit = w.audit ++ [.get key (w.getAnswer key)] := rfl
@[simp] theorem get_objects : (w.get key).2.objects = w.objects := rfl
@[simp] theorem get_metrics : (w.get key).2.metrics = w.metrics := rfl
@[simp] theorem get_events : (w.get key).2.events = w.events := rfl
@[simp] theorem get_clock : (w.get key).2.clock = w.clock := rfl
@[simp] theorem get_faults : (w.get key).2.faults = w.faults.tail := rfl

@[simp] theorem delete_fst : (w.delete key).1 = w.deleteAnswer key := rfl
@[simp] theorem delete_audit :
    (w.delete key).2.audit = w.audit ++ [.delete key (w.objects key) (w.deleteAnswer key)] := rfl
@[simp] theorem delete_metrics : (w.delete key).2.metrics = w.metrics := rfl
@[simp] theorem delete_events : (w.delete key).2.events = w.events := rfl
@[simp] theorem delete_clock : (w.delete key).2.clock = w.clock := rfl
@[simp] theorem delete_faults : (w.delete key).2.faults = w.faults.tail := rfl

variable (obj : Unstructured) (st : TombstoneStatus)

@[simp] theorem setTombstoneStatus_audit : (w.setTombstoneStatus obj st).audit = w.audit := rfl
@[simp] theorem setTombstoneStatus_objects :
    (w.setTombstoneStatus obj st).objects = w.objects := rfl
@[simp] theorem setTombstoneStatus_metrics :
    (w.setTombstoneStatus obj st).metrics = w.metrics ++ [(obj, st)] := rfl
@[simp] theorem setTombstoneStatus_faults : (w.setTombstoneStatus obj st).faults = w.faults := rfl
@[simp] theorem setTombstoneStatus_clock : (w.setTombstoneStatus obj st).clock = w.clock := rfl
@[simp] theorem setTombstoneStatus_events : (w.setTombstoneStatus obj st).events = w.events := rfl

variable (o : Option Unstructured)

@[simp] theorem write_audit : (w.write key o).audit = w.audit ++ [.write key o] := rfl
@[simp] theorem write_metrics : (w.write key o).metrics = w.metrics := rfl
@[simp] theorem write_events : (w.write key o).events = w.events := rfl

end Autopilot.World
