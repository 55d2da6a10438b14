import Autopilot.Go

/-!
# Unstructured objects

Every Kubernetes object the autopilot touches is an
`unstructured.Unstructured`: a JSON object decoded into Go's
`map[string]interface{}`. `Value` is that decoded tree — maps and lists over
scalars — and `Unstructured` its top-level map. Go maps are unordered; an
association list stands for one here, read through its first entry for a key,
which is the only entry a decoded map has.

The accessors are apimachinery's, and their failure modes matter to the code
that calls them. `GetKind` and friends read a missing or non-string field as
`""`. `GetLabels` and `GetAnnotations` answer a nil map — `none` here — when the
field is missing, is not a map, or holds a value that is not a string; Go then
reads every key of that nil map as `""`, which is `StringMap.index`.
-/

namespace Autopilot

/-- A decoded JSON value, as `map[string]interface{}` holds it. -/
inductive Value where
  | null
  | bool (b : Bool)
  | int (i : Int)
  | float (text : String)
  | string (s : String)
  | list (items : List Value)
  | object (fields : List (String × Value))
  deriving Repr, Inhabited

/-- `map[string]string`, as `GetLabels` and `GetAnnotations` return it. -/
abbrev StringMap := List (String × String)

/-- `m[k]` on a Go string map that may be nil: `""` for a missing key. -/
def StringMap.index (m : Option StringMap) (k : String) : String :=
  ((m.getD []).lookup k).getD ""

/-- `_, ok := m[k]`. -/
def StringMap.has (m : Option StringMap) (k : String) : Bool :=
  ((m.getD []).lookup k).isSome

/-- Indexing a map compares with a non-empty value exactly as its lookup does. -/
theorem StringMap.index_some_eq_iff {m : StringMap} {k v : String} (hv : v ≠ "") :
    StringMap.index (some m) k = v ↔ m.lookup k = some v := by
  cases h : m.lookup k <;> simp [StringMap.index, h, Ne.symm hv]

theorem lookup_cons_ite {β : Type} (k a : String) (b : β) (es : List (String × β)) :
    ((k, b) :: es).lookup a = if a = k then some b else es.lookup a := by
  simp only [List.lookup_cons]; split <;> simp_all

/-- A Go `map[string]bool`. It reads a missing key as `false`, and `set` keeps
the keys distinct, so its length is the map's. -/
abbrev BoolMap := List (String × Bool)

/-- `m[k]`: `false` for a missing key. -/
def BoolMap.get (m : BoolMap) (k : String) : Bool := (m.lookup k).getD false

/-- `m[k] = v`. -/
def BoolMap.set (m : BoolMap) (k : String) (v : Bool) : BoolMap :=
  (k, v) :: m.filter (·.1 != k)

/-- Dropping the entries of one key leaves every other key's lookup alone. -/
theorem lookup_filter_ne {β : Type} (m : List (String × β)) {k k' : String} (h : k' ≠ k) :
    (m.filter (·.1 != k)).lookup k' = m.lookup k' := by
  induction m with
  | nil => rfl
  | cons p m ih =>
    obtain ⟨k₁, v₁⟩ := p
    by_cases h₁ : k₁ = k
    · subst h₁; simp [lookup_cons_ite, h, ih]
    · simp [List.filter_cons, lookup_cons_ite, h₁, ih]

theorem BoolMap.get_set (m : BoolMap) (k k' : String) (v : Bool) :
    (m.set k v).get k' = if k' = k then v else m.get k' := by
  unfold BoolMap.get BoolMap.set
  by_cases h : k' = k
  · simp [h, lookup_cons_ite]
  · simp [lookup_cons_ite, h, lookup_filter_ne m h]

/-- A map of length zero answers `false` everywhere. -/
theorem BoolMap.get_of_length_eq_zero {m : BoolMap} (h : m.length = 0) (k : String) :
    m.get k = false := by
  simp [List.length_eq_zero.mp h, BoolMap.get]

/-- `unstructured.Unstructured`: the object's top-level map. -/
structure Unstructured where
  object : List (String × Value)
  deriving Repr, Inhabited

/-- `schema.GroupVersionKind`. -/
structure GroupVersionKind where
  group : String
  version : String
  kind : String
  deriving DecidableEq, Repr, Inhabited

/-- `NestedFieldNoCopy`: the value under a path of map keys; a step through
anything but a map (`null` included) finds nothing. -/
def nestedField : Value → List String → Option Value
  | v, [] => some v
  | .object fs, f :: rest =>
    match fs.lookup f with
    | some v => nestedField v rest
    | none => none
  | _, _ :: _ => none

/-- `field = value`, replacing the entry for `field` or adding one. -/
def setField : List (String × Value) → String → Value → List (String × Value)
  | [], k, v => [(k, v)]
  | (k', v') :: fs, k, v => if k' = k then (k, v) :: fs else (k', v') :: setField fs k v

@[simp] theorem nestedField_nil (v : Value) : nestedField v [] = some v := by
  cases v <;> rfl

theorem nestedField_object_cons (fs : List (String × Value)) (f : String) (rest : List String) :
    nestedField (.object fs) (f :: rest) = (fs.lookup f).bind (nestedField · rest) := by
  simp only [nestedField]; cases fs.lookup f <;> rfl

@[simp] theorem lookup_setField_self (fs : List (String × Value)) (k : String) (v : Value) :
    (setField fs k v).lookup k = some v := by
  induction fs with
  | nil => simp [setField, lookup_cons_ite]
  | cons kv fs ih =>
    obtain ⟨k', v'⟩ := kv
    unfold setField; split
    · simp_all [lookup_cons_ite]
    · next hne => simp [lookup_cons_ite, Ne.symm hne, ih]

theorem lookup_setField_of_ne (fs : List (String × Value)) {k k' : String} (v : Value)
    (h : k' ≠ k) : (setField fs k v).lookup k' = fs.lookup k' := by
  induction fs with
  | nil => simp [setField, lookup_cons_ite, h]
  | cons kv fs ih =>
    obtain ⟨k'', v'⟩ := kv
    unfold setField; split
    · next he => subst he; simp [lookup_cons_ite, h]
    · simp [lookup_cons_ite, ih]

namespace Unstructured

/-- `getNestedString`: the string at a path, `""` if it is missing or no string. -/
def nestedString (u : Unstructured) (fields : List String) : String :=
  match nestedField (.object u.object) fields with
  | some (.string s) => s
  | _ => ""

/-- `NestedStringMap`: the map at a path if every value in it is a string. -/
def nestedStringMap (u : Unstructured) (fields : List String) : Option StringMap :=
  match nestedField (.object u.object) fields with
  | some (.object fs) =>
    fs.mapM fun kv => match kv.2 with
      | .string s => some (kv.1, s)
      | _ => none
  | _ => none

/-- `NestedStringSlice`: the list at a path if every item in it is a string. -/
def nestedStringSlice (u : Unstructured) (fields : List String) : Option (List String) :=
  match nestedField (.object u.object) fields with
  | some (.list items) =>
    items.mapM fun v => match v with
      | .string s => some s
      | _ => none
  | _ => none

def getKind (u : Unstructured) : String := u.nestedString ["kind"]

def getAPIVersion (u : Unstructured) : String := u.nestedString ["apiVersion"]

def getName (u : Unstructured) : String := u.nestedString ["metadata", "name"]

def getNamespace (u : Unstructured) : String := u.nestedString ["metadata", "namespace"]

def getLabels (u : Unstructured) : Option StringMap := u.nestedStringMap ["metadata", "labels"]

def getAnnotations (u : Unstructured) : Option StringMap :=
  u.nestedStringMap ["metadata", "annotations"]

/-- The value of annotation `k`, if the object has one. -/
def annotationValue (u : Unstructured) (k : String) : Option String :=
  u.getAnnotations.bind (·.lookup k)

/-- `GetFinalizers`: nil unless every entry is a string. -/
def getFinalizers (u : Unstructured) : List String :=
  (u.nestedStringSlice ["metadata", "finalizers"]).getD []

/-- The object carries a `metadata.deletionTimestamp`: it is terminating. -/
def isTerminating (u : Unstructured) : Bool :=
  (nestedField (.object u.object) ["metadata", "deletionTimestamp"]).isSome

/-- `SetDeletionTimestamp`, through `SetNestedField`: a `metadata` that is not
a map is replaced. -/
def setDeletionTimestamp (u : Unstructured) (t : String) : Unstructured :=
  let meta := match u.object.lookup "metadata" with
    | some (.object m) => m
    | _ => []
  ⟨setField u.object "metadata" (.object (setField meta "deletionTimestamp" (.string t)))⟩

/-- A field of `metadata` other than `deletionTimestamp` reads the same after
`SetDeletionTimestamp`. -/
theorem nestedField_setDeletionTimestamp (u : Unstructured) (t : String) {f : String}
    (hf : f ≠ "deletionTimestamp") :
    nestedField (.object (u.setDeletionTimestamp t).object) ["metadata", f] =
      nestedField (.object u.object) ["metadata", f] := by
  simp only [setDeletionTimestamp, nestedField_object_cons, lookup_setField_self, Option.bind_some,
    lookup_setField_of_ne _ _ hf]
  split
  · next m hm => simp [hm, nestedField_object_cons, lookup_setField_of_ne _ _ hf]
  · next hm =>
    have hnil : nestedField (.object (setField [] "deletionTimestamp" (.string t))) [f] = none := by
      simp [setField, nestedField_object_cons, lookup_cons_ite, hf]
    rw [Option.some_bind, hnil]
    cases h : u.object.lookup "metadata" with
    | none => rfl
    | some v => cases v <;> simp_all [nestedField]

@[simp] theorem getFinalizers_setDeletionTimestamp (u : Unstructured) (t : String) :
    (u.setDeletionTimestamp t).getFinalizers = u.getFinalizers := by
  simp only [getFinalizers, nestedStringSlice,
    nestedField_setDeletionTimestamp u t (f := "finalizers") (by decide)]

@[simp] theorem getLabels_setDeletionTimestamp (u : Unstructured) (t : String) :
    (u.setDeletionTimestamp t).getLabels = u.getLabels := by
  simp only [getLabels, nestedStringMap,
    nestedField_setDeletionTimestamp u t (f := "labels") (by decide)]

@[simp] theorem isTerminating_setDeletionTimestamp (u : Unstructured) (t : String) :
    (u.setDeletionTimestamp t).isTerminating = true := by
  simp [isTerminating, setDeletionTimestamp, nestedField_object_cons]

end Unstructured

/-- `schema.ParseGroupVersion`: `group/version`, a bare version, or an error
(`none`) for more than one slash. -/
def parseGroupVersion (gv : String) : Option (String × String) :=
  if gv = "" ∨ gv = "/" then some ("", "")
  else match Go.split gv "/" with
    | [v] => some ("", v)
    | [g, v] => some (g, v)
    | _ => none

/-- `Unstructured.GroupVersionKind`: empty when the apiVersion does not parse. -/
def Unstructured.groupVersionKind (u : Unstructured) : GroupVersionKind :=
  match parseGroupVersion u.getAPIVersion with
  | some (g, v) => ⟨g, v, u.getKind⟩
  | none => ⟨"", "", ""⟩

end Autopilot
