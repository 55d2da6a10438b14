import Autopilot.Assets.Loader

/-!
# Loading tombstones

A tombstone is an embedded YAML declaration of an object the autopilot once
managed and must now delete. `LoadTombstones` walks the embedded `tombstones`
directory, parses every `.yaml` and `.yaml.tpl` file with `ParseMultiYAML`,
validates each object and returns them in walk order.

The walk is `fs.WalkDir` over an `embed.FS`. What it can show the callback is
the entries in walk order — the root among them — or, when the root cannot be
opened, one error for the root; `TombstonesWalk` is exactly that. Reading a
file the walk has just listed cannot fail on an embedded file system, so each
file entry carries its contents. The walk stops at the first error the
callback returns, which `foldlM` over `Except` does too.
-/

namespace Autopilot

/-- `TombstoneLabel`. -/
def TombstoneLabel : String := "platform.kubevirt.io/managed-by"

/-- `TombstoneLabelValue`. -/
def TombstoneLabelValue : String := "virt-platform-autopilot"

/-- `TombstoneMetadata`. -/
structure TombstoneMetadata where
  path : String
  gvk : GroupVersionKind
  /-- `Namespace`, empty for a cluster-scoped object. -/
  ns : String
  name : String
  object : Unstructured
  deriving Inhabited

/-- `validateTombstone`: `none` when the object is a valid tombstone, else
the error. -/
def validateTombstone (obj : Unstructured) (path : String) : Option String :=
  if obj.getKind = "" then some ("tombstone " ++ path ++ " missing required field: kind")
  else if obj.getAPIVersion = "" then
    some ("tombstone " ++ path ++ " missing required field: apiVersion")
  else if obj.getName = "" then
    some ("tombstone " ++ path ++ " missing required field: metadata.name")
  else
    match obj.getLabels with
    | none =>
      some ("tombstone " ++ path ++ " missing required label " ++ TombstoneLabel ++ "=" ++
        TombstoneLabelValue ++ " (safety check)")
    | some labels =>
      if StringMap.index (some labels) TombstoneLabel ≠ TombstoneLabelValue then
        some ("tombstone " ++ path ++ " has incorrect label value for " ++ TombstoneLabel ++
          ": expected " ++ TombstoneLabelValue ++ ", got " ++
          StringMap.index (some labels) TombstoneLabel ++ " (safety check)")
      else none

/-- The metadata `LoadTombstones` records for an object of the file at `path`. -/
def tombstoneOf (path : String) (obj : Unstructured) : TombstoneMetadata :=
  ⟨path, obj.groupVersionKind, obj.getNamespace, obj.getName, obj⟩

/-- An entry `fs.WalkDir` visits, a file with its contents. -/
inductive DirEntry where
  | dir (path : String)
  | file (path : String) (data : String)

/-- What the walk of the tombstones directory shows: the entries in walk
order, or the error handed to the callback for a root it cannot open. -/
abbrev TombstonesWalk := Except String (List DirEntry)

/-- The files the walk callback parses. -/
def isTombstoneFile (path : String) : Bool :=
  Go.hasSuffix path ".yaml" || Go.hasSuffix path ".yaml.tpl"

section

variable (unmarshal : String → Except String Unstructured)

/-- The loop over one file's objects: validate each, then append it. -/
def appendTombstones (path : String) (acc : List TombstoneMetadata) (objects : List Unstructured) :
    Except String (List TombstoneMetadata) :=
  objects.foldlM (fun acc obj =>
    match validateTombstone obj path with
    | some e => .error e
    | none => .ok (acc ++ [tombstoneOf path obj])) acc

/-- The walk callback of `LoadTombstones` on one entry. -/
def visitTombstoneEntry (acc : List TombstoneMetadata) :
    DirEntry → Except String (List TombstoneMetadata)
  | .dir _ => .ok acc
  | .file path data =>
    if !isTombstoneFile path then .ok acc
    else
      match parseMultiYAML unmarshal data with
      | .error e => .error ("failed to parse tombstone file " ++ path ++ ": " ++ e)
      | .ok objects => appendTombstones path acc objects

/-- `fs.WalkDir` with `LoadTombstones`' callback; a root that does not exist
is an empty directory. -/
def walkTombstones : TombstonesWalk → Except String (List TombstoneMetadata)
  | .error err =>
    if Go.contains err "no such file or directory" || Go.contains err "file does not exist" then
      .ok []
    else .error err
  | .ok entries => entries.foldlM (visitTombstoneEntry unmarshal) []

/-- `LoadTombstones`. -/
def loadTombstones (walk : TombstonesWalk) : Except String (List TombstoneMetadata) :=
  match walkTombstones unmarshal walk with
  | .error e => .error ("failed to load tombstones: " ++ e)
  | .ok ts => .ok ts

end

end Autopilot
