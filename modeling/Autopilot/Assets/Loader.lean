import Autopilot.Unstructured

/-!
# Parsing YAML assets

`ParseYAML` guards one document: a size limit before decoding, a depth limit
after. `ParseMultiYAML` cuts a stream into documents and parses each. The YAML
decoder itself, `sigs.k8s.io/yaml.Unmarshal` into an `Unstructured`, is a
library the repository does not contain; it is the parameter `unmarshal`
throughout, so every result here holds whatever the decoder does.

The cut is a plain `strings.Split` on the five characters `"\n---\n"`, which is
what the proofs about multi-document files turn on.
-/

namespace Autopilot

/-- `MaxYAMLSize`: 10 MiB. -/
def MaxYAMLSize : Nat := 10 * 1024 * 1024

/-- `MaxYAMLDepth`. -/
def MaxYAMLDepth : Nat := 100

mutual

/-- `calculateDepth`: one for the node itself plus the deepest child. -/
def calculateDepth : Value → Nat
  | .object fields => 1 + calculateDepthFields fields
  | .list items => 1 + calculateDepthItems items
  | _ => 1

/-- The running maximum of `calculateDepth`'s loop over a map's values. -/
def calculateDepthFields : List (String × Value) → Nat
  | [] => 0
  | (_, v) :: fs => max (calculateDepth v) (calculateDepthFields fs)

/-- The running maximum of `calculateDepth`'s loop over a list's items. -/
def calculateDepthItems : List Value → Nat
  | [] => 0
  | v :: vs => max (calculateDepth v) (calculateDepthItems vs)

end

section

-- `yaml.Unmarshal(data, &unstructured.Unstructured{})`, the YAML library.
variable (unmarshal : String → Except String Unstructured)

/-- `ParseYAML`. -/
def parseYAML (data : String) : Except String Unstructured :=
  if data.utf8ByteSize > MaxYAMLSize then
    .error ("YAML content exceeds maximum size of " ++ toString MaxYAMLSize ++
      " bytes (got " ++ toString data.utf8ByteSize ++ " bytes)")
  else
    match unmarshal data with
    | .error e => .error ("failed to parse YAML: " ++ e)
    | .ok obj =>
      let depth := calculateDepth (.object obj.object)
      if depth > MaxYAMLDepth then
        .error ("YAML structure exceeds maximum nesting depth of " ++ toString MaxYAMLDepth ++
          " (got " ++ toString depth ++ ")")
      else .ok obj

/-- The document separator `ParseMultiYAML` splits on. -/
def documentSeparator : String := "\n---\n"

/-- `ParseMultiYAML`'s loop from document `i` on: a blank document is
skipped, the first that fails to parse fails the whole stream. -/
def parseDocuments : Nat → List String → Except String (List Unstructured)
  | _, [] => .ok []
  | i, doc :: docs =>
    if Go.trimSpace doc = "" then parseDocuments (i + 1) docs
    else
      match parseYAML unmarshal (Go.trimSpace doc) with
      | .error e => .error ("failed to parse document " ++ toString i ++ ": " ++ e)
      | .ok obj => (obj :: ·) <$> parseDocuments (i + 1) docs

/-- `ParseMultiYAML`. -/
def parseMultiYAML (data : String) : Except String (List Unstructured) :=
  if data.utf8ByteSize > MaxYAMLSize then
    .error ("YAML content exceeds maximum size of " ++ toString MaxYAMLSize ++
      " bytes (got " ++ toString data.utf8ByteSize ++ " bytes)")
  else parseDocuments unmarshal 0 (Go.split data documentSeparator)

end

end Autopilot
