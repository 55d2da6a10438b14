import Autopilot.Engine.Exclusion

/-!
# Rendering previews

The render CLI and the debug endpoints show what the controller would apply
without applying it. `BuildOutputs` gives each asset a `RenderOutput`: its
conditions are checked with `CheckConditions`, it is rendered, and the
rendered object is checked against the root-exclusion rules of the HCO's
`disabled-resources` annotation. The status says which of these stopped it:
`EXCLUDED`, `ERROR`, `FILTERED`, or `INCLUDED` with the object.

The rule-based exclusion engine these paths call (`ParseDisabledResources`
returning rules and an error, `IsResourceExcluded` over kind, namespace and
name) is not the map-based one of `exclusion.go`, and is not in the source;
it is a pair of parameters, with the renderer as a third.

`BuildOutputs` writes its classification into each of its branches together
with whether `showExcluded` keeps the entry. `assetOutput` states the
classification once; `buildStep_eq` says every branch is that entry, kept when
the flag asks or when it is `INCLUDED` or `ERROR`.
-/

namespace Autopilot

/-- `assets.ConditionType`; any other string is a type no `switch` case
matches. -/
inductive ConditionType where
  | annotationMatch
  | featureGate
  | hardwareDetection
  | other (name : String)
  deriving DecidableEq, Repr

/-- `assets.AssetCondition`. -/
structure AssetCondition where
  type : ConditionType
  key : String
  value : String
  detector : String
  deriving DecidableEq, Repr

/-- `assets.AssetMetadata`, with the fields the render paths read. -/
structure AssetMetadata where
  name : String
  path : String
  component : String
  conditions : List AssetCondition
  deriving DecidableEq, Repr

/-- The five hardware facts of the render context. -/
structure HardwareContext where
  gpuPresent : Bool
  pciDevicesPresent : Bool
  numaNodesPresent : Bool
  vfioCapable : Bool
  usbDevicesPresent : Bool
  deriving DecidableEq, Repr

/-- `pkgcontext.RenderContext`. -/
structure RenderContext where
  hco : Unstructured
  hardware : HardwareContext

/-- `RenderOutput`. -/
structure RenderOutput where
  asset : String
  path : String
  component : String
  status : String
  reason : String
  conditions : List AssetCondition
  object : Option Unstructured

/-- The annotation `CheckConditions` reads feature gates from. -/
def featureGatesKey : String := "platform.kubevirt.io/feature-gates"

/-- Whether one condition passes in `CheckConditions`' loop. -/
def conditionPasses (hco : Unstructured) (condition : AssetCondition) : Bool :=
  match condition.type with
  | .annotationMatch => StringMap.index hco.getAnnotations condition.key == condition.value
  | .featureGate =>
    Go.contains (StringMap.index hco.getAnnotations featureGatesKey) condition.value
  | .hardwareDetection => false
  | .other _ => true

/-- `CheckConditions`. -/
def checkConditions (assetMeta : AssetMetadata) (renderCtx : RenderContext) : Bool :=
  if assetMeta.conditions.length = 0 then true
  else assetMeta.conditions.all (conditionPasses renderCtx.hco)

/-- `RenderOutput{Asset, Path, Component, Conditions}`. -/
def newOutput (assetMeta : AssetMetadata) : RenderOutput :=
  ⟨assetMeta.name, assetMeta.path, assetMeta.component, "", "", assetMeta.conditions, none⟩

/-- The same output with a status and a reason. -/
def RenderOutput.withStatus (o : RenderOutput) (status reason : String) : RenderOutput :=
  { o with status := status, reason := reason }

section

variable {Rule : Type} (parseDisabledResources : String → Except String (List Rule))
  (isResourceExcluded : String → String → String → List Rule → Bool)
  (renderAsset : AssetMetadata → RenderContext → Except String (Option Unstructured))

/-- The rules `BuildOutputs` parses once: none when the annotation is empty
or does not parse. -/
def exclusionRules (renderCtx : RenderContext) : List Rule :=
  let ann := StringMap.index renderCtx.hco.getAnnotations DisabledResourcesAnnotation
  if ann ≠ "" then
    match parseDisabledResources ann with
    | .ok rules => rules
    | .error _ => []
  else []

/-- One iteration of `BuildOutputs`' loop: the output it appends, if any. -/
def buildStep (rules : List Rule) (renderCtx : RenderContext) (showExcluded : Bool)
    (assetMeta : AssetMetadata) : Option RenderOutput :=
  let output := newOutput assetMeta
  if !checkConditions assetMeta renderCtx then
    if showExcluded then some (output.withStatus "EXCLUDED" "Conditions not met") else none
  else
    match renderAsset assetMeta renderCtx with
    | .error err => some (output.withStatus "ERROR" err)
    | .ok none =>
      if showExcluded then
        some (output.withStatus "EXCLUDED" "Conditional template rendered empty")
      else none
    | .ok (some rendered) =>
      if isResourceExcluded rendered.getKind rendered.getNamespace rendered.getName rules then
        if showExcluded then
          some (output.withStatus "FILTERED" "Root exclusion (disabled-resources annotation)")
        else none
      else some { output with status := "INCLUDED", object := some rendered }

/-- `BuildOutputs`. -/
def buildOutputs (assetList : List AssetMetadata) (renderCtx : RenderContext)
    (showExcluded : Bool) : List RenderOutput :=
  let rules := exclusionRules parseDisabledResources renderCtx
  assetList.foldl (fun outputs assetMeta =>
    outputs ++ (buildStep isResourceExcluded renderAsset rules renderCtx showExcluded
      assetMeta).toList) []

/-- The entry an asset gets under the rules, whatever `showExcluded` says. -/
def assetOutput (rules : List Rule) (renderCtx : RenderContext) (assetMeta : AssetMetadata) :
    RenderOutput :=
  let output := newOutput assetMeta
  if !checkConditions assetMeta renderCtx then output.withStatus "EXCLUDED" "Conditions not met"
  else
    match renderAsset assetMeta renderCtx with
    | .error err => output.withStatus "ERROR" err
    | .ok none => output.withStatus "EXCLUDED" "Conditional template rendered empty"
    | .ok (some rendered) =>
      if isResourceExcluded rendered.getKind rendered.getNamespace rendered.getName rules then
        output.withStatus "FILTERED" "Root exclusion (disabled-resources annotation)"
      else { output with status := "INCLUDED", object := some rendered }

/-- The statuses an output keeps without `showExcluded`. -/
def RenderOutput.shownByDefault (o : RenderOutput) : Bool :=
  o.status == "INCLUDED" || o.status == "ERROR"

/-- Every branch of the loop body appends the asset's entry, exactly when the
flag asks for excluded entries or the entry is shown anyway. -/
theorem buildStep_eq (rules : List Rule) (renderCtx : RenderContext) (showExcluded : Bool)
    (assetMeta : AssetMetadata) :
    buildStep isResourceExcluded renderAsset rules renderCtx showExcluded assetMeta =
      if showExcluded || (assetOutput isResourceExcluded renderAsset rules renderCtx
        assetMeta).shownByDefault then
        some (assetOutput isResourceExcluded renderAsset rules renderCtx assetMeta)
      else none := by
  unfold buildStep assetOutput
  cases checkConditions assetMeta renderCtx
  · cases showExcluded <;> rfl
  · rcases renderAsset assetMeta renderCtx with err | _ | rendered
    · cases showExcluded <;> rfl
    · cases showExcluded <;> rfl
    · dsimp only
      cases isResourceExcluded rendered.getKind rendered.getNamespace rendered.getName rules <;>
        cases showExcluded <;> rfl

/-- A loop that appends what `f` gives for each element is `filterMap`. -/
theorem foldl_append_toList {α β : Type} (f : α → Option β) (l : List α) (init : List β) :
    l.foldl (fun acc a => acc ++ (f a).toList) init = init ++ l.filterMap f := by
  induction l generalizing init with
  | nil => simp
  | cons a l ih => cases h : f a <;> simp [ih, h]

theorem buildOutputs_eq_filterMap (assetList : List AssetMetadata) (renderCtx : RenderContext)
    (showExcluded : Bool) :
    buildOutputs parseDisabledResources isResourceExcluded renderAsset assetList renderCtx
        showExcluded =
      assetList.filterMap (buildStep isResourceExcluded renderAsset
        (exclusionRules parseDisabledResources renderCtx) renderCtx showExcluded) := by
  simp [buildOutputs, foldl_append_toList]

end

/-- The comment lines `WriteYAML` writes above an output. -/
def yamlHeader (output : RenderOutput) : String :=
  "# Asset: " ++ output.asset ++ "\n" ++ "# Path: " ++ output.path ++ "\n" ++
    "# Component: " ++ output.component ++ "\n" ++ "# Status: " ++ output.status ++ "\n" ++
    if output.reason ≠ "" then "# Reason: " ++ output.reason ++ "\n" else ""

/-- `WriteYAML`, with `yaml.Marshal` as `marshal`: the text it writes to `w`
and the error it returns. Each output is its header, its object's YAML and a
`---` line; a marshal error ends the stream after the failing output's
header. -/
def writeYAML (marshal : List (String × Value) → Except String String) :
    List RenderOutput → String × Option String
  | [] => ("", none)
  | output :: outputs =>
    match output.object with
    | none =>
      let rest := writeYAML marshal outputs
      (yamlHeader output ++ "---\n" ++ rest.1, rest.2)
    | some obj =>
      match marshal obj.object with
      | .error err =>
        (yamlHeader output, some ("failed to marshal " ++ output.asset ++ ": " ++ err))
      | .ok data =>
        let rest := writeYAML marshal outputs
        (yamlHeader output ++ data ++ "---\n" ++ rest.1, rest.2)

/-- One turn of `writeStatusOutput`'s counting loop over the counters
included, excluded, filtered, errors. -/
def countStatus : Nat × Nat × Nat × Nat → RenderOutput → Nat × Nat × Nat × Nat
  | (included, excluded, filtered, errors), output =>
    if output.status = "INCLUDED" then (included + 1, excluded, filtered, errors)
    else if output.status = "EXCLUDED" then (included, excluded + 1, filtered, errors)
    else if output.status = "FILTERED" then (included, excluded, filtered + 1, errors)
    else if output.status = "ERROR" then (included, excluded, filtered, errors + 1)
    else (included, excluded, filtered, errors)

/-- The four counters of `writeStatusOutput`. -/
def statusCounts (outputs : List RenderOutput) : Nat × Nat × Nat × Nat :=
  outputs.foldl countStatus (0, 0, 0, 0)

/-- `truncate`: a string longer than `maxLen` bytes is cut to its first
`maxLen - 3` bytes, which may end inside a multi-byte rune, and `...` added. -/
def truncate (s : List UInt8) (maxLen : Nat) : List UInt8 :=
  if s.length ≤ maxLen then s else s.take (maxLen - 3) ++ Go.bytes "..."

/-- `%-ns`: `s` padded with blanks on the right to `n` runes, as `fmt` counts
them. -/
def padRight (s : List UInt8) (n : Nat) : List UInt8 :=
  s ++ List.replicate (n - Go.runeCount s) 0x20

/-- One row of the status table, `%-30s %-15s %-20s %s`, as the bytes printed
before its newline. -/
def statusRow (asset status component reason : List UInt8) : List UInt8 :=
  padRight asset 30 ++ 0x20 :: (padRight status 15 ++ 0x20 :: (padRight component 20 ++
    0x20 :: reason))

/-- `writeStatusOutput`: the lines it prints, as bytes. -/
def writeStatusOutput (outputs : List RenderOutput) : List (List UInt8) :=
  let rule := Go.bytes ⟨List.replicate 100 '-'⟩
  let (included, excluded, filtered, errors) := statusCounts outputs
  [statusRow (Go.bytes "ASSET") (Go.bytes "STATUS") (Go.bytes "COMPONENT") (Go.bytes "REASON"),
    rule] ++
    outputs.map (fun output =>
      let reason := if output.reason = "" then "-" else output.reason
      statusRow (truncate (Go.bytes output.asset) 30) (Go.bytes output.status)
        (truncate (Go.bytes output.component) 20) (truncate (Go.bytes reason) 35)) ++
    [rule, Go.bytes ("Summary: " ++ toString included ++ " included, " ++ toString excluded ++
      " excluded, " ++ toString filtered ++ " filtered, " ++ toString errors ++ " errors")]

end Autopilot
