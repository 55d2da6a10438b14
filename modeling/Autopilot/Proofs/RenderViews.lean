import Autopilot.Debug.Handlers

/-!
# Three views of one classification

The render CLI, `/debug/render`, `/debug/render/{asset}` and
`/debug/exclusions` each decide, asset by asset, whether the controller would
apply it, and three of them do it in their own code. They agree when they
share the exclusion engine and an empty rule set excludes nothing, as the one
in `exclusion.go` does: `BuildOutputs` with `showExcluded` is one entry per
asset, `assetOutput` under the parsed rules (`buildOutputs_true`); the single
asset handler writes that very entry (`renderAssetOutput_eq`), and the
exclusions endpoint reports exactly the assets whose entry is not `INCLUDED`
(`exclusionEntry_metadata`). The two checks of the annotation differ only
when it is empty or does not parse, and there both views see no rule.

Without `showExcluded` `BuildOutputs` drops the excluded and filtered
entries and changes no other (`buildOutputs_false`), and every entry has one
of the four statuses that the CLI's summary counts.

What none of the views does is read conditions the way the catalog does:
`CheckConditions` passes an annotation condition with an empty value on an
HCO without the annotation, and reads feature gates from an annotation, by
substring, instead of from `spec.featureGates`.
-/

namespace Autopilot

section

variable {Rule : Type} (parseDisabledResources : String → Except String (List Rule))
  (isResourceExcluded : String → String → String → List Rule → Bool)
  (renderAsset : AssetMetadata → RenderContext → Except String (Option Unstructured))

/-! ## `BuildOutputs` -/

theorem buildOutputs_true (assetList : List AssetMetadata) (renderCtx : RenderContext) :
    buildOutputs parseDisabledResources isResourceExcluded renderAsset assetList renderCtx true =
      assetList.map (assetOutput isResourceExcluded renderAsset
        (exclusionRules parseDisabledResources renderCtx) renderCtx) := by
  have hstep : buildStep isResourceExcluded renderAsset
      (exclusionRules parseDisabledResources renderCtx) renderCtx true =
        some ∘ assetOutput isResourceExcluded renderAsset
          (exclusionRules parseDisabledResources renderCtx) renderCtx :=
    funext fun a => by simp [buildStep_eq]
  rw [buildOutputs_eq_filterMap, hstep, List.filterMap_eq_map]

theorem filterMap_if_eq_filter_map {α β : Type} (f : α → β) (p : β → Bool) (l : List α) :
    l.filterMap (fun a => if p (f a) then some (f a) else none) = (l.map f).filter p := by
  induction l with
  | nil => rfl
  | cons a l ih => by_cases h : p (f a) <;> simp [h, ih, List.filter_cons]

theorem buildOutputs_false (assetList : List AssetMetadata) (renderCtx : RenderContext) :
    buildOutputs parseDisabledResources isResourceExcluded renderAsset assetList renderCtx false =
      (buildOutputs parseDisabledResources isResourceExcluded renderAsset assetList renderCtx
        true).filter RenderOutput.shownByDefault := by
  have hstep : buildStep isResourceExcluded renderAsset
      (exclusionRules parseDisabledResources renderCtx) renderCtx false = fun a =>
        let o := assetOutput isResourceExcluded renderAsset
          (exclusionRules parseDisabledResources renderCtx) renderCtx a
        if o.shownByDefault then some o else none :=
    funext fun a => by simp [buildStep_eq]
  rw [buildOutputs_eq_filterMap, buildOutputs_true, hstep]
  exact filterMap_if_eq_filter_map _ _ _

/-- Every entry names its asset, has one of the four statuses, and carries an
object exactly when it is `INCLUDED`. -/
theorem assetOutput_wellFormed (rules : List Rule) (renderCtx : RenderContext)
    (assetMeta : AssetMetadata) :
    let o := assetOutput isResourceExcluded renderAsset rules renderCtx assetMeta
    (o.asset, o.path, o.component, o.conditions) =
        (assetMeta.name, assetMeta.path, assetMeta.component, assetMeta.conditions) ∧
      (o.status = "INCLUDED" ∨ o.status = "EXCLUDED" ∨ o.status = "FILTERED" ∨
        o.status = "ERROR") ∧
      (o.object.isSome ↔ o.status = "INCLUDED") := by
  unfold assetOutput
  cases checkConditions assetMeta renderCtx
  · simp [newOutput, RenderOutput.withStatus]
  · rcases renderAsset assetMeta renderCtx with err | _ | rendered
    · simp [newOutput, RenderOutput.withStatus]
    · simp [newOutput, RenderOutput.withStatus]
    · dsimp only
      cases isResourceExcluded rendered.getKind rendered.getNamespace rendered.getName rules <;>
        simp [newOutput, RenderOutput.withStatus]

/-- The sum of the four counters. -/
def countTotal (c : Nat × Nat × Nat × Nat) : Nat := c.1 + c.2.1 + c.2.2.1 + c.2.2.2

/-- Over outputs with the four statuses, the counters count every output. -/
theorem countTotal_statusCounts (outputs : List RenderOutput)
    (h : ∀ o ∈ outputs, o.status = "INCLUDED" ∨ o.status = "EXCLUDED" ∨
      o.status = "FILTERED" ∨ o.status = "ERROR") :
    countTotal (statusCounts outputs) = outputs.length := by
  suffices ∀ c, countTotal (outputs.foldl countStatus c) = countTotal c + outputs.length by
    simpa [statusCounts, countTotal] using this (0, 0, 0, 0)
  induction outputs with
  | nil => simp
  | cons o os ih =>
    rintro ⟨i, e, f, r⟩
    rw [List.foldl_cons, ih (fun o ho => h o (List.mem_cons_of_mem _ ho))]
    rcases h o (List.mem_cons_self _ _) with hs | hs | hs | hs <;>
      simp [countStatus, hs, countTotal] <;> omega

/-- `BuildOutputs` with and without `showExcluded`: one well-formed entry per
asset, in order; the default view is the shown entries of the full one; and
the four counters of the status table add up to the number of assets. -/
theorem buildOutputs_partition (assetList : List AssetMetadata) (renderCtx : RenderContext) :
    (buildOutputs parseDisabledResources isResourceExcluded renderAsset assetList renderCtx
        true).map (fun o => (o.asset, o.path, o.component, o.conditions)) =
      assetList.map (fun a => (a.name, a.path, a.component, a.conditions)) ∧
    (∀ o ∈ buildOutputs parseDisabledResources isResourceExcluded renderAsset assetList renderCtx
        true,
      (o.status = "INCLUDED" ∨ o.status = "EXCLUDED" ∨ o.status = "FILTERED" ∨
        o.status = "ERROR") ∧ (o.object.isSome ↔ o.status = "INCLUDED")) ∧
    buildOutputs parseDisabledResources isResourceExcluded renderAsset assetList renderCtx false =
      (buildOutputs parseDisabledResources isResourceExcluded renderAsset assetList renderCtx
        true).filter (fun o => o.status == "INCLUDED" || o.status == "ERROR") ∧
    countTotal (statusCounts (buildOutputs parseDisabledResources isResourceExcluded renderAsset
      assetList renderCtx true)) = assetList.length := by
  have hwf : ∀ o ∈ buildOutputs parseDisabledResources isResourceExcluded renderAsset assetList
      renderCtx true, (o.status = "INCLUDED" ∨ o.status = "EXCLUDED" ∨ o.status = "FILTERED" ∨
        o.status = "ERROR") ∧ (o.object.isSome ↔ o.status = "INCLUDED") := by
    rw [buildOutputs_true]
    intro o ho
    obtain ⟨a, -, rfl⟩ := List.mem_map.mp ho
    exact (assetOutput_wellFormed _ _ _ _ a).2
  refine ⟨?_, hwf, buildOutputs_false _ _ _ _ _, ?_⟩
  · rw [buildOutputs_true, List.map_map]
    exact List.map_congr_left fun a _ => (assetOutput_wellFormed _ _ _ _ a).1
  · rw [countTotal_statusCounts _ fun o ho => (hwf o ho).1, buildOutputs_true, List.length_map]

/-! ## The debug handlers against `BuildOutputs` -/

theorem zip_map_self {α β : Type} (f : α → β) (l : List α) :
    l.zip (l.map f) = l.map fun a => (a, f a) := by
  induction l with
  | nil => rfl
  | cons a l ih => simp [ih]

variable (hnil : ∀ kind ns name, isResourceExcluded kind ns name [] = false)
include hnil

/-- The single asset handler's check of the annotation is `BuildOutputs'`
rules: both see the rules when it parses, and no rule otherwise. -/
theorem renderAssetOutput_eq (renderCtx : RenderContext) (assetMeta : AssetMetadata) :
    renderAssetOutput parseDisabledResources isResourceExcluded renderAsset renderCtx assetMeta =
      assetOutput isResourceExcluded renderAsset
        (exclusionRules parseDisabledResources renderCtx) renderCtx assetMeta := by
  unfold renderAssetOutput assetOutput
  cases checkConditions assetMeta renderCtx
  · rfl
  · rcases renderAsset assetMeta renderCtx with err | _ | rendered
    · rfl
    · rfl
    · dsimp only
      unfold exclusionRules
      by_cases ha : StringMap.index renderCtx.hco.getAnnotations DisabledResourcesAnnotation = ""
      · simp [ha, hnil]
      · cases hp : parseDisabledResources
            (StringMap.index renderCtx.hco.getAnnotations DisabledResourcesAnnotation) <;>
          simp [ha, hp, hnil]

/-- The exclusions endpoint reports an asset exactly when its entry is not
`INCLUDED`. -/
theorem exclusionEntry_metadata (renderCtx : RenderContext) (assetMeta : AssetMetadata) :
    (exclusionEntry parseDisabledResources isResourceExcluded renderAsset renderCtx
        assetMeta).map (·.metadata) =
      if (assetOutput isResourceExcluded renderAsset
          (exclusionRules parseDisabledResources renderCtx) renderCtx assetMeta).status =
          "INCLUDED" then none
      else some assetMeta := by
  unfold exclusionEntry assetOutput
  cases checkConditions assetMeta renderCtx
  · simp [newOutput, RenderOutput.withStatus]
  · rcases renderAsset assetMeta renderCtx with err | _ | rendered
    · simp [newOutput, RenderOutput.withStatus]
    · simp [newOutput, RenderOutput.withStatus]
    · dsimp only
      unfold exclusionRules
      by_cases ha : StringMap.index renderCtx.hco.getAnnotations DisabledResourcesAnnotation = ""
      · simp [ha, hnil, newOutput]
      · cases hp : parseDisabledResources
            (StringMap.index renderCtx.hco.getAnnotations DisabledResourcesAnnotation) with
        | error e => simp [ha, hp, hnil, newOutput]
        | ok rules =>
          cases hx : isResourceExcluded rendered.getKind rendered.getNamespace rendered.getName
            rules <;> simp [ha, hp, hx, newOutput, RenderOutput.withStatus]

/-- The single-asset endpoint and the exclusions endpoint agree with
`BuildOutputs` with `showExcluded`: for the asset at any position, a `GET` of
`/debug/render/{asset}` that finds it writes exactly its entry; and a `GET` of
`/debug/exclusions` reports, in order, exactly the assets whose entry is
`EXCLUDED`, `FILTERED` or `ERROR`. -/
theorem debugViews_agree (assetList : List AssetMetadata) (renderCtx : RenderContext)
    (getAsset : String → Except String AssetMetadata) (req : Request) :
    (∀ (i : Nat) a, assetList[i]? = some a → req.method = "GET" → req.assetName ≠ "" →
      getAsset req.assetName = .ok a →
      ∃ o, (buildOutputs parseDisabledResources isResourceExcluded renderAsset assetList renderCtx
          true)[i]? = some o ∧
        handleRenderAsset parseDisabledResources isResourceExcluded renderAsset getAsset
          (.ok renderCtx) req = writeRenderResponse [o] req.format) ∧
    (req.method = "GET" →
      ∃ infos, handleExclusions parseDisabledResources isResourceExcluded renderAsset assetList
          (.ok renderCtx) req = writeResponse (.exclusions infos) req.format ∧
        infos.map (·.metadata) =
          ((assetList.zip (buildOutputs parseDisabledResources isResourceExcluded renderAsset
            assetList renderCtx true)).filter fun p =>
              p.2.status == "EXCLUDED" || p.2.status == "FILTERED" || p.2.status == "ERROR").map
            Prod.fst) := by
  refine ⟨fun i a hi hget hname hfind => ?_, fun hget => ?_⟩
  · refine ⟨_, by rw [buildOutputs_true, List.getElem?_map, hi]; rfl, ?_⟩
    simp [handleRenderAsset, hget, hname, hfind, renderAssetOutput_eq _ _ _ hnil]
  · refine ⟨exclusions parseDisabledResources isResourceExcluded renderAsset renderCtx assetList,
      by simp [handleExclusions, hget], ?_⟩
    rw [exclusions, foldl_append_toList, List.nil_append, List.map_filterMap, buildOutputs_true,
      zip_map_self, List.filter_map, List.map_map]
    simp only [exclusionEntry_metadata _ _ _ hnil]
    induction assetList with
    | nil => rfl
    | cons a l ih =>
      rcases (assetOutput_wellFormed isResourceExcluded renderAsset
        (exclusionRules parseDisabledResources renderCtx) renderCtx a).2.1 with
        hs | hs | hs | hs <;> simp [hs, ih, List.filter_cons]

end

/-- A one-asset catalog whose template renders empty. -/
def emptyTemplateAsset : AssetMetadata := ⟨"empty", "assets/empty.yaml.tpl", "demo", []⟩

/-- A render context from an HCO with no fields, on a node with no special
hardware. -/
def bareContext : RenderContext := ⟨⟨[]⟩, ⟨false, false, false, false, false⟩⟩

/-- `GET /debug/exclusions`. -/
def exclusionsRequest : Request := ⟨"GET", "/debug/exclusions", []⟩

theorem emptyTemplate_reported :
    ∃ infos, handleExclusions (fun _ => .ok ([] : List Unit)) (fun _ _ _ rules => !rules.isEmpty)
        (fun _ _ => .ok none) [emptyTemplateAsset] (.ok bareContext) exclusionsRequest =
        writeResponse (.exclusions infos) exclusionsRequest.format ∧
      infos.map (·.metadata) = [emptyTemplateAsset] :=
  (debugViews_agree (fun _ => .ok ([] : List Unit)) (fun _ _ _ rules => !rules.isEmpty)
    (fun _ _ => .ok none) (fun _ _ _ => rfl) [emptyTemplateAsset] bareContext
    (fun _ => .ok emptyTemplateAsset) exclusionsRequest).2 rfl

/-! ## Conditions as the catalog reads them -/

/-- The catalog's reading of the two condition types the preview evaluates, as
the asset documentation describes them: an annotation condition holds when the HCO carries the key
and the condition's value is empty or equal to the annotation's; a
feature-gate condition when its value is an entry of `spec.featureGates`.
Other types are outside this comparison and read as passing. -/
def catalogConditionHolds (hco : Unstructured) (condition : AssetCondition) : Bool :=
  match condition.type with
  | .annotationMatch =>
    match hco.annotationValue condition.key with
    | some v => condition.value == "" || v == condition.value
    | none => false
  | .featureGate =>
    ((hco.nestedStringSlice ["spec", "featureGates"]).getD []).contains condition.value
  | _ => true

/-- An HCO without annotations, with one feature gate enabled in its spec. -/
def gatedHCO : Unstructured :=
  ⟨[("kind", .string "HyperConverged"),
    ("metadata", .object [("name", .string "kubevirt-hyperconverged")]),
    ("spec", .object [("featureGates", .list [.string "SingleFeature"])])]⟩

/-- An asset that asks only that an annotation be present. -/
def presenceAsset : AssetMetadata :=
  ⟨"swap", "assets/swap.yaml", "node", [⟨.annotationMatch, "platform.kubevirt.io/enable-swap", "", ""⟩]⟩

/-- An asset gated on the HCO's feature gate. -/
def gatedAsset : AssetMetadata :=
  ⟨"single", "assets/single.yaml", "node", [⟨.featureGate, "", "SingleFeature", ""⟩]⟩

/-- On an HCO without the annotation, `CheckConditions` passes the presence
condition the catalog fails; and it fails the feature gate the HCO's spec
enables, because it looks for it in an annotation. -/
theorem checkConditions_diverges_from_catalog :
    checkConditions presenceAsset ⟨gatedHCO, bareContext.hardware⟩ = true ∧
      presenceAsset.conditions.all (catalogConditionHolds gatedHCO) = false ∧
    checkConditions gatedAsset ⟨gatedHCO, bareContext.hardware⟩ = false ∧
      gatedAsset.conditions.all (catalogConditionHolds gatedHCO) = true := by
  decide

end Autopilot
