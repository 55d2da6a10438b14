import Autopilot.Render.Output
import Autopilot.Assets.Tombstone

/-!
# The debug endpoints

The debug server answers `GET` requests under `/debug/`: all assets rendered
(`handleRender`), one asset rendered (`handleRenderAsset`), the assets that
are not applied and why (`handleExclusions`), and the tombstones
(`handleTombstones`). A request is its method, its path and its query; a
response is an HTTP error with its text and status, or a body in a format.

The render context comes from listing the HyperConverged objects, and the
assets from the registry; both are inputs here, the context as the result of
`getRenderContext`. `handleRenderAsset` and `handleExclusions` repeat
`BuildOutputs`' classification in their own code, each with its own check of
the exclusion annotation; `Proofs.RenderViews` compares the three.
-/

namespace Autopilot

/-- An HTTP request as the handlers read it. -/
structure Request where
  method : String
  path : String
  query : StringMap

/-- `r.URL.Query().Get(k)`: `""` when the parameter is absent. -/
def Request.queryGet (req : Request) (k : String) : String := StringMap.index (some req.query) k

/-- The `format` parameter, `yaml` by default. -/
def Request.format (req : Request) : String :=
  let format := req.queryGet "format"
  if format = "" then "yaml" else format

/-- `ExclusionInfo`. `Metadata` points at the loop's `assetMeta`, which under
the Go 1.23 the repository builds with is a fresh variable on every iteration:
the asset itself. -/
structure ExclusionInfo where
  asset : String
  path : String
  component : String
  reason : String
  details : StringMap
  metadata : AssetMetadata

/-- `TombstoneInfo`. -/
structure TombstoneInfo where
  kind : String
  name : String
  ns : String
  path : String

/-- What a handler sends back in a body. -/
inductive Body where
  | outputs (outputs : List RenderOutput)
  | exclusions (infos : List ExclusionInfo)
  | tombstones (infos : List TombstoneInfo)

/-- A response: `http.Error` with its text and status, or a `200` body with
its content type. -/
inductive Response where
  | error (message : String) (status : Nat)
  | ok (contentType : String) (body : Body)

/-- `writeRenderResponse`. -/
def writeRenderResponse (outputs : List RenderOutput) (format : String) : Response :=
  if format = "json" then .ok "application/json" (.outputs outputs)
  else if format = "yaml" then .ok "application/x-yaml" (.outputs outputs)
  else .error ("Unsupported format: " ++ format) 400

/-- `writeResponse`. -/
def writeResponse (body : Body) (format : String) : Response :=
  if format = "json" then .ok "application/json" body
  else if format = "yaml" then .ok "application/x-yaml" body
  else .error ("Unsupported format: " ++ format) 400

/-- `m[k] = v` on a string map. -/
def StringMap.set (m : StringMap) (k v : String) : StringMap :=
  (k, v) :: m.filter (·.1 != k)

/-- `getConditionDetails`. -/
def getConditionDetails (assetMeta : AssetMetadata) (renderCtx : RenderContext) : StringMap :=
  assetMeta.conditions.foldl (fun details condition =>
    match condition.type with
    | .annotationMatch =>
      let actual := StringMap.index renderCtx.hco.getAnnotations condition.key
      details.set condition.key ("expected=" ++ condition.value ++ ", actual=" ++ actual)
    | .featureGate =>
      let featureGates := StringMap.index renderCtx.hco.getAnnotations featureGatesKey
      (details.set "feature-gates" featureGates).set "required" condition.value
    | .hardwareDetection =>
      (details.set "detector" condition.detector).set "status" "not checked (requires node access)"
    | .other _ => details) []

section

variable {Rule : Type} (parseDisabledResources : String → Except String (List Rule))
  (isResourceExcluded : String → String → String → List Rule → Bool)
  (renderAsset : AssetMetadata → RenderContext → Except String (Option Unstructured))

/-- The output `handleRenderAsset` writes for an asset it found. -/
def renderAssetOutput (renderCtx : RenderContext) (assetMeta : AssetMetadata) : RenderOutput :=
  let output := newOutput assetMeta
  if !checkConditions assetMeta renderCtx then output.withStatus "EXCLUDED" "Conditions not met"
  else
    match renderAsset assetMeta renderCtx with
    | .error err => output.withStatus "ERROR" err
    | .ok none => output.withStatus "EXCLUDED" "Conditional template rendered empty"
    | .ok (some rendered) =>
      let disabledAnnotation :=
        StringMap.index renderCtx.hco.getAnnotations DisabledResourcesAnnotation
      let excluded : Bool :=
        disabledAnnotation != "" &&
          match parseDisabledResources disabledAnnotation with
          | .ok rules =>
            isResourceExcluded rendered.getKind rendered.getNamespace rendered.getName rules
          | .error _ => false
      if excluded then
        output.withStatus "FILTERED" "Root exclusion (disabled-resources annotation)"
      else { output with status := "INCLUDED", object := some rendered }

/-- The asset name in a `/debug/render/{asset}` path. -/
def Request.assetName (req : Request) : String :=
  Go.trimSpace (Go.trimPrefix req.path "/debug/render/")

/-- `handleRenderAsset`, with the registry lookup and the render context. -/
def handleRenderAsset (getAsset : String → Except String AssetMetadata)
    (renderContext : Except String RenderContext) (req : Request) : Response :=
  if req.method ≠ "GET" then .error "Method not allowed" 405
  else if req.assetName = "" then .error "Asset name required" 400
  else
    match getAsset req.assetName with
    | .error err => .error ("Asset not found: " ++ err) 404
    | .ok assetMeta =>
      match renderContext with
      | .error err => .error ("Failed to get render context: " ++ err) 500
      | .ok renderCtx =>
        writeRenderResponse
          [renderAssetOutput parseDisabledResources isResourceExcluded renderAsset renderCtx
            assetMeta] req.format

/-- `handleRender`, with the registry's assets in reconcile order. -/
def handleRender (assetList : List AssetMetadata) (renderContext : Except String RenderContext)
    (req : Request) : Response :=
  if req.method ≠ "GET" then .error "Method not allowed" 405
  else
    let showExcluded := req.queryGet "show-excluded" == "true"
    match renderContext with
    | .error err => .error ("Failed to get render context: " ++ err) 500
    | .ok renderCtx =>
      writeRenderResponse
        (buildOutputs parseDisabledResources isResourceExcluded renderAsset assetList renderCtx
          showExcluded) req.format

/-- The `ExclusionInfo` `handleExclusions` reports for an asset, if any. -/
def exclusionEntry (renderCtx : RenderContext) (assetMeta : AssetMetadata) :
    Option ExclusionInfo :=
  let info (reason : String) (details : StringMap) : ExclusionInfo :=
    ⟨assetMeta.name, assetMeta.path, assetMeta.component, reason, details, assetMeta⟩
  if !checkConditions assetMeta renderCtx then
    some (info "Conditions not met" (getConditionDetails assetMeta renderCtx))
  else
    match renderAsset assetMeta renderCtx with
    | .error err => some (info ("Render error: " ++ err) [])
    | .ok none => some (info "Template rendered empty" [])
    | .ok (some rendered) =>
      let disabledAnnotation :=
        StringMap.index renderCtx.hco.getAnnotations DisabledResourcesAnnotation
      if disabledAnnotation ≠ "" then
        match parseDisabledResources disabledAnnotation with
        | .error _ => none
        | .ok rules =>
          if isResourceExcluded rendered.getKind rendered.getNamespace rendered.getName rules then
            some (info "Root exclusion"
              [("annotation", DisabledResourcesAnnotation), ("value", disabledAnnotation),
                ("resource", rendered.getKind ++ "/" ++ rendered.getNamespace ++ "/" ++
                  rendered.getName)])
          else none
      else none

/-- The list `handleExclusions` builds. -/
def exclusions (renderCtx : RenderContext) (assetList : List AssetMetadata) :
    List ExclusionInfo :=
  assetList.foldl (fun acc assetMeta =>
    acc ++ (exclusionEntry parseDisabledResources isResourceExcluded renderAsset renderCtx
      assetMeta).toList) []

/-- `handleExclusions`. -/
def handleExclusions (assetList : List AssetMetadata) (renderContext : Except String RenderContext)
    (req : Request) : Response :=
  if req.method ≠ "GET" then .error "Method not allowed" 405
  else
    match renderContext with
    | .error err => .error ("Failed to get render context: " ++ err) 500
    | .ok renderCtx =>
      writeResponse
        (.exclusions (exclusions parseDisabledResources isResourceExcluded renderAsset renderCtx
          assetList)) req.format

end

/-- `handleTombstones`, over the tombstones directory. -/
def handleTombstones (unmarshal : String → Except String Unstructured) (walk : TombstonesWalk)
    (req : Request) : Response :=
  if req.method ≠ "GET" then .error "Method not allowed" 405
  else
    match loadTombstones unmarshal walk with
    | .error err => .error ("Failed to load tombstones: " ++ err) 500
    | .ok tombstones =>
      writeResponse
        (.tombstones (tombstones.map fun ts => ⟨ts.gvk.kind, ts.name, ts.ns, ts.path⟩))
        req.format

end Autopilot
