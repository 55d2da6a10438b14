import Autopilot.Unstructured

/-!
# Validating the user's override annotations

`ValidateAnnotations` checks the three annotations through which a user
steers a managed object: a JSON patch, a list of fields to ignore, and the
management mode. The checks run in the order of the source and the first
error wins, which on `Option String` (an error, or `none` for nil) is `<|>`.
The patch check has a second stage: a patch that parses is still refused on
the kinds in `sensitiveKinds`, through `ValidatePatchSecurity`.

`ValidateJSONPatch` and `ValidatePointers` are not part of this file's source;
they are parameters. The keys of the patch and ignore-fields annotations are
named but not defined in this file's source; they take the keys the design
notes of the repository list, `platform.kubevirt.io/patch` and
`platform.kubevirt.io/ignore-fields`. Nothing below depends on those values.

The main result, `validateAnnotations_eq_none_iff`, says that the early
returns do not hide anything: an object passes exactly when each annotation
passes on its own.

The same file reads three annotations as flags: `IsUnmanaged`, `IsPaused` and
`IsAutopilotEnabled`, each an instance of `hasAnnotationValue`
(`hasAnnotationValue_eq_true_iff`, `isAutopilotEnabled_eq`).
-/

namespace Autopilot

/-- `AnnotationMode`. -/
def AnnotationMode : String := "platform.kubevirt.io/mode"

/-- `ModeUnmanaged`. -/
def ModeUnmanaged : String := "unmanaged"

/-- `PatchAnnotation`, under the prefix of the annotation family. -/
def PatchAnnotation : String := "platform.kubevirt.io/patch"

/-- `AnnotationIgnoreFields`, under the prefix of the annotation family. -/
def AnnotationIgnoreFields : String := "platform.kubevirt.io/ignore-fields"

/-- `sensitiveKinds`: kinds on which JSON patches are refused. -/
def sensitiveKinds : BoolMap :=
  [("MachineConfig", true), ("KubeletConfig", true),
    ("ClusterRole", true), ("ClusterRoleBinding", true), ("Role", true), ("RoleBinding", true),
    ("ServiceAccount", true),
    ("PodSecurityPolicy", true), ("SecurityContextConstraints", true),
    ("ValidatingWebhookConfiguration", true), ("MutatingWebhookConfiguration", true)]

/-- `ValidatePatchSecurity`: the error, or `none`. -/
def validatePatchSecurity : Option Unstructured → Option String
  | none => some "object is nil"
  | some obj =>
    let kind := obj.getKind
    if sensitiveKinds.get kind then
      match obj.getAnnotations with
      | some annotations =>
        if StringMap.has (some annotations) PatchAnnotation then
          some ("JSON patches are not allowed on sensitive resource kind: " ++ kind)
        else none
      | none => none
    else none

section

variable (validateJSONPatch validatePointers : String → Option String)

/-- The patch annotation's check, when it is present with value `patchStr`. -/
def checkPatch (obj : Unstructured) (patchStr : String) : Option String :=
  match validateJSONPatch patchStr with
  | some err => some ("invalid patch annotation: " ++ err)
  | none => validatePatchSecurity (some obj)

/-- The ignore-fields annotation's check. -/
def checkIgnoreFields (ignoreFields : String) : Option String :=
  (validatePointers ignoreFields).map ("invalid ignore-fields annotation: " ++ ·)

/-- The mode annotation's check. -/
def checkMode (mode : String) : Option String :=
  if mode ≠ ModeUnmanaged ∧ mode ≠ "" then
    some ("invalid mode annotation: " ++ mode ++ " (must be \x27unmanaged\x27 or empty)")
  else none

/-- `ValidateAnnotations`: the first error of the three checks, in order, or
`none`. -/
def validateAnnotations : Option Unstructured → Option String
  | none => some "object is nil"
  | some obj =>
    match obj.getAnnotations with
    | none => none
    | some annotations =>
      ((annotations.lookup PatchAnnotation).bind (checkPatch validateJSONPatch obj)) <|>
      ((annotations.lookup AnnotationIgnoreFields).bind
        (checkIgnoreFields validatePointers)) <|>
      ((annotations.lookup AnnotationMode).bind checkMode)

end

theorem validatePatchSecurity_eq_none_iff (o : Unstructured)
    (h : o.annotationValue PatchAnnotation ≠ none) :
    validatePatchSecurity (some o) = none ↔ sensitiveKinds.get o.getKind = false := by
  unfold validatePatchSecurity
  unfold Unstructured.annotationValue at h
  cases ha : o.getAnnotations with
  | none => simp [ha] at h
  | some m =>
    cases hp : m.lookup PatchAnnotation with
    | none => simp [ha, hp] at h
    | some v => cases hs : sensitiveKinds.get o.getKind <;> simp [StringMap.has, ha, hp, hs]

/-! ## The annotation flags

`IsUnmanaged`, `IsPaused` and `IsAutopilotEnabled` read one annotation each
and compare it with a fixed value. The first two check that the key exists
before comparing; `IsAutopilotEnabled` compares the map's value directly,
which for a missing key is `""`. Since neither flag value is empty the check
changes nothing (`isAutopilotEnabled_eq`). -/

/-- `AnnotationAutopilotEnabled`. -/
def AnnotationAutopilotEnabled : String := "platform.kubevirt.io/autopilot"

/-- `AnnotationReconcilePaused`. -/
def AnnotationReconcilePaused : String := "platform.kubevirt.io/reconcile-paused"

/-- An object that is there, has annotations, and carries `key` with exactly
`value`: `mode, exists := annotations[key]; return exists && mode == value`. -/
def hasAnnotationValue (key value : String) : Option Unstructured → Bool
  | none => false
  | some obj =>
    match obj.getAnnotations with
    | none => false
    | some annotations =>
      match annotations.lookup key with
      | some v => v == value
      | none => false

/-- `IsUnmanaged`. -/
def isUnmanaged : Option Unstructured → Bool := hasAnnotationValue AnnotationMode ModeUnmanaged

/-- `IsPaused`. -/
def isPaused : Option Unstructured → Bool := hasAnnotationValue AnnotationReconcilePaused "true"

/-- `IsAutopilotEnabled`, which reads the annotation without checking it
exists. -/
def isAutopilotEnabled : Option Unstructured → Bool
  | none => false
  | some hco =>
    match hco.getAnnotations with
    | none => false
    | some annotations => StringMap.index (some annotations) AnnotationAutopilotEnabled == "true"

theorem hasAnnotationValue_eq_true_iff (key value : String) (o : Option Unstructured) :
    hasAnnotationValue key value o = true ↔
      ∃ obj, o = some obj ∧ obj.annotationValue key = some value := by
  rcases o with _ | obj
  · simp [hasAnnotationValue]
  · unfold hasAnnotationValue Unstructured.annotationValue
    cases ha : obj.getAnnotations with
    | none => simp [ha]
    | some m => cases hk : m.lookup key <;> simp [ha, hk]

/-- Comparing a missing key's `""` with a non-empty value fails, as the
existence check would. -/
theorem isAutopilotEnabled_eq :
    isAutopilotEnabled = hasAnnotationValue AnnotationAutopilotEnabled "true" := by
  funext o
  rcases o with _ | hco
  · rfl
  · simp only [isAutopilotEnabled, hasAnnotationValue]
    cases ha : hco.getAnnotations with
    | none => rfl
    | some m =>
      cases h : m.lookup AnnotationAutopilotEnabled <;> simp [StringMap.index, h]

/-- An object `IsUnmanaged` accepts passes the mode check of
`ValidateAnnotations`. -/
theorem checkMode_of_isUnmanaged {obj : Unstructured} (hu : isUnmanaged (some obj) = true)
    {v : String} (hv : obj.annotationValue AnnotationMode = some v) : checkMode v = none := by
  obtain ⟨_, ⟨⟩, hmode⟩ := (hasAnnotationValue_eq_true_iff _ _ _).mp hu
  rw [hmode] at hv
  cases hv
  simp [checkMode]

theorem orElse_eq_none {α : Type} (a b : Option α) : (a <|> b) = none ↔ a = none ∧ b = none := by
  cases a <;> simp [HOrElse.hOrElse, OrElse.orElse, Option.orElse]

section

variable (validateJSONPatch validatePointers : String → Option String)

/-- The three checks, one per annotation, each as it reads on its own. -/
theorem validateAnnotations_some_eq_none_iff (o : Unstructured) :
    validateAnnotations validateJSONPatch validatePointers (some o) = none ↔
      (∀ v, o.annotationValue PatchAnnotation = some v →
        validateJSONPatch v = none ∧ sensitiveKinds.get o.getKind = false) ∧
      (∀ v, o.annotationValue AnnotationIgnoreFields = some v → validatePointers v = none) ∧
      (∀ v, o.annotationValue AnnotationMode = some v → v = "" ∨ v = ModeUnmanaged) := by
  unfold validateAnnotations Unstructured.annotationValue
  cases hm : o.getAnnotations with
  | none => simp [hm]
  | some m =>
    simp only [hm, orElse_eq_none, Option.bind_some, Option.bind_eq_none]
    refine and_congr (forall_congr' fun v => imp_congr_right fun hv => ?_)
      (and_congr (forall_congr' fun v => ?_) (forall_congr' fun v => ?_))
    · unfold checkPatch
      cases hj : validateJSONPatch v with
      | some e => simp
      | none =>
        simpa using validatePatchSecurity_eq_none_iff o
          (by simp [Unstructured.annotationValue, *])
    · simp [checkIgnoreFields]
    · unfold checkMode
      by_cases h1 : v = ModeUnmanaged <;> by_cases h2 : v = "" <;> simp [h1, h2]

/-- An object passes `ValidateAnnotations` exactly when each of its three
annotations passes on its own: a patch that `ValidateJSONPatch` accepts on a
kind that is not sensitive, a pointer list that `ValidatePointers` accepts, and
a mode that is empty or `unmanaged`. In particular a patch annotation on a
sensitive kind is always refused, whatever its value, while the other two
annotations are judged there as on any other kind. -/
theorem validateAnnotations_eq_none_iff (o : Unstructured) :
    (validateAnnotations validateJSONPatch validatePointers (some o) = none ↔
      (∀ v, o.annotationValue PatchAnnotation = some v →
        validateJSONPatch v = none ∧ sensitiveKinds.get o.getKind = false) ∧
      (∀ v, o.annotationValue AnnotationIgnoreFields = some v → validatePointers v = none) ∧
      (∀ v, o.annotationValue AnnotationMode = some v → v = "" ∨ v = ModeUnmanaged)) ∧
    (sensitiveKinds.get o.getKind = true → o.annotationValue PatchAnnotation ≠ none →
      validateAnnotations validateJSONPatch validatePointers (some o) ≠ none) := by
  refine ⟨validateAnnotations_some_eq_none_iff _ _ o, fun hs hp h => ?_⟩
  obtain ⟨v, hv⟩ := Option.ne_none_iff_exists'.mp hp
  have hns := (((validateAnnotations_some_eq_none_iff _ _ o).mp h).1 v hv).2
  rw [hs] at hns
  cases hns

end

end Autopilot
