import Autopilot.Go
import Autopilot.Unstructured

/-!
# Root exclusion

The HCO annotation `platform.kubevirt.io/disabled-resources` lists
`Kind/Name` keys, comma separated; `ParseDisabledResources` turns it into a Go
`map[string]bool`, and `FilterExcludedAssets` and `IsResourceExcluded` look
each asset's `Kind/Name` up in it.

The map is a `BoolMap`, whose length is the Go map's. Both lookups
short-circuit on an empty map; since an
empty map answers `false` anyway, each is its plain lookup
(`filterExcludedAssets_eq_filter`, `isResourceExcluded_eq_get`), and what is
excluded is decided by the parser alone (`get_parseDisabledResources`).
-/

namespace Autopilot

/-- `DisabledResourcesAnnotation`. -/
def DisabledResourcesAnnotation : String := "platform.kubevirt.io/disabled-resources"

/-- The `Kind/Name` key, `fmt.Sprintf("%s/%s", kind, name)`. -/
def exclusionKey (kind name : String) : String := kind ++ "/" ++ name

theorem exclusionKey_ne_empty (kind name : String) : exclusionKey kind name ≠ "" := fun h => by
  simpa [exclusionKey] using congrArg String.data h

/-- One segment of the loop in `ParseDisabledResources`. -/
def addDisabledPair (disabled : BoolMap) (pair : String) : BoolMap :=
  let trimmed := Go.trimSpace pair
  if trimmed ≠ "" then disabled.set trimmed true else disabled

/-- `ParseDisabledResources`. -/
def parseDisabledResources ( annotation : String) : BoolMap :=
  if annotation = "" then []
  else (Go.split annotation ",").foldl addDisabledPair []

/-- `FilterExcludedAssets`. -/
def filterExcludedAssets (assets : List Unstructured) (disabledMap : BoolMap) :
    List Unstructured :=
  if disabledMap.length = 0 then assets
  else assets.foldl (fun filtered asset =>
    if disabledMap.get (exclusionKey asset.getKind asset.getName) then filtered
    else filtered ++ [asset]) []

/-- `IsResourceExcluded`. -/
def isResourceExcluded (kind name : String) (disabledMap : BoolMap) : Bool :=
  if disabledMap.length = 0 then false
  else disabledMap.get (exclusionKey kind name)

/-! ## What the three functions compute -/

theorem get_addDisabledPair (m : BoolMap) (pair k : String) :
    (addDisabledPair m pair).get k = (m.get k || (k != "" && Go.trimSpace pair == k)) := by
  unfold addDisabledPair
  by_cases hk : k = Go.trimSpace pair
  · subst hk; by_cases hp : Go.trimSpace pair = "" <;> simp [hp, BoolMap.get_set]
  · have hk' : Go.trimSpace pair ≠ k := Ne.symm hk
    by_cases hp : Go.trimSpace pair = ""
    · simp [hp, hp ▸ hk']
    · simp [hp, hk, hk', BoolMap.get_set]

theorem get_foldl_addDisabledPair (pairs : List String) (m : BoolMap) (k : String) :
    (pairs.foldl addDisabledPair m).get k =
      (m.get k || (k != "" && pairs.any fun pair => Go.trimSpace pair == k)) := by
  induction pairs generalizing m with
  | nil => simp
  | cons p ps ih => simp [ih, get_addDisabledPair, Bool.or_assoc, Bool.and_or_distrib_left]

/-- The guard for the empty annotation changes nothing: its one segment is
blank. -/
theorem parseDisabledResources_eq_foldl (s : String) :
    parseDisabledResources s = (Go.split s ",").foldl addDisabledPair [] := by
  unfold parseDisabledResources
  split_ifs with hs
  · subst hs; rfl
  · rfl

/-- A key is disabled exactly when it is a non-empty trimmed segment. -/
theorem get_parseDisabledResources (s k : String) :
    (parseDisabledResources s).get k =
      (k != "" && (Go.split s ",").any fun seg => Go.trimSpace seg == k) := by
  rw [parseDisabledResources_eq_foldl, get_foldl_addDisabledPair]
  simp [BoolMap.get]

theorem filterExcludedAssets_eq_filter (assets : List Unstructured) (m : BoolMap) :
    filterExcludedAssets assets m =
      assets.filter fun a => !m.get (exclusionKey a.getKind a.getName) := by
  unfold filterExcludedAssets
  split_ifs with h
  · simp [BoolMap.get_of_length_eq_zero h]
  · suffices ∀ acc, assets.foldl (fun filtered asset =>
        if m.get (exclusionKey asset.getKind asset.getName) then filtered
        else filtered ++ [asset]) acc =
        acc ++ assets.filter fun a => !m.get (exclusionKey a.getKind a.getName) from this []
    induction assets with
    | nil => simp
    | cons a as ih =>
      intro acc
      cases ha : m.get (exclusionKey a.getKind a.getName) <;> simp [ha, ih]

theorem isResourceExcluded_eq_get (kind name : String) (m : BoolMap) :
    isResourceExcluded kind name m = m.get (exclusionKey kind name) := by
  unfold isResourceExcluded
  split_ifs with h
  · exact (BoolMap.get_of_length_eq_zero h _).symm
  · rfl

/-- Root exclusion is exact: the filter keeps, in order, the assets whose
`Kind/Name` equals no trimmed segment of the annotation, and a resource is
excluded exactly when its `Kind/Name` is a non-empty trimmed segment. -/
theorem rootExclusion_exact (s : String) (assets : List Unstructured) (kind name : String) :
    filterExcludedAssets assets (parseDisabledResources s) =
      assets.filter (fun o => (Go.split s ",").all fun seg =>
        exclusionKey o.getKind o.getName != Go.trimSpace seg) ∧
    (isResourceExcluded kind name (parseDisabledResources s) = true ↔
      ∃ seg ∈ Go.split s ",", Go.trimSpace seg ≠ "" ∧ exclusionKey kind name = Go.trimSpace seg) := by
  rw [filterExcludedAssets_eq_filter, isResourceExcluded_eq_get]
  simp only [get_parseDisabledResources]
  constructor
  · congr 1
    funext o
    rw [Bool.eq_iff_iff]
    simp only [List.all_eq_true, bne_iff_ne, ne_eq, Bool.not_and, Bool.or_eq_true,
      Bool.not_eq_eq_eq_not, Bool.not_true, bne_eq_false_iff_eq, exclusionKey_ne_empty,
      List.any_eq_false, beq_iff_eq, false_or]
    exact forall₂_congr fun _ _ => not_congr eq_comm
  · simp only [Bool.and_eq_true, bne_iff_ne, ne_eq, List.any_eq_true, beq_iff_eq]
    constructor
    · rintro ⟨hk, seg, hseg, h⟩
      exact ⟨seg, hseg, h ▸ hk, h.symm⟩
    · rintro ⟨seg, hseg, -, h⟩
      exact ⟨exclusionKey_ne_empty kind name, seg, hseg, h.symm⟩

end Autopilot
