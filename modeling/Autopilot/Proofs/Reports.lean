import Autopilot.Debug.Handlers

/-!
# What the reports show

Two reports explain the render path to a person rather than to a program: the
status table the render CLI prints (`writeStatusOutput`), and the details the
exclusions endpoint gives for an asset whose conditions fail
(`getConditionDetails`).

The table prints each line with the verbs `%-30s %-15s %-20s %s`. `fmt` pads
a cell to its width in runes, while `truncate` measures and cuts the asset,
the component and the reason in bytes, and may cut a multi-byte rune in two.
The columns still line up: a cut of at most `n` bytes is at most `n` runes
(`runeCount_le_length`), and each byte of a broken sequence, counted as a rune
of its own by `RuneCountInString`, is padded as one. Cells are followed by a
blank, which no rune runs on into, so the runes of a row add up cell by cell
(`Go.runeCount_append`); with a status of at most fifteen runes, every row cuts
back into its cells at the header's rune columns (`writeStatusOutput_table`),
and no row is wider than 103 runes. The summary's four counters are, each, the
number of rows with that status.

`getConditionDetails` writes its entries into one Go map as it walks the
conditions, so the details are a map with one entry per key, each key holding
the last value written to it (`getConditionDetails_last_write`). Two
feature-gate conditions share the keys `feature-gates` and `required`, so only
the last condition's requirement is reported; an annotation condition on a
key such as `status` is overwritten by a later hardware condition.
-/

namespace Autopilot

/-! ## The status table -/

/-- The first `n` runes of `s`, stepped over as `RuneCountInString` steps,
and the bytes after them. -/
def takeRunes : Nat → List UInt8 → List UInt8 × List UInt8
  | 0, s => ([], s)
  | _ + 1, [] => ([], [])
  | n + 1, c :: rest =>
    let k := Go.runeSize c rest - 1
    let (cell, more) := takeRunes n (rest.drop k)
    (c :: rest.take k ++ cell, more)

/-- Take a line apart at rune columns of the given widths, each cell followed
by one blank and the rest of the line the last cell, as a reader cuts a line
printed with left-justified `%-ns` verbs; `none` where a blank is missing. -/
def cutCells : List Nat → List UInt8 → Option (List (List UInt8))
  | [], cs => some [cs]
  | w :: ws, cs =>
    match takeRunes w cs with
    | (cell, c :: rest) => if c = 0x20 then (cell :: ·) <$> cutCells ws rest else none
    | (_, []) => none

/-- A line of the status table cut at the header's columns. -/
def statusCells (line : List UInt8) : Option (List (List UInt8)) := cutCells [30, 15, 20] line

/-- Before an ASCII byte, the runes of `a` are taken whole. -/
theorem takeRunes_append {b : List UInt8} (hb : Go.AsciiHead b) :
    ∀ a : List UInt8, takeRunes (Go.runeCount a) (a ++ b) = (a, b)
  | [] => rfl
  | c :: a => by
    have hk := Go.runeSize_le c a
    have hrest := takeRunes_append hb (a.drop (Go.runeSize c a - 1))
    rw [Go.runeCount_cons, List.cons_append, takeRunes, Go.runeSize_append hb,
      List.drop_append_of_le_length hk, hrest, List.take_append_of_le_length hk]
    exact congrArg (fun cell => (c :: cell, b)) (List.take_append_drop _ a)
termination_by a => a.length
decreasing_by simp only [List.length_drop, List.length_cons]; omega

theorem runeCount_padRight {s : List UInt8} {n : Nat} (h : Go.runeCount s ≤ n) :
    Go.runeCount (padRight s n) = n := by
  rw [padRight, Go.runeCount_append (Go.asciiHead_replicate_space _),
    Go.runeCount_replicate_space]
  omega

/-- A cell padded to its width is cut off whole, with its blank. -/
theorem cutCells_padRight {c : List UInt8} {w : Nat} (h : Go.runeCount c ≤ w) (ws : List Nat)
    (rest : List UInt8) :
    cutCells (w :: ws) (padRight c w ++ 0x20 :: rest) =
      (padRight c w :: ·) <$> cutCells ws rest := by
  have htake := takeRunes_append (Go.asciiHead_space rest) (padRight c w)
  rw [runeCount_padRight h] at htake
  rw [cutCells, htake]
  exact if_pos rfl

/-- A row whose first three fields fit their columns is cut back into them. -/
theorem statusCells_statusRow {a s c : List UInt8} (ha : Go.runeCount a ≤ 30)
    (hs : Go.runeCount s ≤ 15) (hc : Go.runeCount c ≤ 20) (r : List UInt8) :
    statusCells (statusRow a s c r) = some [padRight a 30, padRight s 15, padRight c 20, r] := by
  rw [statusCells, statusRow, cutCells_padRight ha, cutCells_padRight hs, cutCells_padRight hc]
  rfl

/-- Such a row is 68 runes and its last field. -/
theorem runeCount_statusRow {a s c : List UInt8} (ha : Go.runeCount a ≤ 30)
    (hs : Go.runeCount s ≤ 15) (hc : Go.runeCount c ≤ 20) (r : List UInt8) :
    Go.runeCount (statusRow a s c r) = 68 + Go.runeCount r := by
  simp only [statusRow, Go.runeCount_append (Go.asciiHead_space _), Go.runeCount_space_cons,
    runeCount_padRight ha, runeCount_padRight hs, runeCount_padRight hc]
  omega

theorem length_truncate_le (s : List UInt8) {n : Nat} (h : 3 ≤ n) : (truncate s n).length ≤ n := by
  unfold truncate
  split_ifs with hs
  · exact hs
  · have hdots : (Go.bytes "...").length = 3 := rfl
    rw [List.length_append, hdots]
    have := List.length_take_le (n - 3) s
    omega

/-- A cell truncated to `n` bytes is at most `n` runes. -/
theorem runeCount_truncate_le (s : List UInt8) {n : Nat} (h : 3 ≤ n) :
    Go.runeCount (truncate s n) ≤ n :=
  (Go.runeCount_le_length _).trans (length_truncate_le s h)

example : (truncate (Go.bytes "node-maintenance-operator-émulation") 30).get? 26 = some 0xC3 ∧
    Go.runeCount (truncate (Go.bytes "node-maintenance-operator-émulation") 30) = 30 := by
  decide

/-- The counting loop: each counter counts the outputs with its status. -/
theorem statusCounts_eq (outputs : List RenderOutput) :
    statusCounts outputs =
      (outputs.countP (·.status == "INCLUDED"), outputs.countP (·.status == "EXCLUDED"),
        outputs.countP (·.status == "FILTERED"), outputs.countP (·.status == "ERROR")) := by
  suffices h : ∀ i e f r, outputs.foldl countStatus (i, e, f, r) =
      (i + outputs.countP (·.status == "INCLUDED"), e + outputs.countP (·.status == "EXCLUDED"),
        f + outputs.countP (·.status == "FILTERED"), r + outputs.countP (·.status == "ERROR")) by
    simpa using h 0 0 0 0
  induction outputs with
  | nil => simp
  | cons o os ih =>
    intro i e f r
    rw [List.foldl_cons, countStatus]
    split_ifs <;> rw [ih] <;> simp [List.countP_cons, *] <;> omega

/-- The status table: the header, a rule, one row per output in order, a rule
and the summary. Cut at the header's rune columns, each row gives back the
asset and component truncated to their columns in bytes, the status, and the
reason (`-` when there is none) truncated to 35 bytes, each padded to its
column in runes, so no row is wider than 103 runes. Each summary counter is
the number of outputs with its status. -/
theorem writeStatusOutput_table (outputs : List RenderOutput)
    (h : ∀ o ∈ outputs, Go.runeCount (Go.bytes o.status) ≤ 15) :
    ∃ header rule rows,
      writeStatusOutput outputs = [header, rule] ++ rows ++ [rule, Go.bytes
        ("Summary: " ++ toString (outputs.countP (·.status == "INCLUDED")) ++ " included, " ++
          toString (outputs.countP (·.status == "EXCLUDED")) ++ " excluded, " ++
          toString (outputs.countP (·.status == "FILTERED")) ++ " filtered, " ++
          toString (outputs.countP (·.status == "ERROR")) ++ " errors")] ∧
      statusCells header = some [padRight (Go.bytes "ASSET") 30, padRight (Go.bytes "STATUS") 15,
        padRight (Go.bytes "COMPONENT") 20, Go.bytes "REASON"] ∧
      rows.map statusCells = outputs.map (fun o => some [
        padRight (truncate (Go.bytes o.asset) 30) 30, padRight (Go.bytes o.status) 15,
        padRight (truncate (Go.bytes o.component) 20) 20,
        truncate (Go.bytes (if o.reason = "" then "-" else o.reason)) 35]) ∧
      ∀ row ∈ rows, Go.runeCount row ≤ 103 := by
  unfold writeStatusOutput
  rw [statusCounts_eq]
  refine ⟨_, _, _, rfl, statusCells_statusRow (by decide) (by decide) (by decide) _, ?_, ?_⟩
  · rw [List.map_map]
    refine List.map_congr_left fun o ho => ?_
    dsimp only [Function.comp_apply]
    exact statusCells_statusRow (runeCount_truncate_le _ (by decide)) (h o ho)
      (runeCount_truncate_le _ (by decide)) _
  · simp only [List.mem_map]
    rintro _ ⟨o, ho, rfl⟩
    rw [runeCount_statusRow (runeCount_truncate_le _ (by decide)) (h o ho)
      (runeCount_truncate_le _ (by decide))]
    have := runeCount_truncate_le (Go.bytes (if o.reason = "" then "-" else o.reason))
      (n := 35) (by decide)
    omega

/-- An output whose asset name is longer than its column, with a two-byte
rune where the cut falls. -/
def longNamePreview : RenderOutput :=
  ⟨"node-maintenance-operator-émulation", "assets/nmo.yaml", "nmo", "EXCLUDED",
    "Conditions not met", [], none⟩

theorem longNamePreview_table :
    ∃ header rule rows,
      writeStatusOutput [longNamePreview] = [header, rule] ++ rows ++ [rule, Go.bytes
        ("Summary: " ++ toString ([longNamePreview].countP (·.status == "INCLUDED")) ++
          " included, " ++ toString ([longNamePreview].countP (·.status == "EXCLUDED")) ++
          " excluded, " ++ toString ([longNamePreview].countP (·.status == "FILTERED")) ++
          " filtered, " ++ toString ([longNamePreview].countP (·.status == "ERROR")) ++
          " errors")] ∧
      statusCells header = some [padRight (Go.bytes "ASSET") 30, padRight (Go.bytes "STATUS") 15,
        padRight (Go.bytes "COMPONENT") 20, Go.bytes "REASON"] ∧
      rows.map statusCells = [longNamePreview].map (fun o => some [
        padRight (truncate (Go.bytes o.asset) 30) 30, padRight (Go.bytes o.status) 15,
        padRight (truncate (Go.bytes o.component) 20) 20,
        truncate (Go.bytes (if o.reason = "" then "-" else o.reason)) 35]) ∧
      ∀ row ∈ rows, Go.runeCount row ≤ 103 :=
  writeStatusOutput_table [longNamePreview] (by decide)

/-! ## The condition details -/

/-- The entries one condition writes into the details map, in the order of
the source: `details[k] = v` for each. -/
def conditionEntries (renderCtx : RenderContext) (condition : AssetCondition) : StringMap :=
  match condition.type with
  | .annotationMatch =>
    [(condition.key, "expected=" ++ condition.value ++ ", actual=" ++
      StringMap.index renderCtx.hco.getAnnotations condition.key)]
  | .featureGate =>
    [("feature-gates", StringMap.index renderCtx.hco.getAnnotations featureGatesKey),
      ("required", condition.value)]
  | .hardwareDetection =>
    [("detector", condition.detector), ("status", "not checked (requires node access)")]
  | .other _ => []

theorem StringMap.lookup_set (m : StringMap) (k v k' : String) :
    (m.set k v).lookup k' = if k' = k then some v else m.lookup k' := by
  by_cases h : k' = k
  · simp [StringMap.set, h, lookup_cons_ite]
  · simp [StringMap.set, lookup_cons_ite, h, lookup_filter_ne m h]

theorem StringMap.keys_nodup_set {m : StringMap} (h : (m.map Prod.fst).Nodup) (k v : String) :
    ((m.set k v).map Prod.fst).Nodup := by
  rw [StringMap.set, List.map_cons, List.nodup_cons]
  exact ⟨by simp [List.mem_filter], ((List.filter_sublist m).map Prod.fst).nodup h⟩

/-- Entries written one after another: a key holds the last value written to
it, or what it held before. -/
theorem lookup_foldl_set (entries m : StringMap) (k : String) :
    (entries.foldl (fun m e => StringMap.set m e.1 e.2) m).lookup k =
      (entries.reverse.lookup k).or (m.lookup k) := by
  induction entries generalizing m with
  | nil => simp
  | cons e es ih =>
    rw [List.foldl_cons, ih, List.reverse_cons, List.lookup_append, Option.or_assoc,
      StringMap.lookup_set, lookup_cons_ite]
    split_ifs <;> simp

theorem keys_nodup_foldl_set (entries m : StringMap) (h : (m.map Prod.fst).Nodup) :
    ((entries.foldl (fun m e => StringMap.set m e.1 e.2) m).map Prod.fst).Nodup := by
  induction entries generalizing m with
  | nil => exact h
  | cons e es ih => exact ih _ (StringMap.keys_nodup_set h _ _)

/-- `getConditionDetails`' loop writes each condition's entries in turn. -/
theorem getConditionDetails_eq (assetMeta : AssetMetadata) (renderCtx : RenderContext) :
    getConditionDetails assetMeta renderCtx =
      (assetMeta.conditions.flatMap (conditionEntries renderCtx)).foldl
        (fun m e => StringMap.set m e.1 e.2) [] := by
  unfold getConditionDetails
  rw [List.flatMap, List.foldl_flatten, List.foldl_map]
  congr 1
  funext details condition
  unfold conditionEntries
  cases condition.type <;> rfl

/-- The details are a map, one entry per key, and each key holds the value the
last condition writing it wrote. -/
theorem getConditionDetails_last_write (assetMeta : AssetMetadata) (renderCtx : RenderContext) :
    ((getConditionDetails assetMeta renderCtx).map Prod.fst).Nodup ∧
      ∀ k, (getConditionDetails assetMeta renderCtx).lookup k =
        (assetMeta.conditions.flatMap (conditionEntries renderCtx)).reverse.lookup k := by
  rw [getConditionDetails_eq]
  exact ⟨keys_nodup_foldl_set _ _ List.nodup_nil, fun k => by simp [lookup_foldl_set]⟩

example : (getConditionDetails ⟨"gpu", "assets/gpu.yaml", "demo",
    [⟨.featureGate, "", "GPU", ""⟩, ⟨.featureGate, "", "NUMA", ""⟩]⟩
      ⟨⟨[]⟩, ⟨false, false, false, false, false⟩⟩).lookup "required" = some "NUMA" := by
  decide

end Autopilot
