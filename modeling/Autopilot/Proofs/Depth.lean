import Autopilot.Assets.Loader

/-!
# What the depth guard measures

`ParseYAML` refuses a document whose decoded object has `calculateDepth` above
`MaxYAMLDepth`, to keep deeply nested input out. The guard means what its
comment says because `calculateDepth` is exactly one more than the length of
the longest access path into the value, a path being a sequence of map keys
and list indices that leads somewhere (`Value.PathIn`). Empty maps and lists
are leaves: the only path into them is the empty one.

The two halves are proved apart. No path is longer than the depth allows, by
induction on the path (`Value.PathIn.length_lt_calculateDepth`), since a field
or an item is never deeper than its map's or list's running maximum
(`calculateDepth_le_fields`, `calculateDepth_le_items`). Some path is that
long, by recursion along `calculateDepth`'s own three-way mutual recursion
(`exists_deepest_path`): the maximum of a loop is attained at some entry, or
the loop ran over nothing.

Go iterates a map in a random order, but a maximum does not depend on the
order, and a path enters a map through any of its entries. A decoded map has
one entry per key, so that is entering `m[k]`.
-/

namespace Autopilot

/-- One step of an access path: a map key or a list index. -/
inductive PathStep where
  | key (k : String)
  | index (i : Nat)
  deriving DecidableEq, Repr

/-- The access path `p` is valid in `v`: each key step enters a field of a map
under that key, each index step an item of a list at that index. -/
inductive Value.PathIn : Value → List PathStep → Prop
  | nil (v : Value) : PathIn v []
  | key {fields : List (String × Value)} {k : String} {w : Value} {p : List PathStep}
      (hmem : (k, w) ∈ fields) (hp : PathIn w p) : PathIn (.object fields) (.key k :: p)
  | index {items : List Value} {i : Nat} {w : Value} {p : List PathStep}
      (hget : items[i]? = some w) (hp : PathIn w p) : PathIn (.list items) (.index i :: p)

example : calculateDepth (.object [("spec", .list [.object []])]) = 3 ∧
    (Value.object [("spec", .list [.object []])]).PathIn [.key "spec", .index 0] :=
  ⟨rfl, .key (List.mem_singleton_self _) (.index List.getElem?_cons_zero (.nil _))⟩

theorem one_le_calculateDepth (v : Value) : 1 ≤ calculateDepth v := by
  cases v <;> simp [calculateDepth]

/-! ## No path is longer than the depth -/

theorem calculateDepth_le_fields {fields : List (String × Value)} {k : String} {w : Value}
    (h : (k, w) ∈ fields) : calculateDepth w ≤ calculateDepthFields fields := by
  induction fields with
  | nil => cases h
  | cons f fs ih =>
    obtain ⟨k', w'⟩ := f
    rw [calculateDepthFields]
    rcases List.mem_cons.mp h with h | h
    · cases h; exact le_max_left _ _
    · exact (ih h).trans (le_max_right _ _)

theorem calculateDepth_le_items {items : List Value} {w : Value} (h : w ∈ items) :
    calculateDepth w ≤ calculateDepthItems items := by
  induction items with
  | nil => cases h
  | cons v vs ih =>
    rw [calculateDepthItems]
    rcases List.mem_cons.mp h with rfl | h
    · exact le_max_left _ _
    · exact (ih h).trans (le_max_right _ _)

theorem Value.PathIn.length_lt_calculateDepth {v : Value} {p : List PathStep}
    (h : v.PathIn p) : 1 + p.length ≤ calculateDepth v := by
  induction h with
  | nil v => exact one_le_calculateDepth v
  | key hmem _ ih =>
    have := calculateDepth_le_fields hmem
    simp only [calculateDepth, List.length_cons]; omega
  | index hget _ ih =>
    have := calculateDepth_le_items (List.getElem?_mem hget)
    simp only [calculateDepth, List.length_cons]; omega

/-! ## Some path is as long as the depth -/

mutual

theorem exists_deepest_path : (v : Value) → ∃ p, v.PathIn p ∧ calculateDepth v = 1 + p.length
  | .object fields => by
    rcases exists_deepest_field fields with h | ⟨k, w, p, hmem, hp, h⟩
    · exact ⟨[], .nil _, by simp [calculateDepth, h]⟩
    · exact ⟨.key k :: p, .key hmem hp, by simp [calculateDepth, h]; omega⟩
  | .list items => by
    rcases exists_deepest_item items with h | ⟨i, w, p, hget, hp, h⟩
    · exact ⟨[], .nil _, by simp [calculateDepth, h]⟩
    · exact ⟨.index i :: p, .index hget hp, by simp [calculateDepth, h]; omega⟩
  | .null => ⟨[], .nil _, rfl⟩
  | .bool _ => ⟨[], .nil _, rfl⟩
  | .int _ => ⟨[], .nil _, rfl⟩
  | .float _ => ⟨[], .nil _, rfl⟩
  | .string _ => ⟨[], .nil _, rfl⟩

/-- The running maximum over a map's values is zero, for an empty map, or is
reached by a path through one of its entries. -/
theorem exists_deepest_field : (fields : List (String × Value)) →
    calculateDepthFields fields = 0 ∨
      ∃ (k : String) (w : Value) (p : List PathStep),
        (k, w) ∈ fields ∧ w.PathIn p ∧ calculateDepthFields fields = 1 + p.length
  | [] => .inl rfl
  | (k, w) :: fs => by
    obtain ⟨p, hp, hw⟩ := exists_deepest_path w
    rw [calculateDepthFields]
    rcases le_total (calculateDepthFields fs) (calculateDepth w) with hle | hle
    · exact .inr ⟨k, w, p, List.mem_cons_self _ _, hp, by rw [max_eq_left hle, hw]⟩
    · rcases exists_deepest_field fs with h | ⟨k', w', p', hmem, hp', h⟩
      · exact .inr ⟨k, w, p, List.mem_cons_self _ _, hp, by omega⟩
      · exact .inr ⟨k', w', p', List.mem_cons_of_mem _ hmem, hp', by rw [max_eq_right hle, h]⟩

/-- The same for a list's items, the entry found by its index. -/
theorem exists_deepest_item : (items : List Value) →
    calculateDepthItems items = 0 ∨
      ∃ (i : Nat) (w : Value) (p : List PathStep),
        items[i]? = some w ∧ w.PathIn p ∧ calculateDepthItems items = 1 + p.length
  | [] => .inl rfl
  | v :: vs => by
    obtain ⟨p, hp, hv⟩ := exists_deepest_path v
    rw [calculateDepthItems]
    rcases le_total (calculateDepthItems vs) (calculateDepth v) with hle | hle
    · exact .inr ⟨0, v, p, List.getElem?_cons_zero, hp, by rw [max_eq_left hle, hv]⟩
    · rcases exists_deepest_item vs with h | ⟨i, w, p', hget, hp', h⟩
      · exact .inr ⟨0, v, p, List.getElem?_cons_zero, hp, by omega⟩
      · exact .inr ⟨i + 1, w, p', List.getElem?_cons_succ.trans hget, hp',
          by rw [max_eq_right hle, h]⟩

end

/-! ## The guard of `ParseYAML` -/

section

variable {unmarshal : String → Except String Unstructured}

/-- An object `ParseYAML` returns passed the depth check. -/
theorem calculateDepth_le_of_parseYAML {data : String} {obj : Unstructured}
    (h : parseYAML unmarshal data = .ok obj) :
    calculateDepth (.object obj.object) ≤ MaxYAMLDepth := by
  unfold parseYAML at h
  split_ifs at h
  cases hu : unmarshal data with
  | error e => simp [hu] at h
  | ok o =>
    simp only [hu] at h
    split_ifs at h with hd
    cases h
    exact Nat.le_of_not_lt hd

/-- Every object `ParseMultiYAML`'s loop returns is one `ParseYAML` returned. -/
theorem parseYAML_of_mem_parseDocuments {i : Nat} {docs : List String} {objs : List Unstructured}
    (h : parseDocuments unmarshal i docs = .ok objs) {obj : Unstructured} (hobj : obj ∈ objs) :
    ∃ data, parseYAML unmarshal data = .ok obj := by
  induction docs generalizing i objs with
  | nil => cases h; cases hobj
  | cons d ds ih =>
    unfold parseDocuments at h
    split_ifs at h
    · exact ih h hobj
    · cases hp : parseYAML unmarshal (Go.trimSpace d) with
      | error e => simp [hp] at h
      | ok o =>
        cases hr : parseDocuments unmarshal (i + 1) ds with
        | error e => simp [hp, hr] at h
        | ok rest =>
          simp only [hp, hr] at h
          cases h
          rcases List.mem_cons.mp hobj with rfl | hobj
          · exact ⟨_, hp⟩
          · exact ih hr hobj

end

/-- `calculateDepth` is one more than the length of the longest access path
valid in the value: some valid path is that long, and none is longer. Empty
maps and lists are leaves, of depth one. So no value inside an object that
`ParseYAML` or `ParseMultiYAML` returns sits under more than
`MaxYAMLDepth - 1` keys and indices. -/
theorem calculateDepth_eq_longest_path :
    (∀ v : Value, (∃ p, v.PathIn p ∧ calculateDepth v = 1 + p.length) ∧
      ∀ p, v.PathIn p → 1 + p.length ≤ calculateDepth v) ∧
    calculateDepth (.object []) = 1 ∧ calculateDepth (.list []) = 1 ∧
    (∀ unmarshal data obj, parseYAML unmarshal data = .ok obj →
      ∀ p, (Value.object obj.object).PathIn p → p.length ≤ MaxYAMLDepth - 1) ∧
    (∀ unmarshal data objs, parseMultiYAML unmarshal data = .ok objs →
      ∀ obj ∈ objs, ∀ p, (Value.object obj.object).PathIn p → p.length ≤ MaxYAMLDepth - 1) := by
  have hyaml : ∀ unmarshal data obj, parseYAML unmarshal data = .ok obj →
      ∀ p, (Value.object obj.object).PathIn p → p.length ≤ MaxYAMLDepth - 1 :=
    fun _ _ _ h p hp => by
      have := hp.length_lt_calculateDepth.trans (calculateDepth_le_of_parseYAML h)
      omega
  refine ⟨fun v => ⟨exists_deepest_path v, fun _ => Value.PathIn.length_lt_calculateDepth⟩,
    rfl, rfl, hyaml, fun unmarshal data objs h obj hobj => ?_⟩
  unfold parseMultiYAML at h
  split_ifs at h
  obtain ⟨doc, hdoc⟩ := parseYAML_of_mem_parseDocuments h hobj
  exact hyaml unmarshal doc obj hdoc

end Autopilot
