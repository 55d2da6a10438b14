import Autopilot.Engine.Tombstone

/-!
# Loading tombstones is all or nothing

`LoadTombstones` collects tombstones while the walk goes on, but hands the
list out only when the walk ends without error: an error from any file, or
from any object of a file, discards everything collected before it. So the
result is either an error or exactly what the walk's tombstone files declare,
each object validated.

The proof reads every stage through `Except.toOption`, which forgets the error
text and keeps what the result is, whether a list comes out and
which: one lemma per stage (`appendTombstones_toOption`,
`visitTombstoneEntry_toOption`, `foldlM_visitTombstoneEntry_toOption`), each
by the stage's own recursion, and each cited by the next.
-/

namespace Autopilot

theorem validateTombstone_eq_none_iff (o : Unstructured) (path : String) :
    validateTombstone o path = none ↔
      o.getKind ≠ "" ∧ o.getAPIVersion ≠ "" ∧ o.getName ≠ "" ∧ o.HasManagedByLabel := by
  unfold validateTombstone Unstructured.HasManagedByLabel
  split_ifs with hk ha hn
  · simp [hk]
  · simp [ha]
  · simp [hn]
  · simp only [hk, ha, hn, ne_eq, not_false_eq_true, true_and]
    cases o.getLabels with
    | none => simp
    | some m => simp [StringMap.index_some_eq_iff (by decide : TombstoneLabelValue ≠ "")]

/-! ## Reading `Except` through `toOption` -/

section

variable {ε α β : Type}

@[simp] theorem toOption_ok (a : α) : (Except.ok a : Except ε α).toOption = some a := rfl

@[simp] theorem toOption_error (e : ε) : (Except.error e : Except ε α).toOption = none := rfl

@[simp] theorem toOption_pure (a : α) : (pure a : Except ε α).toOption = some a := rfl

theorem toOption_bind (x : Except ε α) (f : α → Except ε β) :
    (x >>= f).toOption = x.toOption.bind fun a => (f a).toOption := by
  cases x <;> rfl

@[simp] theorem toOption_map (f : α → β) (x : Except ε α) :
    (f <$> x).toOption = x.toOption.map f := by
  cases x <;> rfl

end

section

variable (unmarshal : String → Except String Unstructured)

/-- Whether a walk entry passes: a directory or another file always does; a
tombstone file when `ParseMultiYAML` accepts it and every object it yields
validates. -/
def entryValid : DirEntry → Bool
  | .dir _ => true
  | .file path data =>
    !isTombstoneFile path ||
      match parseMultiYAML unmarshal data with
      | .ok objs => objs.all fun o => (validateTombstone o path).isNone
      | .error _ => false

/-- What a walk entry declares: one tombstone per object `ParseMultiYAML`
yields from a tombstone file. -/
def entryTombstones : DirEntry → List TombstoneMetadata
  | .dir _ => []
  | .file path data =>
    if isTombstoneFile path then
      match parseMultiYAML unmarshal data with
      | .ok objs => objs.map (tombstoneOf path)
      | .error _ => []
    else []

theorem appendTombstones_toOption (path : String) (acc : List TombstoneMetadata)
    (objs : List Unstructured) :
    (appendTombstones path acc objs).toOption =
      if objs.all fun o => (validateTombstone o path).isNone then
        some (acc ++ objs.map (tombstoneOf path))
      else none := by
  induction objs generalizing acc with
  | nil => simp [appendTombstones]
  | cons o os ih =>
    unfold appendTombstones at ih ⊢
    rw [List.foldlM_cons, toOption_bind]
    cases hv : validateTombstone o path with
    | some e => simp [hv]
    | none =>
      simp only [hv, toOption_ok, Option.some_bind, ih, List.all_cons, Option.isNone_none,
        Bool.true_and, List.map_cons, List.append_assoc, List.singleton_append]

theorem visitTombstoneEntry_toOption (acc : List TombstoneMetadata) (e : DirEntry) :
    (visitTombstoneEntry unmarshal acc e).toOption =
      if entryValid unmarshal e then some (acc ++ entryTombstones unmarshal e) else none := by
  cases e with
  | dir path => simp [visitTombstoneEntry, entryValid, entryTombstones]
  | file path data =>
    unfold visitTombstoneEntry entryValid entryTombstones
    cases hf : isTombstoneFile path
    · simp [hf]
    · cases hp : parseMultiYAML unmarshal data with
      | error msg => simp [hf, hp]
      | ok objs => simpa [hf, hp] using appendTombstones_toOption path acc objs

theorem foldlM_visitTombstoneEntry_toOption (acc : List TombstoneMetadata)
    (entries : List DirEntry) :
    (entries.foldlM (visitTombstoneEntry unmarshal) acc).toOption =
      if entries.all (entryValid unmarshal) then
        some (acc ++ entries.flatMap (entryTombstones unmarshal))
      else none := by
  induction entries generalizing acc with
  | nil => simp
  | cons e es ih =>
    rw [List.foldlM_cons, toOption_bind, visitTombstoneEntry_toOption]
    by_cases he : entryValid unmarshal e <;> simp [he, ih]

/-- Every tombstone a file declares passed `validateTombstone` on its own path. -/
theorem mem_entryTombstones {e : DirEntry} (he : entryValid unmarshal e)
    {t : TombstoneMetadata} (ht : t ∈ entryTombstones unmarshal e) :
    validateTombstone t.object t.path = none ∧ t = tombstoneOf t.path t.object := by
  cases e with
  | dir path => cases ht
  | file path data =>
    unfold entryValid at he
    unfold entryTombstones at ht
    cases hf : isTombstoneFile path <;> simp only [hf, if_false, if_true] at ht
    · cases ht
    cases hp : parseMultiYAML unmarshal data with
    | error msg => simp [hp] at ht
    | ok objs =>
      simp only [hp, hf, List.mem_map, List.all_eq_true, Bool.not_true, Bool.false_or,
        Option.isNone_iff_eq_none] at ht he
      obtain ⟨o, ho, rfl⟩ := ht
      exact ⟨he o ho, rfl⟩

/-- A tombstone file one of whose documents fails `ParseYAML` fails to parse
as a whole. -/
theorem parseDocuments_error {docs : List String} {doc : String} (hd : doc ∈ docs)
    (hb : Go.trimSpace doc ≠ "") (hp : (parseYAML unmarshal (Go.trimSpace doc)).toOption = none)
    (i : Nat) : (parseDocuments unmarshal i docs).toOption = none := by
  induction docs generalizing i with
  | nil => cases hd
  | cons d ds ih =>
    rcases List.mem_cons.mp hd with rfl | hd
    · unfold parseDocuments
      cases hy : parseYAML unmarshal (Go.trimSpace doc) with
      | error e => simp [hb, hy]
      | ok o => simp [hy] at hp
    · unfold parseDocuments
      split_ifs
      · exact ih hd _
      · cases parseYAML unmarshal (Go.trimSpace d) with
        | error e => rfl
        | ok o => simp [ih hd (i + 1)]

/-- A walk that reaches its entries loads exactly what they declare, or nothing. -/
theorem loadTombstones_toOption (entries : List DirEntry) :
    (loadTombstones unmarshal (.ok entries)).toOption =
      if entries.all (entryValid unmarshal) then
        some (entries.flatMap (entryTombstones unmarshal))
      else none := by
  have h := foldlM_visitTombstoneEntry_toOption unmarshal [] entries
  rw [List.nil_append] at h
  rw [← h]
  cases hx : entries.foldlM (visitTombstoneEntry unmarshal) [] <;>
    simp [loadTombstones, walkTombstones, hx]

/-- A tombstone file one of whose non-blank documents fails `ParseYAML` does not
pass. -/
theorem entryValid_of_document_error {path data doc : String} (hf : isTombstoneFile path)
    (hd : doc ∈ Go.split data documentSeparator) (hb : Go.trimSpace doc ≠ "")
    (hp : (parseYAML unmarshal (Go.trimSpace doc)).toOption = none) :
    entryValid unmarshal (.file path data) = false := by
  have hm : (parseMultiYAML unmarshal data).toOption = none := by
    unfold parseMultiYAML
    split_ifs
    · rfl
    · exact parseDocuments_error unmarshal hd hb hp 0
  cases hq : parseMultiYAML unmarshal data with
  | error msg => simp [entryValid, hf, hq]
  | ok objs => simp [hq] at hm

/-- Every tombstone loaded passed `validateTombstone` on its own path and is
the metadata of its object. -/
theorem mem_loadTombstones {walk : TombstonesWalk} {ts : List TombstoneMetadata}
    (hts : loadTombstones unmarshal walk = .ok ts) {t : TombstoneMetadata} (ht : t ∈ ts) :
    validateTombstone t.object t.path = none ∧ t = tombstoneOf t.path t.object := by
  cases walk with
  | error err =>
    simp only [loadTombstones, walkTombstones] at hts
    split_ifs at hts
    simp only [Except.ok.injEq] at hts
    subst hts
    cases ht
  | ok entries =>
    have h := loadTombstones_toOption unmarshal entries
    rw [hts] at h
    split_ifs at h with hall
    · cases h
      obtain ⟨e, he, hte⟩ := List.mem_flatMap.mp ht
      exact mem_entryTombstones unmarshal (List.all_eq_true.mp hall e he) hte
    · cases h

end

/-- `LoadTombstones` and the guard in `ReconcileTombstones`. A walk that reaches
its entries yields a list exactly when every tombstone file parses and every
object in it validates, and the list is then one tombstone per object of each
tombstone file, in walk order; in particular one document failing `ParseYAML`
fails the whole load. Every tombstone returned has a kind, an apiVersion and a
name and carries the ownership label. When loading fails, `ReconcileTombstones`
returns no deletions and the error, and sends nothing to the API server. -/
theorem loadTombstones_all_or_nothing (unmarshal : String → Except String Unstructured)
    (walk : TombstonesWalk) (r : TombstoneReconciler) (hco : Unstructured) (w : World) :
    (∀ entries, walk = .ok entries →
      (loadTombstones unmarshal walk).toOption =
        if entries.all (entryValid unmarshal) then
          some (entries.flatMap (entryTombstones unmarshal))
        else none) ∧
    (∀ entries path data doc, walk = .ok entries → DirEntry.file path data ∈ entries →
      isTombstoneFile path → doc ∈ Go.split data documentSeparator → Go.trimSpace doc ≠ "" →
      (parseYAML unmarshal (Go.trimSpace doc)).toOption = none →
      (loadTombstones unmarshal walk).toOption = none) ∧
    (∀ ts, loadTombstones unmarshal walk = .ok ts → ∀ t ∈ ts,
      t.object.getKind ≠ "" ∧ t.object.getAPIVersion ≠ "" ∧ t.object.getName ≠ "" ∧
        t.object.HasManagedByLabel ∧ t = tombstoneOf t.path t.object) ∧
    (∀ e, loadTombstones unmarshal walk = .error e →
      reconcileTombstones unmarshal r walk hco w =
        ((0, some ("failed to load tombstones: " ++ e)), w)) := by
  refine ⟨fun entries hw => by rw [hw, loadTombstones_toOption], ?_, ?_, ?_⟩
  · intro entries path data doc hw hmem hf hd hb hp
    rw [hw, loadTombstones_toOption, if_neg]
    simp only [List.all_eq_true, not_forall]
    exact ⟨_, hmem, ne_true_of_eq_false (entryValid_of_document_error unmarshal hf hd hb hp)⟩
  · intro ts hts t ht
    obtain ⟨hv, ht⟩ := mem_loadTombstones unmarshal hts ht
    obtain ⟨hk, ha, hn, hl⟩ := (validateTombstone_eq_none_iff _ _).mp hv
    exact ⟨hk, ha, hn, hl, ht⟩
  · intro e he
    simp [reconcileTombstones, he]

end Autopilot
