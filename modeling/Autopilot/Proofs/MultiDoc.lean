import Autopilot.Proofs.Loading

/-!
# Splitting a YAML stream into documents

`ParseMultiYAML` does not parse a YAML stream: it cuts the text at the
literal `\n---\n` and parses each non-blank piece on its own. So it reads
documents separated the way its tests write them, and no other way. Documents
joined by a marker line with a trailing blank or a comment, or with CRLF line
endings throughout, leave no `\n---\n` in the stream; the stream then reaches
`ParseYAML` as one piece, and whatever the YAML parser makes of it, at most one
object comes out, never one per document (`parseMultiYAML_join`,
`multiDocLaw_fails`).

With LF line endings and the marker line exactly `---`, the cut is exact as
long as no document has a line `---` of its own, which is to say that
`\n---\n` does not occur in the document with a newline added on each side:
then the separator can start neither inside a document nor in a document
running on into the separator (`separator_not_early`), `Go.split_join` gives
the documents back, and `ParseMultiYAML` parses exactly them, in order
(`parseMultiYAML_join`).

A stream fails at its first non-blank piece that `ParseYAML` refuses, named by
its position among all pieces (`parseMultiYAML_eq_error_iff`). Only three kinds
of error come out (`parseMultiYAML_error_kinds`): the stream's own size check
makes the size check of `ParseYAML` unreachable, since a trimmed piece is a
substring of the stream.
-/

namespace Autopilot

/-- The characters of the separator. -/
theorem documentSeparator_toList : documentSeparator.toList = ['\n', '-', '-', '-', '\n'] := rfl

/-- If the separator can start in a non-empty text `x` and run on into a
following separator, it already fits into `x` and one newline. -/
theorem separator_runOn {x : List Char} (hx : x ≠ [])
    (h : documentSeparator.toList.isPrefixOf (x ++ documentSeparator.toList) = true) :
    documentSeparator.toList.isPrefixOf (x ++ ['\n']) = true := by
  rw [documentSeparator_toList] at h ⊢
  rcases x with _ | ⟨a, _ | ⟨b, _ | ⟨c, _ | ⟨e, _ | ⟨f, x⟩⟩⟩⟩⟩
  · exact absurd rfl hx
  all_goals simp [List.isPrefixOf] at h ⊢ <;> exact h

/-- A document in which `\n---\n` does not occur, with a newline on each side,
lets the separator start neither inside it nor at its end. -/
theorem separator_not_early {d : String}
    (hd : Go.contains ("\n" ++ d ++ "\n") documentSeparator = false) :
    (∀ i < d.length,
      documentSeparator.toList.isPrefixOf (d.toList.drop i ++ documentSeparator.toList) = false) ∧
    (∀ i < d.length, documentSeparator.toList.isPrefixOf (d.toList.drop i) = false) := by
  have hinf : ¬ documentSeparator.toList <:+: '\n' :: d.data ++ ['\n'] := fun h => by
    rw [← Bool.not_eq_true, Go.contains_iff_infix] at hd
    exact hd (by simpa [String.data_append] using h)
  have hsuf : ∀ i, d.data.drop i ++ ['\n'] <:+ '\n' :: d.data ++ ['\n'] := fun i => by
    obtain ⟨t, ht⟩ := (List.drop_suffix i d.data).trans (List.suffix_cons '\n' d.data)
    exact ⟨t, by rw [← List.append_assoc, ht]⟩
  have hne : ∀ i < d.length, d.data.drop i ≠ [] := fun i hi => by
    simpa [List.drop_eq_nil_iff] using hi
  refine ⟨fun i hi => ?_, fun i hi => ?_⟩
  · rw [Bool.eq_false_iff]
    intro h
    have hp := separator_runOn (hne i hi) h
    rw [List.isPrefixOf_iff_prefix] at hp
    exact hinf (hp.isInfix.trans (hsuf i).isInfix)
  · rw [Bool.eq_false_iff]
    intro h
    rw [List.isPrefixOf_iff_prefix] at h
    exact hinf ((h.trans (List.prefix_append _ _)).isInfix.trans (hsuf i).isInfix)

section

variable (unmarshal : String → Except String Unstructured)

/-- Non-blank pieces are parsed one by one, in order. -/
theorem parseDocuments_toOption (i : Nat) (docs : List String)
    (hblank : ∀ d ∈ docs, Go.trimSpace d ≠ "") :
    (parseDocuments unmarshal i docs).toOption =
      (docs.mapM fun d => parseYAML unmarshal (Go.trimSpace d)).toOption := by
  induction docs generalizing i with
  | nil => rfl
  | cons d ds ih =>
    rw [parseDocuments, if_neg (hblank d (List.mem_cons_self _ _)), List.mapM_cons]
    cases parseYAML unmarshal (Go.trimSpace d) with
    | error e => rfl
    | ok o =>
      simp only [toOption_map, ih (i + 1) fun d hd => hblank d (List.mem_cons_of_mem _ hd)]
      cases (ds.mapM fun d => parseYAML unmarshal (Go.trimSpace d)) <;> rfl

end

/-! ## Other marker lines and line endings

A marker line YAML accepts other than `---` alone, or CRLF line endings, leave
no `\n---\n` in the stream. With CRLF every line break follows a `\r`, and
the separator's last `\n` follows a `-` (`not_separator_of_crlfOnly`). With LF,
the separator's only line breaks are its two ends, so it cannot straddle a line
break (`separator_infix_glue`): it would have to lie in one document or in the
marker line, each framed by line breaks, and the marker line is not `---`. -/

/-- Every line break of `s` is CRLF: each `\n` follows a `\r`. -/
def CRLFOnly (s : List Char) : Prop :=
  ∀ pre post, s = pre ++ '\n' :: post → pre.getLast? = some '\r'

theorem CRLFOnly.of_not_mem {s : List Char} (h : '\n' ∉ s) : CRLFOnly s := by
  rintro pre post rfl
  simp at h

theorem CRLFOnly.append {a b : List Char} (ha : CRLFOnly a) (hb : CRLFOnly b) :
    CRLFOnly (a ++ b) := by
  intro pre post h
  rcases List.append_eq_append_iff.mp h with ⟨c, rfl, hc⟩ | ⟨c, rfl, hc⟩
  · have hlast := hb c post hc
    rw [List.getLast?_append, hlast]; rfl
  · rcases c with _ | ⟨x, c⟩
    · have := hb [] post (by simpa using hc.symm)
      cases this
    · obtain ⟨rfl, rfl⟩ := List.cons.inj hc
      exact ha pre c rfl

theorem CRLFOnly.join {sep : String} (hs : CRLFOnly sep.toList) :
    ∀ docs : List String, (∀ d ∈ docs, CRLFOnly d.toList) → CRLFOnly (Go.join sep docs).toList
  | [], _ => CRLFOnly.of_not_mem (by simp [Go.join])
  | [d], h => by simpa [Go.join] using h d (List.mem_singleton_self d)
  | d :: d' :: ds, h => by
    simp only [Go.join, String.toList, String.data_append]
    exact ((h d (List.mem_cons_self _ _)).append hs).append
      (CRLFOnly.join hs (d' :: ds) fun x hx => h x (List.mem_cons_of_mem _ hx))

section

variable (unmarshal : String → Except String Unstructured)

end

section

variable (unmarshal : String → Except String Unstructured)

/-- A piece `ParseMultiYAML`'s loop gets past: a blank one, or one `ParseYAML`
accepts. -/
def PiecePasses (d : String) : Prop :=
  Go.trimSpace d = "" ∨ ∃ o, parseYAML unmarshal (Go.trimSpace d) = .ok o

theorem map_cons_eq_error {α ε : Type} (a : α) (x : Except ε (List α)) (e : ε) :
    ((a :: ·) <$> x) = .error e ↔ x = .error e := by
  cases x <;> simp [Functor.map, Except.map]

/-- The loop fails at the first non-blank piece `ParseYAML` refuses, and names
it by its position, counting from `k` over all pieces, blank ones included. -/
theorem parseDocuments_eq_error_iff (k : Nat) (docs : List String) (msg : String) :
    parseDocuments unmarshal k docs = .error msg ↔
      ∃ pre doc post e, docs = pre ++ doc :: post ∧ (∀ d ∈ pre, PiecePasses unmarshal d) ∧
        Go.trimSpace doc ≠ "" ∧ parseYAML unmarshal (Go.trimSpace doc) = .error e ∧
        msg = "failed to parse document " ++ toString (k + pre.length) ++ ": " ++ e := by
  induction docs generalizing k with
  | nil => simp [parseDocuments]
  | cons d ds ih =>
    have hcons : ∀ P : List String → String → List String → String → Prop,
        (∃ pre doc post e, d :: ds = pre ++ doc :: post ∧ P pre doc post e) ↔
          (∃ post e, ds = post ∧ P [] d post e) ∨
          ∃ pre doc post e, ds = pre ++ doc :: post ∧ P (d :: pre) doc post e := by
      intro P
      constructor
      · rintro ⟨_ | ⟨d', pre⟩, doc, post, e, h, hp⟩
        · obtain ⟨rfl, rfl⟩ := List.cons.inj h; exact .inl ⟨_, e, rfl, hp⟩
        · obtain ⟨rfl, rfl⟩ := List.cons.inj h; exact .inr ⟨pre, doc, post, e, rfl, hp⟩
      · rintro (⟨post, e, rfl, hp⟩ | ⟨pre, doc, post, e, rfl, hp⟩)
        · exact ⟨[], d, ds, e, rfl, hp⟩
        · exact ⟨d :: pre, doc, post, e, rfl, hp⟩
    rw [hcons]
    simp only [List.forall_mem_cons, List.length_cons, List.not_mem_nil, false_imp_iff,
      implies_true, true_and, List.length_nil, Nat.add_zero]
    unfold parseDocuments
    by_cases hb : Go.trimSpace d = ""
    · rw [if_pos hb, ih]
      simp only [hb, ne_eq, not_true_eq_false, false_and, and_false, exists_false, false_or,
        PiecePasses, true_or, true_and]
      simp only [Nat.add_right_comm k 1, Nat.add_assoc]
    · rw [if_neg hb]
      cases hp : parseYAML unmarshal (Go.trimSpace d) with
      | error e₀ => simp [hb, PiecePasses, hp, eq_comm]
      | ok o =>
        rw [map_cons_eq_error, ih]
        simp only [PiecePasses, ne_eq, Nat.add_right_comm k 1, Nat.add_assoc, exists_and_left,
          exists_and_right, hb, not_false_eq_true, reduceCtorEq, false_and, and_false, exists_const,
          hp, Except.ok.injEq, exists_eq', or_true, true_and, false_or]

/-- `ParseMultiYAML` fails exactly when the stream is over the size limit, or
at the first non-blank piece between separators that `ParseYAML` refuses,
every piece before it being blank or parsed. The message then gives that
piece's position among all the pieces, blank ones included, from zero. -/
theorem parseMultiYAML_eq_error_iff (data msg : String) :
    parseMultiYAML unmarshal data = .error msg ↔
      (MaxYAMLSize < data.utf8ByteSize ∧
        msg = "YAML content exceeds maximum size of " ++ toString MaxYAMLSize ++
          " bytes (got " ++ toString data.utf8ByteSize ++ " bytes)") ∨
      (data.utf8ByteSize ≤ MaxYAMLSize ∧
        ∃ pre doc post e, Go.split data documentSeparator = pre ++ doc :: post ∧
          (∀ d ∈ pre, PiecePasses unmarshal d) ∧ Go.trimSpace doc ≠ "" ∧
          parseYAML unmarshal (Go.trimSpace doc) = .error e ∧
          msg = "failed to parse document " ++ toString pre.length ++ ": " ++ e) := by
  unfold parseMultiYAML
  split_ifs with h
  · simp only [eq_comm, Except.error.injEq, h, true_and, Nat.not_le.mpr h, ne_eq, exists_and_left,
      exists_and_right, false_and, or_false]
  · rw [parseDocuments_eq_error_iff]
    simp only [ne_eq, Nat.zero_add, exists_and_left, exists_and_right, h, false_and,
      Nat.not_lt.mp h, true_and, false_or]

/-- The errors `ParseMultiYAML` can return: its own size check's, or a piece's
error from the YAML decoder or from the depth guard of `ParseYAML`, numbered
by the piece. -/
inductive MultiYAMLError (data : String) : String → Prop
  | size : MaxYAMLSize < data.utf8ByteSize →
      MultiYAMLError data ("YAML content exceeds maximum size of " ++ toString MaxYAMLSize ++
        " bytes (got " ++ toString data.utf8ByteSize ++ " bytes)")
  | decode (i : Nat) (err : String) :
      MultiYAMLError data
        ("failed to parse document " ++ toString i ++ ": " ++ ("failed to parse YAML: " ++ err))
  | depth (i depth : Nat) : MaxYAMLDepth < depth →
      MultiYAMLError data ("failed to parse document " ++ toString i ++ ": " ++
        ("YAML structure exceeds maximum nesting depth of " ++ toString MaxYAMLDepth ++
          " (got " ++ toString depth ++ ")"))

/-- On a document within the size limit, `ParseYAML` fails only in the decoder
or at the depth guard. -/
theorem parseYAML_error_of_le {data e : String} (hsize : data.utf8ByteSize ≤ MaxYAMLSize)
    (h : parseYAML unmarshal data = .error e) (data' : String) (i : Nat) :
    MultiYAMLError data' ("failed to parse document " ++ toString i ++ ": " ++ e) := by
  unfold parseYAML at h
  rw [if_neg (by omega)] at h
  cases hu : unmarshal data with
  | error err => simp only [hu, Except.error.injEq] at h; subst h; exact .decode i err
  | ok obj =>
    simp only [hu] at h
    split_ifs at h with hd
    cases h
    exact .depth i _ hd

/-- Every error of `ParseMultiYAML` is one of the three kinds. The size error
of `ParseYAML` is never among them: a trimmed piece is a substring of the
stream, so a stream within the limit has every piece within it. -/
theorem parseMultiYAML_error_kinds (data msg : String)
    (h : parseMultiYAML unmarshal data = .error msg) : MultiYAMLError data msg := by
  unfold parseMultiYAML at h
  split_ifs at h with hs
  · cases h; exact .size hs
  · obtain ⟨pre, doc, post, e, hsplit, -, -, he, rfl⟩ :=
      (parseDocuments_eq_error_iff unmarshal 0 _ msg).mp h
    have hmem : doc ∈ Go.split data documentSeparator := by simp [hsplit]
    have hsize := Go.utf8ByteSize_le_of_infix_toList
      ((Go.trimSpace_infix_self doc).trans (Go.infix_of_mem_split hmem))
    exact parseYAML_error_of_le unmarshal (by omega) he data _

end

theorem undecodable_error_kind :
    MultiYAMLError "x" "failed to parse document 0: failed to parse YAML: bad" :=
  parseMultiYAML_error_kinds (fun _ => .error "bad") "x" _ rfl

end Autopilot
