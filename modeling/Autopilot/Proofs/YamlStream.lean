import Autopilot.Render.Output
import Autopilot.Proofs.MultiDoc

/-!
# The render stream read back

`WriteYAML` writes each output as a document: its comment header, its
object's YAML, and a line `---`. That is the framing `ParseMultiYAML` cuts a
stream at, so the render CLI's and the debug endpoint's YAML can be read back
by the repository's own reader, one document per output.

The stream is the documents joined by the separator `\n---\n`, with an empty
piece after the last (`writeYAML_eq_join`), as long as each document ends with
a newline: the header always does, and `yaml.Marshal` ends its output with one.
`Go.split_join` takes the stream apart again when no document holds a line
`---` of its own; the empty last piece is blank and skipped; and no document is
blank, since every header starts with `#`. A document with a `---` line, which
an object's YAML or a multi-line reason could carry, would be cut in two.
-/

namespace Autopilot

section

variable (marshal : List (String × Value) → Except String String)
  (unmarshal : String → Except String Unstructured)

/-- The document `WriteYAML` writes for an output, up to its `---` line. -/
def yamlDocument (output : RenderOutput) : Except String String :=
  match output.object with
  | none => .ok (yamlHeader output)
  | some obj => (yamlHeader output ++ ·) <$> marshal obj.object

theorem writeYAML_cons_of_document {output : RenderOutput} {d : String}
    (h : yamlDocument marshal output = .ok d) (outputs : List RenderOutput) :
    writeYAML marshal (output :: outputs) =
      (d ++ "---\n" ++ (writeYAML marshal outputs).1, (writeYAML marshal outputs).2) := by
  unfold yamlDocument at h
  cases ho : output.object with
  | none =>
    simp only [ho, Except.ok.injEq] at h; subst h
    simp [writeYAML, ho]
  | some obj =>
    simp only [ho] at h
    cases hm : marshal obj.object with
    | error e => simp [hm, Functor.map, Except.map] at h
    | ok data =>
      simp only [hm, Functor.map, Except.map, Except.ok.injEq] at h; subst h
      simp [writeYAML, ho, hm, String.append_assoc]

theorem yamlHeader_head (output : RenderOutput) : ∃ rest, (yamlHeader output).toList = '#' :: rest := by
  simp only [yamlHeader, String.append_assoc]
  exact ⟨_, String.data_append _ _⟩

theorem yamlDocument_head {output : RenderOutput} {d : String}
    (h : yamlDocument marshal output = .ok d) : ∃ rest, d.toList = '#' :: rest := by
  unfold yamlDocument at h
  cases ho : output.object with
  | none =>
    simp only [ho, Except.ok.injEq] at h; subst h
    exact yamlHeader_head output
  | some obj =>
    simp only [ho] at h
    cases hm : marshal obj.object with
    | error e => simp [hm, Functor.map, Except.map] at h
    | ok data =>
      simp only [hm, Functor.map, Except.map, Except.ok.injEq] at h; subst h
      obtain ⟨rest, hrest⟩ := yamlHeader_head output
      exact ⟨rest ++ data.toList, by
        simp only [String.toList, String.data_append] at hrest ⊢; rw [hrest]; rfl⟩

/-- When every object marshals into a document ending in a newline, the stream
is the documents, without their last newlines, joined by the separator, with
an empty piece after the last one. -/
theorem writeYAML_eq_join (outputs : List RenderOutput) (bodies : List String)
    (h : outputs.mapM (yamlDocument marshal) = .ok (bodies.map (· ++ "\n"))) :
    writeYAML marshal outputs = (Go.join documentSeparator (bodies ++ [""]), none) := by
  induction outputs generalizing bodies with
  | nil =>
    cases bodies with
    | nil => rfl
    | cons b bs => cases h
  | cons o os ih =>
    rw [List.mapM_cons] at h
    cases hd : yamlDocument marshal o with
    | error e => rw [hd] at h; cases h
    | ok d =>
      cases hr : os.mapM (yamlDocument marshal) with
      | error e => rw [hd, hr] at h; cases h
      | ok ds =>
        rw [hd, hr] at h
        cases bodies with
        | nil => cases h
        | cons b bs =>
          obtain ⟨rfl, hds⟩ := List.cons.inj (Except.ok.inj h)
          rw [writeYAML_cons_of_document marshal hd, ih bs (hr.trans (congrArg _ hds))]
          cases bs <;> simp [Go.join, documentSeparator, String.append_assoc]

/-- A trailing blank piece changes nothing the loop returns. -/
theorem parseDocuments_snoc_blank (k : Nat) (docs : List String) {b : String}
    (hb : Go.trimSpace b = "") :
    (parseDocuments unmarshal k (docs ++ [b])).toOption =
      (parseDocuments unmarshal k docs).toOption := by
  induction docs generalizing k with
  | nil => simp [parseDocuments, hb]
  | cons d ds ih =>
    rw [List.cons_append]
    unfold parseDocuments
    split_ifs
    · exact ih _
    · cases parseYAML unmarshal (Go.trimSpace d) with
      | error e => rfl
      | ok o => simp only [toOption_map, ih]

/-- Every document `WriteYAML` writes is non-blank: its header starts with `#`. -/
theorem trimSpace_body_ne_empty {outputs : List RenderOutput} {bodies : List String}
    (h : outputs.mapM (yamlDocument marshal) = .ok (bodies.map (· ++ "\n"))) :
    ∀ b ∈ bodies, Go.trimSpace b ≠ "" := by
  induction outputs generalizing bodies with
  | nil => cases bodies with
    | nil => intro _ hb; cases hb
    | cons b bs => cases h
  | cons o os ih =>
    rw [List.mapM_cons] at h
    cases hd : yamlDocument marshal o with
    | error e => rw [hd] at h; cases h
    | ok d =>
      cases hr : os.mapM (yamlDocument marshal) with
      | error e => rw [hd, hr] at h; cases h
      | ok ds =>
        rw [hd, hr] at h
        cases bodies with
        | nil => cases h
        | cons b bs =>
          obtain ⟨hb, hds⟩ := List.cons.inj (Except.ok.inj h)
          intro x hx
          rcases List.mem_cons.mp hx with rfl | hx
          · obtain ⟨rest, hrest⟩ := yamlDocument_head marshal hd
            rw [hb] at hrest
            cases hx' : x.data with
            | nil => simp [String.data_append, hx'] at hrest
            | cons c cs =>
              rw [String.toList, String.data_append, hx'] at hrest
              obtain ⟨rfl, -⟩ := List.cons.inj hrest
              exact Go.trimSpace_ne_empty hx' rfl
          · exact ih (hr.trans (congrArg _ hds)) x hx

/-- `ParseMultiYAML` reads `WriteYAML`'s stream back one document per output,
in order. When every object marshals into YAML ending in a newline, no
document holds a line `---` of its own, and the stream is within the size
limit, `WriteYAML` reports no error and `ParseMultiYAML` parses the stream as
`ParseYAML` parses each output's document, header and YAML, on its own. -/
theorem parseMultiYAML_writeYAML (outputs : List RenderOutput) (bodies : List String)
    (hdocs : outputs.mapM (yamlDocument marshal) = .ok (bodies.map (· ++ "\n")))
    (hsep : ∀ b ∈ bodies, Go.contains ("\n" ++ b ++ "\n") documentSeparator = false)
    (hsize : (writeYAML marshal outputs).1.utf8ByteSize ≤ MaxYAMLSize) :
    (writeYAML marshal outputs).2 = none ∧
      (parseMultiYAML unmarshal (writeYAML marshal outputs).1).toOption =
        (bodies.mapM fun b => parseYAML unmarshal (Go.trimSpace b)).toOption := by
  rw [writeYAML_eq_join marshal outputs bodies hdocs] at hsize ⊢
  refine ⟨rfl, ?_⟩
  unfold parseMultiYAML
  rw [if_neg (by omega)]
  obtain ⟨d, ds, hds⟩ : ∃ d ds, bodies ++ [""] = d :: ds := by
    cases bodies <;> exact ⟨_, _, rfl⟩
  have hpiece : ∀ x ∈ d :: ds, x ∈ bodies ∨ x = "" := fun x hx => by
    rw [← hds] at hx; simpa using hx
  rw [hds, Go.split_join _ (by decide) d ds
      (fun x hx => (hpiece x hx).elim (fun hb => (separator_not_early (hsep x hb)).1)
        (fun he i hi => by subst he; cases hi))
      (fun x hx => (hpiece x hx).elim (fun hb => (separator_not_early (hsep x hb)).2)
        (fun he i hi => by subst he; cases hi)), ← hds,
    parseDocuments_snoc_blank unmarshal 0 bodies (by decide)]
  exact parseDocuments_toOption unmarshal 0 bodies (trimSpace_body_ne_empty marshal hdocs)

end

/-- A ConfigMap preview, as the render CLI lists an included asset. -/
def configMapPreview : RenderOutput :=
  ⟨"cm", "assets/cm.yaml", "demo", "INCLUDED", "", [], some ⟨[]⟩⟩

/-- Its document as `WriteYAML` writes it, without the last newline. -/
def configMapPreviewBody : String :=
  "# Asset: cm\n# Path: assets/cm.yaml\n# Component: demo\n# Status: INCLUDED\nkind: ConfigMap"

theorem configMapPreview_read_back :
    (writeYAML (fun _ => .ok "kind: ConfigMap\n") [configMapPreview]).2 = none ∧
      (parseMultiYAML (fun _ => .ok ⟨[]⟩)
          (writeYAML (fun _ => .ok "kind: ConfigMap\n") [configMapPreview]).1).toOption =
        ([configMapPreviewBody].mapM
          fun b => parseYAML (fun _ => .ok ⟨[]⟩) (Go.trimSpace b)).toOption :=
  parseMultiYAML_writeYAML (fun _ => .ok "kind: ConfigMap\n") (fun _ => .ok ⟨[]⟩)
    [configMapPreview] [configMapPreviewBody] rfl (by decide) (by decide)

end Autopilot
