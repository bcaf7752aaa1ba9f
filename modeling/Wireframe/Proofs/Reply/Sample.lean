import Wireframe.Proofs.Reply.Encoding
import Wireframe.Reply.Sample

/-!
# Sample replies that are read back

A sample reply holds the three files of a design in fences. Unless a fence mark stands in one of
them, reading the reply gives every file its text again.

* `sampleReply_spans` — the fences of a sample reply.
* `sampleReply_files` — the files that are read from it, for every text in them.
* `sampleReply_read_back` — their contents, where lines end in line feeds only and no text is torn.
-/

set_option autoImplicit false

namespace Wireframe

open Reply Text

namespace Sample

/-- The text of a file in a sample reply. -/
def fileText (d : Design) (inferred : Option InferredInputs) (k : FileKind) : List Char :=
  let active := inferred.filter fun i => !i.isEmpty
  let base := lower d.screenName.toList
  match k with
  | .typescript => classFile d base active
  | .html => templateFile d base active
  | .scss => styleFile d base

/-- The prose in front of a file. -/
def proseOf : FileKind → List Char
  | .typescript => "Here's the Angular component code:".toList ++ ['\n', '\n']
  | .html | .scss => ['\n', '\n']

/-- A file as a span of a reply. -/
def spanOf (texts : FileKind → List Char) (k : FileKind) : Span :=
  ⟨proseOf k, k.name.toList, texts k ++ ['\n']⟩

/-! ## The fences of a sample reply -/

theorem joinLines_fenced (intro mark a b c la lb lc : List Char) :
    joinLines ([intro, []] ++ [mark ++ la, a, mark] ++ [[]] ++ [mark ++ lb, b, mark] ++ [[]] ++
      [mark ++ lc, c, mark]) =
    (intro ++ ['\n', '\n'] ++ mark ++ la ++ '\n' :: (a ++ ['\n']) ++ mark) ++
      ((['\n', '\n'] ++ mark ++ lb ++ '\n' :: (b ++ ['\n']) ++ mark) ++
      ((['\n', '\n'] ++ mark ++ lc ++ '\n' :: (c ++ ['\n']) ++ mark) ++ [])) := by
  simp [joinLines, List.intercalate]

theorem replyOf_eq (texts : FileKind → List Char) :
    replyOf (texts .typescript) (texts .html) (texts .scss) =
      spanTexts (FileKind.all.map (spanOf texts)) :=
  joinLines_fenced _ fenceMark _ _ _ _ _ _

theorem isSound_spanOf {texts : FileKind → List Char} {k : FileKind}
    (h : ¬fenceMark <:+: texts k) : (spanOf texts k).IsSound where
  prose := by
    show '`' ∉ proseOf k
    cases k <;> decide
  header := by
    show '\n' ∉ k.name.toList
    cases k <;> decide
  body := ⟨texts k, rfl, h⟩

end Sample

open Sample

variable {d : Design} {inferred : Option InferredInputs}

/-- Unless a fence mark stands in a file, the fences of a sample reply are its files. -/
theorem sampleReply_spans (h : ∀ k, ¬fenceMark <:+: fileText d inferred k) :
    spans (sampleReply d inferred) = FileKind.all.map (spanOf (fileText d inferred)) := by
  have hreply : sampleReply d inferred = spanTexts (FileKind.all.map (spanOf (fileText d inferred))) :=
    replyOf_eq (fileText d inferred)
  rw [hreply]
  apply spans_texts
  intro s hs
  obtain ⟨k, -, rfl⟩ := List.mem_map.1 hs
  exact isSound_spanOf (h k)

/-! ## The files that are read -/

namespace Sample

theorem isCode_classFile (d : Design) (base : List Char) (inferred : Option InferredInputs) :
    IsCode (classFile d base inferred) := by
  have hlead : "import \x7b ".toList <+: classFile d base inferred := by
    refine List.IsPrefix.trans ?_ (prefix_joinLines _ _)
    rw [List.append_assoc]
    exact List.prefix_append _ _
  have hlast : ['\x7d'] <:+ classFile d base inferred := suffix_joinLines rfl
  exact isCode_of_ends hlead ⟨_, rfl⟩ (by decide) (by decide)
    (fun l => isComment_of_head (by decide) (by decide) (by decide) _) hlast (by decide)

theorem lead_templateFile (d : Design) (base : List Char) (inferred : Option InferredInputs) :
    "<div class=\"".toList <+: templateFile d base inferred := by
  refine List.IsPrefix.trans ?_ (prefix_joinLines _ _)
  rw [List.append_assoc, List.append_assoc]
  exact List.prefix_append _ _

theorem isCode_templateFile (d : Design) (base : List Char) (inferred : Option InferredInputs) :
    IsCode (templateFile d base inferred) := by
  have hlast : "</div>".toList <:+ templateFile d base inferred :=
    suffix_joinLines List.getLast?_concat
  exact isCode_of_ends (lead_templateFile d base inferred) ⟨_, rfl⟩ (by decide) (by decide)
    (fun l => rfl) (List.IsSuffix.trans ⟨"</div".toList, rfl⟩ hlast) (by decide)

theorem isCode_styleFile (d : Design) (base : List Char) : IsCode (styleFile d base) := by
  have hlead : ['.'] <+: styleFile d base := by
    refine List.IsPrefix.trans ?_ (prefix_joinLines _ _)
    exact ⟨_, rfl⟩
  have hlast : ['\x7d'] <:+ styleFile d base := suffix_joinLines rfl
  exact isCode_of_ends hlead ⟨_, rfl⟩ (by decide) (by decide)
    (fun l => isComment_of_head (by decide) (by decide) (by decide) _) hlast (by decide)

theorem isCode_fileText (d : Design) (inferred : Option InferredInputs) (k : FileKind) :
    IsCode (fileText d inferred k) := by
  cases k
  · exact isCode_classFile d _ _
  · exact isCode_templateFile d _ _
  · exact isCode_styleFile d _

end Sample

/-- **The files that are read from a sample reply are the files that it was written from**, with their
lines rejoined, unless a fence mark stands in one of them. -/
theorem sampleReply_files (h : ∀ k, ¬fenceMark <:+: fileText d inferred k) (base : List Char)
    (minLength : Int) :
    (∀ k, (extractFiles (sampleReply d inferred) base minLength).file? k =
        some (fileOf base k (fileText d inferred k ++ ['\n']))) ∧
      (extractFiles (sampleReply d inferred) base minLength).issues = FileKind.all.flatMap fun k =>
        issuesIn minLength k (repaired k (joinLines (lines (fileText d inferred k)))) := by
  have hcontent (k : FileKind) : contentOf k (spanOf (fileText d inferred) k).body =
      repaired k (joinLines (lines (fileText d inferred k))) :=
    contentOf_of_isCode (isCode_fileText d inferred k) k
  obtain ⟨hfiles, hissues⟩ := extractFiles_of_spans (sampleReply_spans h) labelOf_name base minLength
  refine ⟨hfiles, ?_⟩
  simp only [hissues, hcontent]

/-- The files that are read from a sample reply are whole where the files are that it was written from. -/
theorem isTorn_extractFiles_sampleReply (h : ∀ k, ¬fenceMark <:+: fileText d inferred k)
    (base : List Char) (minLength : Int) :
    (extractFiles (sampleReply d inferred) base minLength).isTorn = false ↔
      ∀ k, isTorn (fileText d inferred k) = false := by
  obtain ⟨hfiles, -⟩ := sampleReply_files h base minLength
  refine (isTorn_eq_false_iff_of_files hfiles).trans (forall_congr' fun k => ?_)
  rw [isTorn_contentOf_of_isCode (isCode_fileText d inferred k)]

/-- **Writing a sample reply and reading it are inverse.** When no fence mark stands in the files of
a design, their lines end in line feeds only and they are whole, every file is found in the reply with
its text, repaired where it is the class, and nothing is missing. When one of them is torn, the reply is
not read at all. -/
theorem sampleReply_read_back (hmark : ∀ k, ¬fenceMark <:+: fileText d inferred k)
    (hends : ∀ k, ∀ c ∈ fileText d inferred k, isLineEnd c = true → c = '\n') (minLength : Int) :
    let parsed := parse (sampleReply d inferred) d.screenName.toList minLength
    ((∀ k, isTorn (fileText d inferred k) = false) → ∃ s, parsed = .ok s ∧
        (∀ k, ∃ f, s.file? k = some f ∧ f.kind = k ∧
          f.content = String.ofList (repaired k (fileText d inferred k))) ∧
        ∀ i ∈ s.issues, i.topic ≠ .extraction) ∧
      ∀ k, isTorn (fileText d inferred k) = true → ∃ t, parsed = .error (.unencodable t) := by
  obtain ⟨hfiles, hissues⟩ := sampleReply_files hmark d.screenName.toList minLength
  obtain ⟨hread, hstops⟩ := parse_of_files hfiles
  simp only [isTorn_contentOf_of_isCode (isCode_fileText d inferred _)] at hread hstops
  refine ⟨fun hwhole => ⟨_, hread hwhole, fun k => ⟨_, hfiles k, rfl, ?_⟩, ?_⟩, hstops⟩
  · have hcode := isCode_fileText d inferred k
    rw [fileOf, contentOf_of_isCode hcode, hcode.joinLines_lines (hends k)]
  · intro i hi
    rw [hissues, List.mem_flatMap] at hi
    obtain ⟨k, -, hk⟩ := hi
    rw [topic_of_mem_issuesIn hk]
    decide

/-- A screen with a button, whose heading has two backticks in a row. -/
def quotedDesign : Design where
  screenName := "SignIn"
  flow := .vertical
  components := [.heading "Say ``hello``", .button "primary" "Let's go"]
  tokens := {}

/-- A variant as the only input. -/
def variantInputs : InferredInputs where
  inputs := [⟨"size", .string, some (.text "small"), none, some .variant⟩]
  bindings := []
  warnings := []

theorem sampleReply_read_back_quoted :
    ∃ s, parse (sampleReply quotedDesign (some variantInputs)) "SignIn".toList 10 = .ok s ∧
      (∀ k, ∃ f, s.file? k = some f ∧ f.kind = k ∧
        f.content = String.ofList (repaired k (fileText quotedDesign (some variantInputs) k))) ∧
      ∀ i ∈ s.issues, i.topic ≠ .extraction := by
  have hfiles (k : FileKind) : staysInFence (fileText quotedDesign (some variantInputs) k) = true ∧
      isTorn (fileText quotedDesign (some variantInputs) k) = false := by
    cases k <;> decide +kernel
  have hplain (k : FileKind) := staysInFence_iff.1 (hfiles k).1
  exact (sampleReply_read_back (fun k => (hplain k).1) (fun k => (hplain k).2) 10).1
    fun k => (hfiles k).2

/-- A screen whose heading is half of a surrogate pair. -/
def halfDesign : Design where
  screenName := "Login"
  flow := .vertical
  components := [.heading halfText]
  tokens := {}

theorem halfDesign_files (k : FileKind) : staysInFence (fileText halfDesign none k) = true ∧
    isTorn (fileText halfDesign none k) = decide (k = .html) := by
  cases k <;> decide +kernel

theorem not_infix_halfDesign (k : FileKind) : ¬fenceMark <:+: fileText halfDesign none k :=
  (staysInFence_iff.1 (halfDesign_files k).1).1

/-- The template of a screen with half of a surrogate pair is torn. -/
theorem isTorn_halfReply (base : List Char) (minLength : Int) :
    (extractFiles (sampleReply halfDesign none) base minLength).isTorn = true := by
  rw [← Bool.not_eq_false, isTorn_extractFiles_sampleReply not_infix_halfDesign]
  intro h
  have htorn := (halfDesign_files .html).2
  rw [h] at htorn
  cases htorn

/-- Without a fence mark and with line feeds only, the sample reply of a torn design is not read. -/
theorem sampleReply_not_read_half :
    (∀ k, ¬fenceMark <:+: fileText halfDesign none k) ∧
      (∀ k, ∀ c ∈ fileText halfDesign none k, isLineEnd c = true → c = '\n') ∧
      ∃ t, parse (sampleReply halfDesign none) "Login".toList 10 = .error (.unencodable t) := by
  have hplain (k : FileKind) := staysInFence_iff.1 (halfDesign_files k).1
  exact ⟨fun k => (hplain k).1, fun k => (hplain k).2, parse_of_isTorn (isTorn_halfReply _ _)⟩

end Wireframe
