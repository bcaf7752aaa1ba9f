import Wireframe.Proofs.Prompt.Code
import Wireframe.Proofs.Reply.Encoding

/-!
# Answers in the form asked for

The prompt for code ends with the files that it asks for and with the form of the answer: a fence for
every file, with a first line that is a comment with the file's name. What is asked for in one place
is read in another, and the two agree.

* `Prompt.answerLines` — an answer in the form asked for, with bodies in place of the placeholders.
* `Prompt.codePrompt_end` — the form is the one that the prompt ends with.
* `parse_answer` — the files of such an answer are found, and it is read unless a body is torn.
* `answer_read_back` — such an answer is read as the files that the prompt lists.
-/

set_option autoImplicit false

namespace Wireframe

open Reply Text

namespace Prompt

/-! ## The form of an answer -/

def commentOpening : FileKind → String
  | .typescript => "// "
  | .html => "<!-- "
  | .scss => "/* "

def commentClosing : FileKind → String
  | .typescript => ""
  | .html => " -->"
  | .scss => " */"

/-- The comment with the name of a file that its fence begins with. -/
def nameComment (screenName : List Char) (k : FileKind) : List Char :=
  (commentOpening k).toList ++ (k.fileName screenName ++ (commentClosing k).toList)

/-- The fence of a file in the form asked for. -/
def answerFence (screenName : List Char) (bodies : FileKind → String) (k : FileKind) :
    List (List Char) :=
  fenceLines k.name (nameComment screenName k) (bodies k)

/-- An answer in the form asked for. -/
def answerLines (screenName : List Char) (bodies : FileKind → String) : List (List Char) :=
  answerFence screenName bodies .typescript ++ [[]] ++ answerFence screenName bodies .html ++ [[]] ++
    answerFence screenName bodies .scss

/-- What stands in the prompt where an answer has the files. -/
def placeholder : FileKind → String
  | .typescript => "[TypeScript component code]"
  | .html => "[HTML template code]"
  | .scss => "[SCSS styles code]"

/-- Names one below the other, numbered from one. -/
def numbered (names : List (List Char)) : List Char :=
  joinLines ((names.zipIdx 1).map fun (name, i) => (toString i).toList ++ ". ".toList ++ name)

/-- What a prompt ends with: the files asked for and the form of the answer. -/
def closingRequest (files form : List (List Char)) : List Char :=
  joinLines (["GENERATE FILES:".toList, [], numbered files, [], "OUTPUT FORMAT:".toList] ++ form ++
    [[], "Generate the code now:".toList])

theorem componentFile_lower {k : FileKind} {ext : String} (h : ext.toList = k.extension)
    (screenName : List Char) : componentFile (lower screenName) ext = k.fileName screenName := by
  unfold componentFile FileKind.fileName FileKind.suffix
  rw [h, List.append_assoc]

/-- The files that a prompt lists are the three files of its screen. -/
theorem fileLines_lower (screenName : List Char) :
    fileLines (lower screenName) = numbered (FileKind.all.map (·.fileName screenName)) := by
  have hts : "ts".toList = FileKind.typescript.extension := rfl
  have hhtml : "html".toList = FileKind.html.extension := rfl
  have hscss : "scss".toList = FileKind.scss.extension := rfl
  simp only [fileLines, numbered, fileExtensions, List.length_cons, List.length_nil, List.range_succ,
    List.range_zero, List.nil_append, List.cons_append, List.zip_cons_cons, List.zip_nil_right,
    FileKind.all, List.map_cons, List.map_nil, List.zipIdx_cons, List.zipIdx_nil,
    componentFile_lower hts, componentFile_lower hhtml, componentFile_lower hscss]

/-- The form that a prompt shows is that of an answer. -/
theorem answerForm_lower (screenName : List Char) :
    answerForm (lower screenName) = answerLines screenName placeholder := by
  have hts : "ts".toList = FileKind.typescript.extension := rfl
  have hhtml : "html".toList = FileKind.html.extension := rfl
  have hscss : "scss".toList = FileKind.scss.extension := rfl
  have hclosing : (commentClosing .typescript).toList = [] := rfl
  simp only [answerForm, answerLines, answerFence, nameComment, hclosing, List.append_nil,
    componentFile_lower hts, componentFile_lower hhtml, componentFile_lower hscss, List.append_assoc]
  rfl

/-- A prompt ends with the names of the files of its screen and with the form of the answer. -/
theorem codePrompt_end {d : Design} {table : MappingTable} {inferred : Option InferredInputs}
    {prompt : List Char} (h : codePrompt d table inferred = .ok prompt) :
    closingRequest (FileKind.all.map (·.fileName d.screenName.toList))
      (answerLines d.screenName.toList placeholder) <:+ prompt := by
  obtain ⟨middle, rfl⟩ := codePrompt_lines h
  have hclosing : closingRequest (FileKind.all.map (·.fileName d.screenName.toList))
      (answerLines d.screenName.toList placeholder) =
        joinLines (closingLines (lower d.screenName.toList)) := by
    rw [closingRequest, ← fileLines_lower, ← answerForm_lower, closingLines]
  rw [hclosing]
  refine joinLines_suffix ?_ (List.append_ne_nil_of_right_ne_nil _ (List.cons_ne_nil _ _))
  refine List.IsSuffix.trans ?_ (List.suffix_append _ _)
  exact ((List.suffix_append middle _).trans (List.suffix_cons _ _)).trans (List.suffix_cons _ _)

/-! ## The fences of an answer -/

variable {name : List Char} {bodies : FileKind → String}

/-- The prose in front of a file: what precedes the answer, or an empty line. -/
def proseBefore (before : List Char) : FileKind → List Char
  | .typescript => before
  | .html | .scss => ['\n', '\n']

def answerSpan (before name : List Char) (bodies : FileKind → String) (k : FileKind) : Span :=
  ⟨proseBefore before k, k.name.toList,
    nameComment name k ++ '\n' :: ((bodies k).toList ++ ['\n'])⟩

theorem joinLines_answerLines (before name : List Char) (bodies : FileKind → String)
    (after : List Char) :
    before ++ (joinLines (answerLines name bodies) ++ after) =
      spanTexts (FileKind.all.map (answerSpan before name bodies)) ++ after := by
  have hmark : "```".toList = fenceMark := rfl
  simp [answerLines, answerFence, fenceLines, joinLines, List.intercalate, spanTexts, FileKind.all,
    answerSpan, proseBefore, Span.text, hmark]

/-- The characters of a comment with a file's name are of a kind when those of the name of the screen,
in small letters, and those of the rest of the comment are. -/
theorem nameComment_forall {p : Char → Bool} (hname : ∀ c ∈ lower name, p c = true) (k : FileKind)
    (hopening : (commentOpening k).toList.all p = true) (hsuffix : k.suffix.all p = true)
    (hclosing : (commentClosing k).toList.all p = true) : ∀ c ∈ nameComment name k, p c = true := by
  rw [List.all_eq_true] at hopening hsuffix hclosing
  intro c hc
  simp only [nameComment, FileKind.fileName, List.mem_append] at hc
  rcases hc with hc | (hc | hc) | hc
  · exact hopening c hc
  · exact hname c hc
  · exact hsuffix c hc
  · exact hclosing c hc

/-- How the first line of a file ends. -/
theorem nameComment_suffix (name : List Char) (k : FileKind) :
    k.suffix ++ (commentClosing k).toList <:+ nameComment name k := by
  unfold nameComment FileKind.fileName
  rw [List.append_assoc, ← List.append_assoc]
  exact List.suffix_append _ _

theorem namesAnyFile_nameComment (name : List Char) (k : FileKind) :
    namesAnyFile (nameComment name k) = true := by
  have hcomment : isComment (nameComment name k) = true := by cases k <;> rfl
  have hends : endsWord (commentClosing k).toList = true := by cases k <;> decide
  have hname : occursAsName k.suffix (nameComment name k) = true := by
    obtain ⟨before, hbefore⟩ := nameComment_suffix name k
    rw [← hbefore]
    exact occursAsName_append before k.suffix hends
  have hkind : k ∈ FileKind.all := by cases k <;> decide
  rw [namesAnyFile, hcomment, Bool.true_and, List.any_eq_true]
  exact ⟨k, hkind, hname⟩

theorem isNameComment (hname : ∀ c ∈ lower name, isLineEnd c = false) (k : FileKind) :
    IsNameComment (nameComment name k) where
  first := by cases k <;> exact ⟨_, _, rfl, by decide⟩
  last := by
    obtain ⟨t, c, hlast, hc⟩ : ∃ t c, k.suffix ++ (commentClosing k).toList = t ++ [c] ∧
        isBlank c = false := by
      cases k
      · exact ⟨".component.t".toList, 's', rfl, by decide⟩
      · exact ⟨".component.html --".toList, '>', rfl, by decide⟩
      · exact ⟨".component.scss *".toList, '/', rfl, by decide⟩
    obtain ⟨before, hbefore⟩ := nameComment_suffix name k
    exact ⟨before ++ t, c, by rw [← hbefore, hlast, List.append_assoc], hc⟩
  ends := by
    have hall : ∀ c ∈ nameComment name k, (!isLineEnd c) = true := by
      apply nameComment_forall (fun c hc => by rw [hname c hc, Bool.not_false]) <;> cases k <;> decide
    simpa only [Bool.not_eq_true'] using hall
  names := namesAnyFile_nameComment name k

theorem isSound_answerSpan (hname : '`' ∉ lower name) (hmark : ∀ k, ¬fenceMark <:+: (bodies k).toList)
    {before : List Char} (hbefore : '`' ∉ before) (k : FileKind) :
    (answerSpan before name bodies k).IsSound where
  prose := by
    show '`' ∉ proseBefore before k
    cases k with
    | typescript => exact hbefore
    | html => exact of_decide_eq_true rfl
    | scss => exact of_decide_eq_true rfl
  header := by
    show '\n' ∉ k.name.toList
    cases k <;> decide
  body := by
    refine ⟨nameComment name k ++ '\n' :: (bodies k).toList, by simp [answerSpan], ?_⟩
    rw [infix_append_cons_iff (by decide), not_or]
    refine ⟨fun h => ?_, hmark k⟩
    have hfree : ∀ c ∈ nameComment name k, (c != '`') = true := by
      apply nameComment_forall (fun c hc => bne_iff_ne.2 (ne_of_mem_of_not_mem hc hname)) <;>
        cases k <;> decide
    exact bne_iff_ne.1 (hfree '`' (h.subset List.mem_cons_self)) rfl

/-- The fences of an answer are its files, whatever stands around them. -/
theorem spans_answer (hname : '`' ∉ lower name)
    (hmark : ∀ k, ¬fenceMark <:+: (bodies k).toList) {before after : List Char}
    (hbefore : '`' ∉ before) (hafter : '`' ∉ after) :
    spans (before ++ (joinLines (answerLines name bodies) ++ after)) =
      FileKind.all.map (answerSpan before name bodies) := by
  rw [joinLines_answerLines]
  refine spans_texts_append (fun s hs => ?_) hafter
  obtain ⟨k, -, rfl⟩ := List.mem_map.1 hs
  exact isSound_answerSpan hname hmark hbefore k

theorem contentOf_answerSpan (hname : ∀ c ∈ lower name, isLineEnd c = false)
    (hends : ∀ k, ∀ c ∈ (bodies k).toList, isLineEnd c = true → c = '\n') (before : List Char)
    (k : FileKind) :
    contentOf k (answerSpan before name bodies k).body = repaired k (trim (bodies k).toList) := by
  rw [contentOf_eq_repaired]
  exact congrArg (repaired k) ((isNameComment hname k).withoutNameComment_append (hends k))

end Prompt

open Prompt

/-- The files of a written answer are found, and it is read unless one of its bodies is torn. -/
theorem parse_answer {name : List Char} {bodies : FileKind → String} {before after : List Char}
    (hname : ∀ c ∈ lower name, isLineEnd c = false ∧ c ≠ '`')
    (hmark : ∀ k, ¬fenceMark <:+: (bodies k).toList)
    (hends : ∀ k, ∀ c ∈ (bodies k).toList, isLineEnd c = true → c = '\n')
    (hbefore : '`' ∉ before) (hafter : '`' ∉ after) (minLength : Int) :
    let reply := before ++ (joinLines (answerLines name bodies) ++ after)
    (∀ k, (extractFiles reply name minLength).file? k =
        some (fileOf name k (answerSpan before name bodies k).body)) ∧
      ((∀ k, isTorn (bodies k).toList = false) →
        parse reply name minLength = .ok (extractFiles reply name minLength)) ∧
      ∀ k, isTorn (bodies k).toList = true →
        ∃ t, parse reply name minLength = .error (.unencodable t) := by
  have htick : '`' ∉ lower name := fun h => (hname '`' h).2 rfl
  obtain ⟨hfiles, -⟩ := extractFiles_of_spans (spans_answer htick hmark hbefore hafter)
    labelOf_name name minLength
  have hparse := parse_of_files hfiles
  simp only [contentOf_answerSpan (fun c hc => (hname c hc).1) hends, isTorn_repaired,
    isTorn_trim] at hparse
  exact ⟨hfiles, hparse⟩

/-- **An answer in the form that a prompt asks for is read as the files that the prompt asks for.**
For a screen whose name, in small letters, has no end of a line and no backtick, and for whole bodies
without a fence mark and with line feeds only, every file is found with the body that was put in it,
trimmed and, in the class, repaired. The names are those that every prompt for the screen lists, right
before the form. When one of the bodies is torn, the answer is not read at all. -/
theorem answer_read_back {name : String} {bodies : FileKind → String} {before after : List Char}
    (hname : ∀ c ∈ lower name.toList, isLineEnd c = false ∧ c ≠ '`')
    (hmark : ∀ k, ¬fenceMark <:+: (bodies k).toList)
    (hends : ∀ k, ∀ c ∈ (bodies k).toList, isLineEnd c = true → c = '\n')
    (hbefore : '`' ∉ before) (hafter : '`' ∉ after) (minLength : Int) :
    let parsed := parse (before ++ (joinLines (answerLines name.toList bodies) ++ after)) name.toList
      minLength
    ((∀ k, isTorn (bodies k).toList = false) → ∃ s, parsed = .ok s ∧
        (∀ k, ∃ f, s.file? k = some f ∧ f.kind = k ∧
          f.fileName = String.ofList (k.fileName name.toList) ∧
          f.content = String.ofList (repaired k (trim (bodies k).toList))) ∧
        ∀ d table inferred prompt, d.screenName = name → codePrompt d table inferred = .ok prompt →
          closingRequest (s.present.map (·.fileName.toList)) (answerLines name.toList placeholder) <:+
            prompt) ∧
      ∀ k, isTorn (bodies k).toList = true → ∃ t, parsed = .error (.unencodable t) := by
  obtain ⟨hfiles, hread, hstops⟩ := parse_answer hname hmark hends hbefore hafter minLength
  refine ⟨fun hwhole => ⟨_, hread hwhole, fun k => ⟨_, hfiles k, rfl, rfl, ?_⟩,
    fun d table inferred prompt hd hprompt => ?_⟩, hstops⟩
  · rw [fileOf, contentOf_answerSpan (fun c hc => (hname c hc).1) hends]
  · rw [fileNames_present hfiles, ← hd]
    exact codePrompt_end hprompt

theorem logIn_letters : ∀ c ∈ lower "LogIn".toList, isLineEnd c = false ∧ c ≠ '`' := by
  intro c hc
  have hall : ((lower "LogIn".toList).all fun c => !isLineEnd c && c != '`') = true := by decide
  simpa using List.all_eq_true.1 hall c hc

/-- The bodies of a class that begins with a comment and names its styles in the singular, of a
template with two backticks in a row, and of an empty file of styles. -/
def commentedBodies : FileKind → String
  | .typescript => "// login.component.ts again\n@Component(\x7b styleUrl: './login.css' \x7d)\n\n"
  | .html => "  <p>``quoted``</p>"
  | .scss => ""

theorem answer_read_back_commented :
    ∃ s, parse ("Sure:\n".toList ++ (joinLines (answerLines "LogIn".toList commentedBodies) ++
        "\nDone.".toList)) "LogIn".toList 10 = .ok s ∧
      (∀ k, ∃ f, s.file? k = some f ∧ f.kind = k ∧
        f.fileName = String.ofList (k.fileName "LogIn".toList) ∧
        f.content = String.ofList (repaired k (trim (commentedBodies k).toList))) ∧
      ∀ d table inferred prompt, d.screenName = "LogIn" → codePrompt d table inferred = .ok prompt →
        closingRequest (s.present.map (·.fileName.toList))
          (answerLines "LogIn".toList placeholder) <:+ prompt := by
  have hbodies (k : FileKind) : staysInFence (commentedBodies k).toList = true ∧
      isTorn (commentedBodies k).toList = false := by
    cases k <;> decide
  have hplain (k : FileKind) := staysInFence_iff.1 (hbodies k).1
  exact (answer_read_back logIn_letters (fun k => (hplain k).1) (fun k => (hplain k).2)
    (by decide) (by decide) 10).1 fun k => (hbodies k).2

/-- The bodies of an answer in which half of a surrogate pair is all that the styles hold. -/
def tornBodies : FileKind → String
  | .scss => halfText
  | k => commentedBodies k

/-- An answer of the form asked for, for a screen that is named as it should be, is not read when half of
a surrogate pair stands in a body. -/
theorem answer_not_read_half :
    (∀ k, ¬fenceMark <:+: (tornBodies k).toList) ∧
      (∀ k, ∀ c ∈ (tornBodies k).toList, isLineEnd c = true → c = '\n') ∧
      ∃ t, parse (joinLines (answerLines "LogIn".toList tornBodies)) "LogIn".toList 10 =
        .error (.unencodable t) := by
  have hfence (k : FileKind) : staysInFence (tornBodies k).toList = true := by
    cases k <;> decide
  have hplain (k : FileKind) := staysInFence_iff.1 (hfence k)
  have hmark (k : FileKind) := (hplain k).1
  have hends (k : FileKind) := (hplain k).2
  refine ⟨hmark, hends, ?_⟩
  obtain ⟨-, -, hstops⟩ :=
    parse_answer logIn_letters hmark hends List.not_mem_nil List.not_mem_nil 10
  have hnot := hstops .scss rfl
  rwa [List.append_nil] at hnot

end Wireframe
