import Wireframe.Proofs.Naming
import Wireframe.Proofs.Reply.Sample

/-!
# What is wrong with sample replies

The checks of a reply look for words in its files. In a sample reply the class has them in the lines in
front of its members, where nothing but the name of the screen varies; the template is long enough
in its first line, and what it says of buttons is up to the components.

* `classContent_eq` — these lines survive the reading.
* `classIssues_sample` — nothing is wrong with the class of a screen whose name is an identifier and
  begins with a word character.
* `templateIssues_sample` — of a template nothing can be wrong but what it says of buttons.
* `sampleReply_issues` — all that is wrong with a sample reply.
-/

set_option autoImplicit false

namespace Wireframe.Sample

open Reply Text Naming

/-! ## The lines in front of the members -/

/-- The line that names what the class imports. -/
def importLine (input : Bool) : List Char :=
  "import \x7b ".toList ++ (if input then "Component, Input" else "Component").toList ++
    " \x7d from '@angular/core';".toList

/-- The lines of the class in front of the one that opens it. -/
def decoratorLines (base : List Char) (input : Bool) : List (List Char) :=
  [importLine input,
    [],
    "@Component(\x7b".toList,
    "  selector: 'app-".toList ++ base ++ "',".toList,
    "  templateUrl: './".toList ++ base ++ ".component.html',".toList,
    "  styleUrls: ['./".toList ++ base ++ ".component.scss']".toList,
    "\x7d)".toList]

/-- The line that opens the class. -/
def classLine (name : List Char) : List Char :=
  "export class ".toList ++ name ++ "Component \x7b".toList

/-- The class as far as its members. -/
def classHead (name base : List Char) (input : Bool) : List Char :=
  joinLines (decoratorLines base input ++ [classLine name])

theorem classHead_eq (name base : List Char) (input : Bool) :
    classHead name base input = joinLines (decoratorLines base input) ++ '\n' :: classLine name := by
  have hlines : decoratorLines base input ≠ [] := List.cons_ne_nil _ _
  rw [classHead, joinLines_append hlines (List.cons_ne_nil _ _), joinLines_singleton]

theorem prefix_classHead (name base : List Char) (input : Bool) :
    importLine input <+: classHead name base input := prefix_joinLines _ _

theorem classFile_eq (d : Design) (base : List Char) (inferred : Option InferredInputs) :
    classFile d base inferred = classHead d.screenName.toList base inferred.isSome ++
      '\n' :: joinLines [members d inferred, "\x7d".toList] := by
  have hlines : decoratorLines base inferred.isSome ++ [classLine d.screenName.toList] ≠ [] :=
    List.cons_ne_nil _ _
  rw [classHead, ← joinLines_append hlines (List.cons_ne_nil _ _)]
  rfl

/-- A line that stays a single line and in which nothing is repaired. -/
structure IsPlain (l : List Char) : Prop where
  ends : ∀ c ∈ l, isLineEnd c = false
  style : ¬styleMark <:+: l

theorem isPlain_of_occursIn {l : List Char} (hends : l.any isLineEnd = false)
    (hstyle : occursIn styleMark l = false) : IsPlain l where
  ends := not_isLineEnd_of_any hends
  style := by
    rw [← occursIn_iff, hstyle]
    exact Bool.false_ne_true

/-- Characters that end no line and are no colon, between two texts that are known. -/
theorem isPlain_between {lead mid tail : List Char} (hlead : IsPlain lead)
    (hmid : ∀ c ∈ mid, isLineEnd c = false ∧ c ≠ ':')
    (htail : tail.any isLineEnd = false) (hcolon : ':' ∉ tail) : IsPlain (lead ++ mid ++ tail) where
  ends := by
    intro c hc
    rcases List.mem_append.1 hc with hc | hc
    · rcases List.mem_append.1 hc with hc | hc
      · exact hlead.ends c hc
      · exact (hmid c hc).1
    · exact not_isLineEnd_of_any htail c hc
  style := by
    have hmark : styleMark = "styleUrl".toList ++ [':'] := by decide
    have hnone : ':' ∉ mid ++ tail := by
      intro h
      rcases List.mem_append.1 h with h | h
      · exact (hmid _ h).2 rfl
      · exact hcolon h
    have hstyle := hlead.style
    rw [hmark] at hstyle ⊢
    rwa [List.append_assoc, concat_infix_append_iff hnone]

theorem plain_of_isIdentifierPart {c : Char} (h : isIdentifierPart c = true) :
    isLineEnd c = false ∧ c ≠ ':' := by
  refine ⟨isLineEnd_of_not_isBlank (isBlank_of_isIdentifierPart h), ?_⟩
  rintro rfl
  exact absurd h (by decide)

theorem isPlain_importLine (input : Bool) : IsPlain (importLine input) := by
  cases input
  · exact isPlain_of_occursIn (by decide) (by decide)
  · exact isPlain_of_occursIn (by decide) (by decide)

theorem isPlain_of_mem_head {name base : List Char}
    (hname : ∀ c ∈ name, isLineEnd c = false ∧ c ≠ ':')
    (hbase : ∀ c ∈ base, isLineEnd c = false ∧ c ≠ ':') (input : Bool) :
    ∀ l ∈ decoratorLines base input ++ [classLine name], IsPlain l := by
  intro l hl
  rcases List.mem_append.1 hl with hl | hl
  · simp only [decoratorLines, List.mem_cons, List.not_mem_nil, or_false] at hl
    rcases hl with rfl | rfl | rfl | rfl | rfl | rfl | rfl
    · exact isPlain_importLine input
    · exact isPlain_of_occursIn (by decide) (by decide)
    · exact isPlain_of_occursIn (by decide) (by decide)
    · exact isPlain_between (isPlain_of_occursIn (by decide) (by decide)) hbase (by decide) (by decide)
    · exact isPlain_between (isPlain_of_occursIn (by decide) (by decide)) hbase (by decide) (by decide)
    · exact isPlain_between (isPlain_of_occursIn (by decide) (by decide)) hbase (by decide) (by decide)
    · exact isPlain_of_occursIn (by decide) (by decide)
  · rw [List.mem_singleton.1 hl]
    exact isPlain_between (isPlain_of_occursIn (by decide) (by decide)) hname (by decide) (by decide)

/-! ## The class -/

variable {d : Design} {base : List Char}

/-- What is read of the class begins as the class does. -/
theorem classContent_eq (hname : ∀ c ∈ d.screenName.toList, isIdentifierPart c = true)
    (hbase : ∀ c ∈ base, isIdentifierPart c = true) (inferred : Option InferredInputs) :
    ∃ rest, repairStyles (joinLines (lines (classFile d base inferred))) =
      classHead d.screenName.toList base inferred.isSome ++ '\n' :: rest := by
  have hplain := isPlain_of_mem_head (fun c hc => plain_of_isIdentifierPart (hname c hc))
    (fun c hc => plain_of_isIdentifierPart (hbase c hc)) inferred.isSome
  have hends : ∀ c ∈ classHead d.screenName.toList base inferred.isSome,
      isLineEnd c = true → c = '\n' := by
    intro c hc hend
    rcases mem_joinLines hc with rfl | ⟨l, hl, hcl⟩
    · rfl
    · rw [(hplain l hl).ends c hcl] at hend
      cases hend
  have hstyle : ¬styleMark <:+: classHead d.screenName.toList base inferred.isSome := by
    unfold classHead
    rw [infix_joinLines_iff (by decide) (by decide)]
    rintro ⟨l, hl, h⟩
    exact (hplain l hl).style h
  have hmembers : joinLines [members d inferred, "\x7d".toList] ≠ [] := by
    rw [joinLines_cons _ (List.cons_ne_nil _ _)]
    simp
  refine ⟨repairStyles (joinLines (lines (joinLines [members d inferred, "\x7d".toList]))), ?_⟩
  rw [classFile_eq, joinLines_lines_append hends (List.cons_ne_nil _ _), lines_line_feed,
    joinLines_nil_cons (lines_ne_nil hmembers), repairStyles_append hstyle (by decide)]

/-- A word that stands in front of the class is found in what is read of it. -/
theorem occursIn_classHead {mark l : List Char} {input : Bool} (hmark : '\n' ∉ mark) (hne : mark ≠ [])
    (hl : l ∈ decoratorLines base input) (h : occursIn mark l = true) (name rest : List Char) :
    occursIn mark (classHead name base input ++ rest) = true := by
  rw [occursIn_iff] at h ⊢
  refine List.IsInfix.trans ?_ (List.prefix_append _ _).isInfix
  rw [classHead, infix_joinLines_iff hmark hne]
  exact ⟨l, List.mem_append_left _ hl, h⟩

theorem append_word (above word : List Char) (c : Char) (cs tail rest : List Char) :
    above ++ '\n' :: (word ++ c :: cs ++ tail) ++ rest =
      (above ++ ['\n']) ++ (word ++ c :: (cs ++ (tail ++ rest))) := by
  simp

/-- The class is exported under a name that begins with a word character. -/
theorem exportsClass_classHead {c : Char} (hstart : isIdentifierStart c = true) (hdollar : c ≠ '$')
    (cs : List Char) (input : Bool) (rest : List Char) :
    exportsClass (classHead (c :: cs) base input ++ rest) = true := by
  have hpart : isIdentifierPart c = true := by rw [isIdentifierPart, hstart, Bool.true_or]
  have hclass := startsWithClass_of_word (isWordChar_of_isIdentifierStart hstart hdollar)
    (isBlank_of_isIdentifierPart hpart) (cs ++ ("Component \x7b".toList ++ rest))
  rw [classHead_eq]
  unfold classLine
  refine (congrArg exportsClass (append_word _ _ _ _ _ _)).trans ?_
  exact exportsClass_append _ hclass (List.append_ne_nil_of_right_ne_nil _ (List.cons_ne_nil _ _))

/-- Nothing is wrong with the class of a screen whose name is an identifier, unless it begins with a
dollar sign. -/
theorem classIssues_sample (hname : isIdentifierText d.screenName.toList = true)
    (hdollar : d.screenName.toList.head? ≠ some '$')
    (hbase : ∀ c ∈ base, isIdentifierPart c = true) (inferred : Option InferredInputs) :
    classIssues (repairStyles (joinLines (lines (classFile d base inferred)))) = [] := by
  obtain ⟨rest, hcontent⟩ :=
    classContent_eq (fun c hc => isIdentifierPart_of_mem hname hc) hbase inferred
  obtain ⟨c, cs, hcs⟩ : ∃ c cs, d.screenName.toList = c :: cs :=
    List.exists_cons_of_ne_nil fun h => by rw [h] at hname; cases hname
  rw [hcs, isIdentifierText, Bool.and_eq_true] at hname
  rw [hcs, List.head?_cons, ne_eq, Option.some_inj] at hdollar
  have himport (mark : List Char) (hmark : '\n' ∉ mark) (hne : mark ≠ [])
      (h : ∀ input, occursIn mark (importLine input) = true) :
      occursIn mark (classHead (c :: cs) base inferred.isSome ++ '\n' :: rest) = true :=
    occursIn_classHead hmark hne List.mem_cons_self (h _) _ _
  have hdecorator : occursIn "@Component".toList
      (classHead (c :: cs) base inferred.isSome ++ '\n' :: rest) = true :=
    occursIn_classHead (by decide) (by decide) (l := "@Component(\x7b".toList)
      (List.mem_cons_of_mem _ (List.mem_cons_of_mem _ List.mem_cons_self)) (by decide) _ _
  rw [hcontent, hcs]
  unfold classIssues
  simp only [hdecorator, exportsClass_classHead hname.1 hdollar,
    himport "import".toList (by decide) (by decide) (by decide),
    himport "@angular/core".toList (by decide) (by decide) (by decide)]
  rfl

/-! ## The template -/

/-- If a template names a button, it also names a part of the component library. -/
def NamesLibrary (template : List Char) : Prop :=
  "button".toList <:+: template → ∃ tag ∈ libraryTags, tag.toList <:+: template

theorem namesLibrary_iff {template : List Char} :
    (!occursIn "button".toList template || libraryTags.any fun tag => occursIn tag.toList template) =
      true ↔ NamesLibrary template := by
  simp only [NamesLibrary, ← occursIn_iff, Bool.or_eq_true, Bool.not_eq_true', List.any_eq_true,
    ← Bool.not_eq_true, ← Decidable.imp_iff_not_or]

instance (template : List Char) : Decidable (NamesLibrary template) :=
  decidable_of_iff _ namesLibrary_iff

/-- The advice on a template that names a button but no part of the library. -/
def libraryAdvice : FileIssue :=
  ⟨.warning, .content, "HTML may be missing PrimeNG components", some .html⟩

/-- Rejoining the lines of a template leaves what it names. -/
theorem namesLibrary_joinLines_lines (template : List Char) :
    NamesLibrary (joinLines (lines template)) ↔ NamesLibrary template := by
  have hword {word : List Char} (hends : word.any isLineEnd = false) (hne : word ≠ []) :
      word <:+: joinLines (lines template) ↔ word <:+: template :=
    infix_joinLines_lines_iff (not_isLineEnd_of_any hends) hne
  have htag : ∀ tag ∈ libraryTags, tag.toList.any isLineEnd = false ∧ tag.toList ≠ [] := by
    decide
  unfold NamesLibrary
  rw [hword (by decide) (by decide)]
  exact imp_congr_right fun _ => exists_congr fun tag => and_congr_right fun h =>
    hword (htag tag h).1 (htag tag h).2

/-- Nothing is wrong with the template, unless it names a button of its own. -/
theorem templateIssues_sample (d : Design) (base : List Char) (inferred : Option InferredInputs)
    {minLength : Int} (h : minLength ≤ 12) :
    templateIssues minLength (joinLines (lines (templateFile d base inferred))) =
      if NamesLibrary (templateFile d base inferred) then [] else [libraryAdvice] := by
  have hlead : "<div class=\"".toList <+: joinLines (lines (templateFile d base inferred)) := by
    rw [prefix_joinLines_lines_iff (not_isLineEnd_of_any (by decide))]
    exact lead_templateFile d base inferred
  have hlength : minLength ≤ (joinLines (lines (templateFile d base inferred))).length := by
    have hle : 12 ≤ (joinLines (lines (templateFile d base inferred))).length := hlead.length_le
    omega
  have hlibrary : unlessHolds
      (!occursIn "button".toList (joinLines (lines (templateFile d base inferred))) ||
        libraryTags.any fun tag =>
          occursIn tag.toList (joinLines (lines (templateFile d base inferred)))) libraryAdvice =
      if NamesLibrary (templateFile d base inferred) then [] else [libraryAdvice] := by
    simp only [unlessHolds, namesLibrary_iff, namesLibrary_joinLines_lines]
  rw [← hlibrary]
  unfold templateIssues
  rw [decide_eq_true hlength]
  rfl

end Sample

/-! ## The reply -/

open Sample Reply Text Naming

variable {d : Design} {inferred : Option InferredInputs}

/-- **Of a sample reply nothing can be wrong but what its template says of buttons**, when the name of
the screen is an identifier that does not begin with a dollar sign and no fence mark stands in the
files. -/
theorem sampleReply_issues (hname : isIdentifierText d.screenName.toList = true)
    (hdollar : d.screenName.toList.head? ≠ some '$')
    (hmark : ∀ k, ¬fenceMark <:+: fileText d inferred k) {minLength : Int} (h : minLength ≤ 12) :
    (extractFiles (sampleReply d inferred) d.screenName.toList minLength).issues =
      if NamesLibrary (fileText d inferred .html) then [] else [libraryAdvice] := by
  have hcharacters : ∀ c ∈ d.screenName.toList, isIdentifierPart c = true := fun c hc =>
    isIdentifierPart_of_mem hname hc
  have hbase : ∀ c ∈ lower d.screenName.toList, isIdentifierPart c = true := fun c hc =>
    isIdentifierPart_of_mem_lower hcharacters hc
  have hrejoined (k : FileKind) : joinLines (lines (fileText d inferred k)) ≠ [] :=
    (isCode_fileText d inferred k).joinLines_lines_ne_nil
  have hclass : issuesIn minLength .typescript
      (repaired .typescript (joinLines (lines (fileText d inferred .typescript)))) = [] := by
    obtain ⟨rest, hrest⟩ :=
      classContent_eq hcharacters hbase (inferred.filter fun i => !i.isEmpty)
    have hne : repaired .typescript (joinLines (lines (fileText d inferred .typescript))) ≠ [] :=
      fun hnil => absurd (hrest.symm.trans hnil) (by simp)
    rw [issuesIn, if_neg hne]
    exact classIssues_sample hname hdollar hbase _
  have htemplate : issuesIn minLength .html
      (repaired .html (joinLines (lines (fileText d inferred .html)))) =
        if NamesLibrary (fileText d inferred .html) then [] else [libraryAdvice] := by
    rw [issuesIn, repaired, if_neg (hrejoined .html)]
    exact templateIssues_sample d _ _ h
  have hstyles : issuesIn minLength .scss
      (repaired .scss (joinLines (lines (fileText d inferred .scss)))) = [] := by
    rw [issuesIn, repaired, if_neg (hrejoined .scss)]
  rw [(sampleReply_files hmark d.screenName.toList minLength).2, FileKind.all]
  simp only [List.flatMap_cons, List.flatMap_nil, hclass, htemplate, hstyles, List.nil_append,
    List.append_nil]

end Wireframe
