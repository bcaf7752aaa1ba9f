import Wireframe.Proofs.Reply.Assignment
import Wireframe.Proofs.Reply.SampleIssues
import Wireframe.Proofs.Reply.Verbatim
import Wireframe.Proofs.Text.Case

/-!
# The name of the class in a sample reply

A sample reply begins with the class, and the class with lines in which nothing but the name of the screen
varies. So these lines are read as they were written, whatever the texts of the design do to the rest of
the reply: even a fence mark in one of them only cuts off what stands behind.

* `IsLineName` — names that stay in one line and hold no part of a mark.
* `ExportsFirst` — the name under which a text exports its first class.
* `blockFor?_of_nextSpan?` — the first fence of a reply, labelled for a file, becomes the file.
* `exportsFirst_sampleReply` — the class that is read has the name of the screen.
-/

set_option autoImplicit false

namespace Wireframe

open Reply Text

/-! ## Names in one line -/

/-- Code points that a name in one line does without: those that end lines, the colon and the
backtick. -/
def breakCodes : List Nat :=
  [0xa, 0xb, 0xc, 0xd, 0x1c, 0x1d, 0x1e, 0x3a, 0x60, 0x85, 0x2028, 0x2029]

/-- A name that stays in one line and in which no part of a mark stands. -/
def IsLineName (name : List Char) : Prop := ∀ c ∈ name, c.toNat ∉ breakCodes

instance (name : List Char) : Decidable (IsLineName name) := List.decidableBAll _ name

theorem mem_breakCodes_of_isLineEnd {c : Char} (h : isLineEnd c = true) : c.toNat ∈ breakCodes := by
  simp only [isLineEnd, inRanges, lineEndRanges, List.any_cons, List.any_nil, Bool.or_eq_true,
    Bool.and_eq_true, decide_eq_true_eq, Bool.false_eq_true, or_false] at h
  simp only [breakCodes, List.mem_cons, List.not_mem_nil, or_false]
  omega

namespace IsLineName

variable {name : List Char}

/-- No such character has case, so lower-casing brings none about. -/
theorem lower (h : IsLineName name) : IsLineName (lower name) := by
  have hcaseless : ∀ n ∈ breakCodes, isCaseless n = true := by decide
  intro c hc hbreak
  exact h c ((mem_lower_iff (hcaseless _ hbreak)).1 hc) hbreak

theorem plain (h : IsLineName name) : ∀ c ∈ name, isLineEnd c = false ∧ c ≠ ':' := by
  intro c hc
  constructor
  · rw [← Bool.not_eq_true]
    exact fun hend => h c hc (mem_breakCodes_of_isLineEnd hend)
  · rintro rfl
    exact h _ hc (by decide)

theorem not_mem_backtick (h : IsLineName name) : '`' ∉ name := fun hc => h _ hc (by decide)

end IsLineName

/-! ## The name of a class -/

/-- The words in front of the name of an exported class. -/
def exportLead : List Char := "export class ".toList

/-- The line in which a class is exported under a name. -/
def exportLine (name : List Char) : List Char := exportLead ++ name ++ " \x7b".toList

/-- The first line of a text that exports a class gives the class this name. -/
def ExportsFirst (content name : List Char) : Prop :=
  (lines content).find? (exportLead.isPrefixOf ·) = some (exportLine name)

instance (content name : List Char) : Decidable (ExportsFirst content name) :=
  inferInstanceAs (Decidable (_ = some _))

/-- A text exports its first class under one name only. -/
theorem ExportsFirst.unique {content name other : List Char} (h : ExportsFirst content name)
    (h' : ExportsFirst content other) : name = other := by
  have hline : exportLine name = exportLine other := Option.some.inj (h.symm.trans h')
  exact List.append_cancel_left (List.append_cancel_right hline)

namespace Sample

theorem not_exports_of_head {c : Char} (hc : c ≠ 'e') (l : List Char) :
    ¬exportLead.isPrefixOf (c :: l) = true := by
  have hlead : exportLead = 'e' :: "xport class ".toList := by decide
  rw [hlead, List.isPrefixOf, beq_false_of_ne hc.symm, Bool.false_and]
  exact Bool.false_ne_true

/-- No line of the class in front of the one that opens it exports anything. -/
theorem not_exports_decoratorLines {base : List Char} {input : Bool} :
    ∀ l ∈ decoratorLines base input, ¬exportLead.isPrefixOf l = true := by
  simp only [decoratorLines, List.forall_mem_cons]
  refine ⟨?_, by decide, by decide, ?_, ?_, ?_, by decide, List.forall_mem_nil _⟩
  · cases input <;> decide
  · exact not_exports_of_head (by decide) _
  · exact not_exports_of_head (by decide) _
  · exact not_exports_of_head (by decide) _

/-! ## The head of the class as it is read -/

/-- What stands below a line: nothing, or a line feed and more. -/
def IsBelow (s : List Char) : Prop := s = [] ∨ ∃ t, s = '\n' :: t

theorem isBelow_trimEnd (s : List Char) : IsBelow (trimEnd ('\n' :: s)) := by
  have hfeed : trimEnd ['\n'] = [] := trimEnd_append_blank (by decide) []
  rw [← List.singleton_append, trimEnd_append, hfeed]
  split
  · exact .inl rfl
  · exact .inr ⟨_, rfl⟩

theorem IsBelow.withLineFeeds {s : List Char} (h : IsBelow s) : IsBelow (withLineFeeds s) := by
  rcases h with rfl | ⟨t, rfl⟩
  · exact .inl rfl
  · exact .inr ⟨_, rfl⟩

/-- Lines in front of what stands below them are its first lines. -/
theorem exists_lines_joinLines_append {ls : List (List Char)} {last s : List Char}
    (hls : ∀ l ∈ ls ++ [last], ∀ c ∈ l, isLineEnd c = false) (hlast : last ≠ []) (hs : IsBelow s) :
    ∃ more, lines (joinLines (ls ++ [last]) ++ s) = ls ++ last :: more := by
  induction ls with
  | nil =>
    have hends := hls last List.mem_cons_self
    rw [List.nil_append, joinLines_singleton]
    rcases hs with rfl | ⟨t, rfl⟩
    · exact ⟨[], by rw [List.append_nil, lines_of_not_end hlast hends]; rfl⟩
    · exact ⟨lines t, lines_line_append hends t⟩
  | cons l ls ih =>
    obtain ⟨hl, hrest⟩ := List.forall_mem_cons.1 hls
    obtain ⟨more, hmore⟩ := ih hrest
    refine ⟨more, ?_⟩
    rw [List.cons_append, joinLines_cons l (by simp), List.append_assoc, List.cons_append,
      lines_line_append hl, hmore, List.cons_append]

variable {name base behind : List Char} {input : Bool}

theorem prefix_importLine (input : Bool) : "import".toList <+: importLine input := by
  cases input <;> decide

theorem suffix_classHead (name base : List Char) (input : Bool) :
    ['\x7b'] <:+ classHead name base input := by
  have hbrace : ['\x7b'] <:+ "Component \x7b".toList := ⟨"Component ".toList, by decide⟩
  exact hbrace.trans ((List.suffix_append _ _).trans (suffix_joinLines List.getLast?_concat))

/-- Only white space at the end is trimmed off the class. -/
theorem trim_classHead_append (s : List Char) :
    trim (classHead name base input ++ s) = classHead name base input ++ trimEnd s := by
  obtain ⟨t, ht⟩ := (prefix_importLine input).trans (prefix_classHead name base input)
  obtain ⟨u, hu⟩ := suffix_classHead name base input
  have htrim := trim_between (c := 'i') (d := '\x7b') (by decide) (by decide)
    ⟨"mport".toList ++ t, ht.symm⟩ ⟨u, hu.symm⟩ [] s
  rwa [List.nil_append] at htrim

/-- The first line of the class is no comment, so it stays. -/
theorem codeIn_classHead_append (s : List Char) :
    codeIn (classHead name base input ++ s) = classHead name base input ++ trimEnd s := by
  obtain ⟨t, ht⟩ := (prefix_importLine input).trans (prefix_classHead name base input)
  have hline : ¬NamesSomeFile (topLine (classHead name base input ++ trimEnd s)) := by
    rintro ⟨hcomment, -⟩
    have htop : topLine (classHead name base input ++ trimEnd s) =
        'i' :: topLine ("mport".toList ++ t ++ trimEnd s) := by
      rw [← ht]
      rfl
    rw [htop, ← isComment_iff, isComment_of_head (by decide) (by decide) (by decide)] at hcomment
    cases hcomment
  rw [codeIn, trim_classHead_append, if_neg hline]

theorem hasOnlyLineFeeds_classHead (hname : IsLineName name) (hbase : IsLineName base) :
    HasOnlyLineFeeds (classHead name base input) := by
  intro c hc hend
  rcases mem_joinLines hc with rfl | ⟨l, hl, hcl⟩
  · rfl
  · have hplain := isPlain_of_mem_head hname.plain hbase.plain input l hl
    rw [hplain.ends c hcl] at hend
    cases hend

/-- Nothing is repaired in the class as far as its members. -/
theorem repairStyles_classHead_append (hname : IsLineName name) (hbase : IsLineName base)
    {s : List Char} (hs : IsBelow s) : ∃ t, IsBelow t ∧
      repairStyles (classHead name base input ++ s) = classHead name base input ++ t := by
  have hstyle : ¬styleMark <:+: classHead name base input := by
    unfold classHead
    rw [infix_joinLines_iff (by decide) (by decide)]
    rintro ⟨l, hl, h⟩
    exact (isPlain_of_mem_head hname.plain hbase.plain input l hl).style h
  rcases hs with rfl | ⟨t, rfl⟩
  · obtain ⟨front, hfront⟩ := suffix_classHead name base input
    rw [← hfront] at hstyle ⊢
    refine ⟨[], .inl rfl, ?_⟩
    rw [List.append_nil]
    exact repairStyles_append (fun h => hstyle (h.trans (List.prefix_append _ _).isInfix)) (by decide) []
  · exact ⟨_, .inr ⟨_, rfl⟩, repairStyles_append hstyle (by decide) t⟩

/-- The class is read as far as its members, whatever they are. -/
theorem contentOf_classHead (input : Bool) (hname : IsLineName name) (hbase : IsLineName base)
    (behind : List Char) : ∃ t, IsBelow t ∧
      contentOf .typescript (classHead name base input ++ '\n' :: behind) =
        classHead name base input ++ t := by
  have hread : withoutNameComment (classHead name base input ++ '\n' :: behind) =
      classHead name base input ++ withLineFeeds (trimEnd ('\n' :: behind)) := by
    rw [withoutNameComment_eq, codeIn_classHead_append,
      withLineFeeds_append (hasOnlyLineFeeds_classHead hname hbase)]
  rw [contentOf_eq_repaired, hread]
  exact repairStyles_classHead_append hname hbase (isBelow_trimEnd behind).withLineFeeds

theorem classLine_eq_exportLine (name : List Char) :
    classLine name = exportLine (name ++ "Component".toList) := by
  have htail : "Component \x7b".toList = "Component".toList ++ " \x7b".toList := by decide
  unfold classLine exportLine exportLead
  rw [htail, List.append_assoc, List.append_assoc, List.append_assoc]

/-- What is read of the class exports it under the name of the screen. -/
theorem exportsFirst_classHead_append (hname : IsLineName name) (hbase : IsLineName base)
    {s : List Char} (hs : IsBelow s) :
    ExportsFirst (classHead name base input ++ s) (name ++ "Component".toList) := by
  have hplain := isPlain_of_mem_head hname.plain hbase.plain input
  have hline := classLine_eq_exportLine name
  have hne : classLine name ≠ [] := List.append_ne_nil_of_right_ne_nil _ (by decide)
  have hlead : exportLead.isPrefixOf (classLine name) = true := by
    rw [hline, List.isPrefixOf_iff_prefix, exportLine, List.append_assoc]
    exact List.prefix_append _ _
  obtain ⟨more, hmore⟩ :=
    exists_lines_joinLines_append (fun l hl => (hplain l hl).ends) hne hs
  rw [ExportsFirst, classHead, hmore, List.find?_append,
    List.find?_eq_none.2 not_exports_decoratorLines, Option.none_or, List.find?_cons_of_pos hlead, hline]

/-! ## The first fence -/

theorem not_mem_between {c : Char} {a mid b : List Char} (ha : c ∉ a) (hmid : c ∉ mid) (hb : c ∉ b) :
    c ∉ a ++ mid ++ b := by
  simp only [List.mem_append, not_or]
  exact ⟨⟨ha, hmid⟩, hb⟩

theorem not_mem_backtick_classHead (hname : IsLineName name) (hbase : IsLineName base) :
    '`' ∉ classHead name base input := by
  have hlines : ∀ l ∈ decoratorLines base input ++ [classLine name], '`' ∉ l := by
    have hin := hbase.not_mem_backtick
    simp only [decoratorLines, List.cons_append, List.nil_append, List.forall_mem_cons]
    refine ⟨?_, by decide, by decide, ?_, ?_, ?_, by decide, ?_, List.forall_mem_nil _⟩
    · cases input <;> decide
    · exact not_mem_between (by decide) hin (by decide)
    · exact not_mem_between (by decide) hin (by decide)
    · exact not_mem_between (by decide) hin (by decide)
    · exact not_mem_between (by decide) hname.not_mem_backtick (by decide)
  intro h
  rcases mem_joinLines h with h | ⟨l, hl, hmem⟩
  · exact absurd h (by decide)
  · exact hlines l hl hmem

end Sample

/-- The first fence of a text ends no sooner than its beginning does that holds no backtick. -/
theorem nextSpan?_of_cutAt? {prose header a inside behind rest : List Char} (hprose : '`' ∉ prose)
    (hheader : '\n' ∉ header) (ha : '`' ∉ a) (hcut : cutAt? fenceMark inside = some (behind, rest)) :
    nextSpan? (prose ++ (fenceMark ++ (header ++ '\n' :: (a ++ inside)))) =
      some (⟨prose, header, a ++ behind⟩, rest) := by
  have hopened : cutAt? fenceMark (prose ++ (fenceMark ++ (header ++ '\n' :: (a ++ inside)))) =
      some (prose, header ++ '\n' :: (a ++ inside)) := cutAt?_of_not_mem hprose _ _
  have hline : cutAt? ['\n'] (header ++ '\n' :: (a ++ inside)) = some (header, a ++ inside) :=
    cutAt?_of_not_mem hheader _ _
  have hclosed : cutAt? fenceMark (a ++ inside) = some (a ++ behind, rest) := by
    rw [fenceMark, cutAt?_append_of_not_mem ha, ← fenceMark, hcut, Option.map_some]
  rw [nextSpan?, hopened]
  simp only [Option.bind_eq_bind, Option.bind_some, hline, hclosed]

/-- The first fence of a reply, when it is labelled with the name of a file, becomes that file. -/
theorem blockFor?_of_nextSpan? {reply rest : List Char} {s : Span} {k : FileKind}
    (h : nextSpan? reply = some (s, rest)) (hlabel : labelOf s.header = k.name.toList)
    (base : List Char) : ∃ b, blockFor? reply base k = some b ∧ b.body = s.body := by
  obtain ⟨b, others, hblocks, hb, hbody⟩ : ∃ b others, blocks reply = b :: others ∧
      b.label = k.name.toList ∧ b.body = s.body := by
    rw [blocks, spans_of_some h]
    exact ⟨_, _, rfl, hlabel, rfl⟩
  have hlabelled : k.labels.contains b.label = true := by
    rw [hb]
    cases k <;> decide
  refine ⟨b, assign_of_firstLabelled (areNumbered_blocks reply) ?_, hbody⟩
  rw [hblocks]
  exact List.find?_cons_of_pos hlabelled

namespace Sample

variable {d : Design} {inferred : Option InferredInputs}

/-- A sample reply as far as its class, what follows it up to the end of the first fence, and the rest. -/
theorem sampleReply_eq (d : Design) (inferred : Option InferredInputs) :
    ∃ input behind others, sampleReply d inferred = proseOf .typescript ++ (fenceMark ++
      (FileKind.typescript.name.toList ++ '\n' ::
        ((classHead d.screenName.toList (lower d.screenName.toList) input ++ ['\n']) ++
          (behind ++ (fenceMark ++ others))))) := by
  have hreply : sampleReply d inferred = spanTexts (FileKind.all.map (spanOf (fileText d inferred))) :=
    replyOf_eq (fileText d inferred)
  have hclass := classFile_eq d (lower d.screenName.toList) (inferred.filter fun i => !i.isEmpty)
  refine ⟨(inferred.filter fun i => !i.isEmpty).isSome,
    joinLines [members d (inferred.filter fun i => !i.isEmpty), "\x7d".toList] ++ ['\n'],
    spanTexts ([.html, .scss].map (spanOf (fileText d inferred))), hreply.trans ?_⟩
  rw [FileKind.all, List.map_cons, spanTexts, List.flatMap_cons, Span.text, spanOf, fileText, hclass]
  simp only [List.append_assoc, List.cons_append, List.nil_append, spanTexts]

/-- The first fence of a sample reply holds the class as far as its members. -/
theorem nextSpan?_sampleReply (inferred : Option InferredInputs)
    (hname : IsLineName d.screenName.toList) : ∃ input behind rest, nextSpan? (sampleReply d inferred) =
      some (⟨proseOf .typescript, FileKind.typescript.name.toList,
        classHead d.screenName.toList (lower d.screenName.toList) input ++ '\n' :: behind⟩, rest) := by
  obtain ⟨input, inside, others, hreply⟩ := sampleReply_eq d inferred
  have hsuffix := List.suffix_append inside (fenceMark ++ others)
  obtain ⟨behind, rest, hcut, -⟩ := exists_cutAt?_of_suffix hsuffix
  have hhead : '`' ∉ classHead d.screenName.toList (lower d.screenName.toList) input ++ ['\n'] := by
    rw [List.mem_append, not_or]
    exact ⟨not_mem_backtick_classHead hname hname.lower, by decide⟩
  have hprose : '`' ∉ proseOf .typescript := by decide
  have hheader : '\n' ∉ FileKind.typescript.name.toList := by decide
  refine ⟨input, behind, rest, ?_⟩
  rw [hreply, nextSpan?_of_cutAt? hprose hheader hhead hcut, List.append_assoc, List.singleton_append]

end Sample

open Sample

/-- **The class of a sample reply is read under the name of the screen**, if that stays in one line and
holds no part of a mark, whatever else stands in the reply. -/
theorem exportsFirst_sampleReply {d : Design} {inferred : Option InferredInputs}
    (hname : IsLineName d.screenName.toList) (base : List Char) (minLength : Int) :
    ∃ f, (extractFiles (sampleReply d inferred) base minLength).file? .typescript = some f ∧
      ExportsFirst f.content.toList (d.screenName.toList ++ "Component".toList) := by
  obtain ⟨input, behind, rest, hspan⟩ := nextSpan?_sampleReply inferred hname
  obtain ⟨b, hblock, hbody⟩ := blockFor?_of_nextSpan? hspan (labelOf_name .typescript) base
  obtain ⟨t, ht, hcontent⟩ := contentOf_classHead input hname hname.lower behind
  refine ⟨fileOf base .typescript b.body, by rw [file?_extractFiles, hblock, Option.map_some], ?_⟩
  rw [fileOf, String.toList_ofList, hbody, hcontent]
  exact exportsFirst_classHead_append hname hname.lower ht

end Wireframe
