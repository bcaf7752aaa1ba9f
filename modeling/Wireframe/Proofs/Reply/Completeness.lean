import Wireframe.Proofs.Reply.SampleIssues

/-!
# Replies that nothing is wrong with

A reply is free of issues exactly when all three files are found in it with a content, and the class and
the template have what is looked for. What is looked for is said here in terms of the texts alone.

* `IsClass`, `IsTemplate` — what a class and a template have to have.
* `exportsClass_iff` — the search for an exported class is the search for its pattern.
* `FileSet.IsComplete` — three files with contents of that kind.
* `issues_eq_nil_iff` — the files of a reply are without issues exactly when they are complete.
-/

set_option autoImplicit false

namespace Wireframe

/-! ## Words and white space -/

namespace Text

variable {c : Char} {s rest : List Char}

theorem blankRanges_disjoint :
    ∀ r ∈ blankRanges, ∀ w ∈ wordRanges, r.2 < w.1 ∨ w.2 < r.1 := by decide +kernel

/-- No code point of white space is one of a word. -/
theorem inRanges_wordRanges_of_blank {n : Nat} (h : inRanges blankRanges n = true) :
    inRanges wordRanges n = false := by
  rw [← Bool.not_eq_true]
  intro hword
  obtain ⟨r, hr, hblank⟩ := List.any_eq_true.1 h
  obtain ⟨w, hw, hword⟩ := List.any_eq_true.1 hword
  simp only [Bool.and_eq_true, decide_eq_true_eq] at hblank hword
  have hdisjoint := blankRanges_disjoint r hr w hw
  omega

theorem isBlank_of_isWordChar (h : isWordChar c = true) : isBlank c = false := by
  rw [← Bool.not_eq_true]
  intro hblank
  unfold isWordChar at h
  split at h
  · have hcode : (97 ≤ c.toNat ∧ c.toNat ≤ 122) ∨ (65 ≤ c.toNat ∧ c.toNat ≤ 90) ∨
        (48 ≤ c.toNat ∧ c.toNat ≤ 57) ∨ c.toNat = 95 := by
      simp only [isAsciiAlnum, Bool.or_eq_true, Bool.and_eq_true, decide_eq_true_eq, beq_iff_eq,
        Naming.char_le_iff, Char.reduceToNat] at h
      rcases h with ((h | h) | h) | rfl
      · exact .inl h
      · exact .inr (.inl h)
      · exact .inr (.inr (.inl h))
      · exact .inr (.inr (.inr rfl))
    simp only [isBlank, inRanges, blankRanges, List.any_cons, List.any_nil, Bool.or_eq_true,
      Bool.and_eq_true, decide_eq_true_eq, Bool.false_eq_true, or_false] at hblank
    omega
  · rw [inRanges_wordRanges_of_blank hblank] at h
    cases h

/-- Some white space, and nothing else. -/
structure IsGap (s : List Char) : Prop where
  ne_nil : s ≠ []
  blank : ∀ c ∈ s, isBlank c = true

theorem trimStart_append {gap : List Char} (h : ∀ c ∈ gap, isBlank c = true) (hc : isBlank c = false)
    (s : List Char) : trimStart (gap ++ c :: s) = c :: s := by
  unfold trimStart
  rw [List.dropWhile_append_of_pos h]
  exact trimStart_cons hc s

end Text

namespace Reply

open Text

variable {c : Char} {s rest content : List Char}

/-! ## The exported class -/

theorem dropBlanks?_append {gap : List Char} (h : IsGap gap) (hc : isBlank c = false)
    (s : List Char) : dropBlanks? (gap ++ c :: s) = some (c :: s) := by
  obtain ⟨b, gap, rfl⟩ := List.exists_cons_of_ne_nil h.ne_nil
  obtain ⟨hb, hgap⟩ := List.forall_mem_cons.1 h.blank
  rw [List.cons_append, dropBlanks?, if_pos hb, trimStart_append hgap hc]

theorem eq_append_of_dropBlanks? (h : dropBlanks? s = some rest) :
    ∃ gap, IsGap gap ∧ s = gap ++ rest := by
  cases s with
  | nil => cases h
  | cons b s =>
    rw [dropBlanks?] at h
    split at h
    · rename_i hb
      cases h
      refine ⟨b :: s.takeWhile isBlank, ⟨List.cons_ne_nil _ _, ?_⟩, ?_⟩
      · exact List.forall_mem_cons.2 ⟨hb, List.all_eq_true.1 List.all_takeWhile⟩
      · rw [List.cons_append]
        exact congrArg (b :: ·) List.takeWhile_append_dropWhile.symm
    · cases h

/-- A text that begins with the words that export a class and the first character of its name. -/
def StartsWithClass (s : List Char) : Prop :=
  ∃ gap gap' c after, s = "export".toList ++ (gap ++ ("class".toList ++ (gap' ++ c :: after))) ∧
    IsGap gap ∧ IsGap gap' ∧ isWordChar c = true

/-- A text in which a class is exported somewhere. -/
def ExportsClass (content : List Char) : Prop :=
  ∃ before s, content = before ++ s ∧ StartsWithClass s

theorem startsWithClass_iff : startsWithClass s = true ↔ StartsWithClass s := by
  constructor
  · intro h
    unfold startsWithClass at h
    dsimp only at h
    split at h
    · rename_i c after hnamed
      obtain ⟨a, ha, hexported⟩ := Option.bind_eq_some_iff.1 hnamed
      obtain ⟨b, hb, hclass⟩ := Option.bind_eq_some_iff.1 hexported
      obtain ⟨d, hd, hname⟩ := Option.bind_eq_some_iff.1 hclass
      obtain ⟨gap, hgap, rfl⟩ := eq_append_of_dropBlanks? hb
      obtain ⟨gap', hgap', rfl⟩ := eq_append_of_dropBlanks? hname
      refine ⟨gap, gap', c, after, ?_, hgap, hgap', h⟩
      rw [eq_append_of_dropLead? ha, eq_append_of_dropLead? hd]
    · cases h
  · rintro ⟨gap, gap', c, after, rfl, hgap, hgap', hword⟩
    have hfirst : dropBlanks? (gap ++ ("class".toList ++ (gap' ++ c :: after))) =
        some ("class".toList ++ (gap' ++ c :: after)) :=
      dropBlanks?_append (c := 'c') hgap (by decide) _
    have hsecond := dropBlanks?_append hgap' (isBlank_of_isWordChar hword) after
    simp only [startsWithClass, dropLead?_append, Option.bind_some, hfirst, hsecond, hword]

/-- The search for an exported class is the search for its pattern. -/
theorem exportsClass_iff : exportsClass content = true ↔ ExportsClass content := by
  constructor
  · intro h
    induction content with
    | nil => cases h
    | cons b content ih =>
      rw [exportsClass, Bool.or_eq_true, startsWithClass_iff] at h
      rcases h with h | h
      · exact ⟨[], b :: content, rfl, h⟩
      · obtain ⟨before, s, rfl, hs⟩ := ih h
        exact ⟨b :: before, s, rfl, hs⟩
  · rintro ⟨before, s, rfl, hs⟩
    refine exportsClass_append before (startsWithClass_iff.2 hs) ?_
    obtain ⟨gap, gap', c, after, rfl, -⟩ := hs
    exact List.cons_ne_nil _ _

/-! ## Contents -/

structure IsClass (content : List Char) : Prop where
  decorator : "@Component".toList <:+: content
  exported : ExportsClass content
  imports : "import".toList <:+: content
  framework : "@angular/core".toList <:+: content

structure IsTemplate (minLength : Int) (content : List Char) : Prop where
  length : minLength ≤ content.length
  library : Sample.NamesLibrary content

theorem unlessHolds_eq_nil {condition : Bool} {i : FileIssue} :
    unlessHolds condition i = [] ↔ condition = true := by
  cases condition <;> simp [unlessHolds]

theorem classIssues_eq_nil : classIssues content = [] ↔ IsClass content := by
  unfold classIssues
  simp only [List.append_eq_nil_iff, unlessHolds_eq_nil, Bool.and_eq_true, occursIn_iff,
    exportsClass_iff]
  constructor
  · rintro ⟨⟨hdecorator, hexported⟩, himports, hframework⟩
    exact ⟨hdecorator, hexported, himports, hframework⟩
  · rintro ⟨hdecorator, hexported, himports, hframework⟩
    exact ⟨⟨hdecorator, hexported⟩, himports, hframework⟩

theorem templateIssues_eq_nil {minLength : Int} :
    templateIssues minLength content = [] ↔ IsTemplate minLength content := by
  unfold templateIssues
  simp only [List.append_eq_nil_iff, unlessHolds_eq_nil, decide_eq_true_eq, Sample.namesLibrary_iff]
  exact ⟨fun ⟨hlength, hlibrary⟩ => ⟨hlength, hlibrary⟩,
    fun ⟨hlength, hlibrary⟩ => ⟨hlength, hlibrary⟩⟩

/-- A content without issues, for a file of a kind. -/
structure IsContent (minLength : Int) (k : FileKind) (content : String) : Prop where
  ne_empty : content ≠ ""
  isClass : k = .typescript → IsClass content.toList
  isTemplate : k = .html → IsTemplate minLength content.toList

theorem contentIssues_eq_nil {minLength : Int} {f : GeneratedFile} :
    contentIssues minLength f = [] ↔ IsContent minLength f.kind f.content := by
  unfold contentIssues
  by_cases hempty : f.content = ""
  · rw [if_pos hempty]
    exact iff_of_false (List.cons_ne_nil _ _) fun h => h.ne_empty hempty
  · rw [if_neg hempty]
    cases hkind : f.kind with
    | typescript =>
      dsimp only
      rw [classIssues_eq_nil]
      exact ⟨fun h => ⟨hempty, fun _ => h, nofun⟩, fun h => h.isClass rfl⟩
    | html =>
      dsimp only
      rw [templateIssues_eq_nil]
      exact ⟨fun h => ⟨hempty, nofun, fun _ => h⟩, fun h => h.isTemplate rfl⟩
    | scss => exact iff_of_true rfl ⟨hempty, nofun, nofun⟩

end Reply

open Reply

/-! ## Sets of files -/

/-- All three files, each with a content that nothing is wrong with. -/
def FileSet.IsComplete (minLength : Int) (s : FileSet) : Prop :=
  ∀ k, ∃ f, s.file? k = some f ∧ IsContent minLength k f.content

variable {reply base : List Char} {minLength : Int}

theorem replyIssues_eq_nil : replyIssues reply base minLength = [] ↔
    ∀ k, ∃ b, blockFor? reply base k = some b ∧ issuesIn minLength k (contentOf k b.body) = [] := by
  rw [replyIssues, List.append_eq_nil_iff, List.map_eq_nil_iff, List.filter_eq_nil_iff,
    List.flatMap_eq_nil_iff]
  constructor
  · rintro ⟨hfound, hcontents⟩ k
    obtain ⟨b, hb⟩ := Option.ne_none_iff_exists'.1 fun hnone =>
      hfound k k.mem_all (Option.isNone_iff_eq_none.2 hnone)
    have hcontent := hcontents k k.mem_all
    rw [hb] at hcontent
    exact ⟨b, hb, hcontent⟩
  · intro h
    refine ⟨fun k _ hnone => ?_, fun k _ => ?_⟩
    · obtain ⟨b, hb, -⟩ := h k
      rw [hb] at hnone
      cases hnone
    · obtain ⟨b, hb, hcontent⟩ := h k
      rw [hb]
      exact hcontent

/-- **The files of a reply are without issues exactly when they are complete.** -/
theorem issues_eq_nil_iff : (extractFiles reply base minLength).issues = [] ↔
    (extractFiles reply base minLength).IsComplete minLength := by
  rw [issues_extractFiles, replyIssues_eq_nil]
  refine forall_congr' fun k => ?_
  rw [file?_extractFiles]
  cases hb : blockFor? reply base k with
  | none => exact iff_of_false nofun nofun
  | some b =>
    simp only [Option.some.injEq, exists_eq_left', Option.map_some, ← contentIssues_fileOf _ base,
      contentIssues_eq_nil]
    rfl

theorem errors_eq_nil_iff : (extractFiles reply base minLength).errors = [] ↔
    (extractFiles reply base minLength).IsComplete minLength := by
  rw [← issues_eq_nil_iff]
  exact List.map_eq_nil_iff

end Wireframe
