import Mathlib.Data.List.Forall2
import Wireframe.Proofs.Reply.Extraction
import Wireframe.Proofs.Text.Lines

/-!
# Comments that name a file

A block can be recognized by a comment that names its file. The search for such a block asks that the
name ends where it stands in the comment, but not that it begins there: the name of one file may be the
end of another's.

* `occursAsName_iff`, `isComment_iff` — what the checks of a line decide.
* `findBlock_name_isAnswer` — the search answers the first free block with a comment that bears the
  name, or nothing when there is none.
* `name_search_exact_iff` — when that is the first one whose comment bears the name as a whole.
-/

set_option autoImplicit false

namespace Wireframe.Text

variable {word s rest : List Char}

/-- Whether two words have the same letters when case is ignored. -/
def IsSameWord (a b : List Char) : Prop := List.Forall₂ (fun x y => sameLetter x y = true) a b

/-- What follows a word at the start of a text, case ignored. -/
theorem dropWordIgnoringCase?_eq_some_iff : dropWordIgnoringCase? word s = some rest ↔
    ∃ same, s = same ++ rest ∧ IsSameWord word same := by
  unfold IsSameWord
  induction word generalizing s with
  | nil => simp [dropWordIgnoringCase?]
  | cons a word ih =>
    cases s with
    | nil => simp [dropWordIgnoringCase?]
    | cons c s =>
      rw [dropWordIgnoringCase?]
      constructor
      · intro h
        split at h
        · rename_i hletter
          obtain ⟨same, rfl, hsame⟩ := ih.1 h
          exact ⟨c :: same, rfl, .cons hletter hsame⟩
        · cases h
      · rintro ⟨same, heq, hsame⟩
        cases hsame with
        | @cons _ d _ same hletter hsame =>
          obtain ⟨rfl, rfl⟩ := List.cons.inj heq
          rw [if_pos hletter]
          exact ih.2 ⟨same, rfl, hsame⟩

end Wireframe.Text

namespace Wireframe.Reply

open Wireframe.Text

variable {base name line : List Char} {blocks : List Block} {claimed : List Nat} {k : FileKind}
  {b b' : Block} {isPart : Char → Bool}

/-! ## Names in a line -/

/-- A place where a name stands in a line, in letters of either case. -/
structure NamePlace (name line : List Char) where
  before : List Char
  word : List Char
  after : List Char
  line_eq : line = before ++ word ++ after
  same : IsSameWord name word

/-- Whether a line bears a name with no word character behind it. -/
def BearsName (name line : List Char) : Prop := ∃ p : NamePlace name line, endsWord p.after = true

/-- Whether a line bears a name as a whole: neither in front of it nor behind it stands a character that
names are made of. -/
def BearsWhole (isPart : Char → Bool) (name line : List Char) : Prop :=
  ∃ p : NamePlace name line, (∀ c, p.before.getLast? = some c → isPart c = false) ∧
    ∀ c, p.after.head? = some c → isPart c = false

theorem endsWord_iff (rest : List Char) :
    endsWord rest = true ↔ ∀ c, rest.head? = some c → isWordChar c = false := by
  cases rest <;> simp [endsWord]

theorem startsWithName_iff : startsWithName name line = true ↔
    ∃ word after, line = word ++ after ∧ IsSameWord name word ∧ endsWord after = true := by
  unfold startsWithName
  constructor
  · intro h
    split at h
    · rename_i after hdrop
      obtain ⟨word, hline, hsame⟩ := dropWordIgnoringCase?_eq_some_iff.1 hdrop
      exact ⟨word, after, hline, hsame, h⟩
    · cases h
  · rintro ⟨word, after, hline, hsame, hend⟩
    rw [dropWordIgnoringCase?_eq_some_iff.2 ⟨word, hline, hsame⟩]
    exact hend

theorem occursAsName_iff : occursAsName name line = true ↔ BearsName name line := by
  induction line with
  | nil =>
    rw [occursAsName, startsWithName_iff]
    constructor
    · rintro ⟨word, after, hline, hsame, hend⟩
      exact ⟨⟨[], word, after, hline, hsame⟩, hend⟩
    · rintro ⟨p, hend⟩
      have hparts : p.before ++ p.word ++ p.after = [] := p.line_eq.symm
      simp only [List.append_eq_nil_iff] at hparts
      exact ⟨p.word, p.after, by simp [hparts], p.same, hend⟩
  | cons c rest ih =>
    rw [occursAsName, Bool.or_eq_true, startsWithName_iff, ih]
    constructor
    · rintro (⟨word, after, hline, hsame, hend⟩ | ⟨p, hend⟩)
      · exact ⟨⟨[], word, after, hline, hsame⟩, hend⟩
      · exact ⟨⟨c :: p.before, p.word, p.after, congrArg (c :: ·) p.line_eq, p.same⟩, hend⟩
    · rintro ⟨⟨before, word, after, hline, hsame⟩, hend⟩
      cases before with
      | nil => exact .inl ⟨word, after, hline, hsame, hend⟩
      | cons d before =>
        obtain ⟨rfl, hrest⟩ := List.cons.inj hline
        exact .inr ⟨⟨before, word, after, hrest, hsame⟩, hend⟩

/-- A name that stands as a whole is borne. -/
theorem BearsWhole.bearsName (hpart : ∀ c, isWordChar c = true → isPart c = true)
    (h : BearsWhole isPart name line) : BearsName name line := by
  obtain ⟨p, -, hafter⟩ := h
  refine ⟨p, (endsWord_iff _).2 ?_⟩
  intro c hc
  rw [← Bool.not_eq_true]
  intro hword
  have hnone := hafter c hc
  rw [hpart c hword] at hnone
  cases hnone

/-- Whether a name stands as a whole behind so many characters of a line. -/
def standsWholeAt (isPart : Char → Bool) (name line : List Char) (i : Nat) : Bool :=
  (line.take i).getLast?.all (!isPart ·) &&
    (dropWordIgnoringCase? name (line.drop i)).any fun after => after.head?.all (!isPart ·)

theorem all_not_iff (o : Option Char) :
    o.all (!isPart ·) = true ↔ ∀ c, o = some c → isPart c = false := by
  cases o <;> simp

theorem standsWholeAt_iff {i : Nat} (hi : i ≤ line.length) :
    standsWholeAt isPart name line i = true ↔ ∃ p : NamePlace name line, p.before.length = i ∧
      (∀ c, p.before.getLast? = some c → isPart c = false) ∧
        ∀ c, p.after.head? = some c → isPart c = false := by
  unfold standsWholeAt
  rw [Bool.and_eq_true, all_not_iff]
  constructor
  · rintro ⟨hbefore, hword⟩
    cases hdrop : dropWordIgnoringCase? name (line.drop i) with
    | none =>
      rw [hdrop] at hword
      cases hword
    | some after =>
      rw [hdrop, Option.any_some, all_not_iff] at hword
      obtain ⟨word, hrest, hsame⟩ := dropWordIgnoringCase?_eq_some_iff.1 hdrop
      refine ⟨⟨line.take i, word, after, ?_, hsame⟩, ?_, hbefore, hword⟩
      · rw [List.append_assoc, ← hrest, List.take_append_drop]
      · exact List.length_take_of_le hi
  · rintro ⟨⟨before, word, after, hline, hsame⟩, hi, hbefore, hafter⟩
    dsimp only at hi hbefore hafter
    have hdrop : dropWordIgnoringCase? name (word ++ after) = some after :=
      dropWordIgnoringCase?_eq_some_iff.2 ⟨word, rfl, hsame⟩
    rw [← hi, hline, List.append_assoc, List.take_left, List.drop_left, hdrop, Option.any_some,
      all_not_iff]
    exact ⟨hbefore, hafter⟩

theorem bearsWhole_iff : BearsWhole isPart name line ↔
    ∃ i ∈ List.range (line.length + 1), standsWholeAt isPart name line i = true := by
  constructor
  · rintro ⟨p, hp⟩
    have hle : p.before.length ≤ line.length := by
      have hlength := congrArg List.length p.line_eq
      simp only [List.length_append] at hlength
      omega
    exact ⟨p.before.length, List.mem_range.2 (by omega), (standsWholeAt_iff hle).2 ⟨p, rfl, hp⟩⟩
  · rintro ⟨i, hi, h⟩
    have hle : i ≤ line.length := Nat.le_of_lt_succ (List.mem_range.1 hi)
    obtain ⟨p, -, hp⟩ := (standsWholeAt_iff hle).1 h
    exact ⟨p, hp⟩

instance (isPart : Char → Bool) (name line : List Char) : Decidable (BearsWhole isPart name line) :=
  decidable_of_iff _ bearsWhole_iff.symm

/-! ## Comments -/

/-- Whether a line is a comment: white space, and then one of the marks that comments begin with. -/
def IsComment (line : List Char) : Prop :=
  ∃ blanks mark rest, line = blanks ++ mark ++ rest ∧ (∀ c ∈ blanks, isBlank c = true) ∧
    mark ∈ commentMarks

theorem trimStart_append_mark {blanks mark : List Char} (hblanks : ∀ c ∈ blanks, isBlank c = true)
    (hmark : mark ∈ commentMarks) (rest : List Char) :
    trimStart (blanks ++ mark ++ rest) = mark ++ rest := by
  have hvisible : ∀ mark ∈ commentMarks, mark.head?.any (!isBlank ·) = true := by decide
  obtain ⟨c, hhead, hc⟩ := (Option.any_eq_true _ _).1 (hvisible mark hmark)
  obtain ⟨t, rfl⟩ := List.head?_eq_some_iff.1 hhead
  unfold trimStart
  rw [List.append_assoc, List.dropWhile_append_of_pos hblanks]
  exact trimStart_cons (by simpa using hc) (t ++ rest)

theorem isComment_iff : isComment line = true ↔ IsComment line := by
  unfold isComment
  rw [List.any_eq_true]
  constructor
  · rintro ⟨mark, hmark, hlead⟩
    obtain ⟨rest, hrest⟩ := dropLead?_isSome_iff.1 hlead
    refine ⟨line.takeWhile isBlank, mark, rest, ?_, ?_, hmark⟩
    · rw [List.append_assoc, hrest, trimStart, List.takeWhile_append_dropWhile]
    · intro c hc
      exact List.all_eq_true.1 List.all_takeWhile c hc
  · rintro ⟨blanks, mark, rest, rfl, hblanks, hmark⟩
    refine ⟨mark, hmark, ?_⟩
    rw [trimStart_append_mark hblanks hmark, dropLead?_append]
    rfl

instance (line : List Char) : Decidable (IsComment line) := decidable_of_iff _ isComment_iff

/-- Whether the line in front of a block or the first line in it that is not blank is a comment of a
kind. -/
def Block.IsMarked (b : Block) (P : List Char → Prop) : Prop :=
  IsComment b.precedingLine ∧ P b.precedingLine ∨ IsComment b.firstLine ∧ P b.firstLine

instance (b : Block) (P : List Char → Prop) [DecidablePred P] : Decidable (b.IsMarked P) :=
  inferInstanceAs (Decidable (_ ∨ _))

theorem Block.IsMarked.mono {P Q : List Char → Prop} (hPQ : ∀ line, P line → Q line)
    (h : b.IsMarked P) : b.IsMarked Q := by
  rcases h with ⟨hcomment, hP⟩ | ⟨hcomment, hP⟩
  · exact .inl ⟨hcomment, hPQ _ hP⟩
  · exact .inr ⟨hcomment, hPQ _ hP⟩

theorem namesFile_iff :
    namesFile k base line = true ↔ IsComment line ∧ BearsName (k.fileName base) line := by
  rw [namesFile, Bool.and_eq_true, isComment_iff, occursAsName_iff]

/-- A block shows the name of a file by a comment that bears it. -/
theorem holds_name : Sign.name.holds base k b = true ↔ b.IsMarked (BearsName (k.fileName base)) := by
  rw [Sign.holds, Bool.or_eq_true, namesFile_iff, namesFile_iff, Block.IsMarked]

/-! ## The search -/

/-- The first block of a kind among those that are not claimed. -/
def IsFirstFree (blocks : List Block) (claimed : List Nat) (P : Block → Prop) (b : Block) : Prop :=
  ∃ before after, blocks = before ++ b :: after ∧ b.index ∉ claimed ∧ P b ∧
    ∀ b' ∈ before, b'.index ∉ claimed → ¬P b'

/-- The law of a search: its answer is the first free block of a kind, or nothing when there is none. -/
def IsAnswer (blocks : List Block) (claimed : List Nat) (P : Block → Prop) : Option Block → Prop
  | some b => IsFirstFree blocks claimed P b
  | none => ∀ b ∈ blocks, b.index ∉ claimed → ¬P b

variable {P Q : Block → Prop}

theorem IsFirstFree.unique (h : IsFirstFree blocks claimed P b) (h' : IsFirstFree blocks claimed P b') :
    b = b' := by
  obtain ⟨before, after, hblocks, hfree, hP, hbefore⟩ := h
  obtain ⟨before', after', hblocks', hfree', hP', hbefore'⟩ := h'
  -- whichever stands first would be among the blocks in front of the other
  have hsame : before ++ b :: after = before' ++ b' :: after' := hblocks.symm.trans hblocks'
  rcases List.append_eq_append_iff.1 hsame with ⟨rest, hrest, hb⟩ | ⟨rest, hrest, hb⟩
  · cases rest with
    | nil => exact (List.cons.inj hb).1
    | cons c rest =>
      obtain ⟨rfl, -⟩ := List.cons.inj hb
      have hmem : b ∈ before' := by simp [hrest]
      exact absurd hP (hbefore' b hmem hfree)
  · cases rest with
    | nil => exact (List.cons.inj hb).1.symm
    | cons c rest =>
      obtain ⟨rfl, -⟩ := List.cons.inj hb
      have hmem : b' ∈ before := by simp [hrest]
      exact absurd hP' (hbefore b' hmem hfree')

/-- The search by comments answers the first free block that bears the name of the file. -/
theorem findBlock_name_isAnswer (base : List Char) (blocks : List Block) (claimed : List Nat)
    (k : FileKind) : IsAnswer blocks claimed (·.IsMarked (BearsName (k.fileName base)))
      (findBlock base blocks claimed .name k) := by
  have hshows (b : Block) : (!claimed.contains b.index && Sign.name.holds base k b) = true ↔
      b.index ∉ claimed ∧ b.IsMarked (BearsName (k.fileName base)) := by
    rw [Bool.and_eq_true, Bool.not_eq_true', ← Bool.not_eq_true, List.contains_iff_mem, holds_name]
  cases hfind : findBlock base blocks claimed .name k with
  | none =>
    intro b hb hfree hmarked
    exact List.find?_eq_none.1 hfind b hb ((hshows b).2 ⟨hfree, hmarked⟩)
  | some b =>
    obtain ⟨hb, before, after, hblocks, hbefore⟩ := List.find?_eq_some_iff_append.1 hfind
    obtain ⟨hfree, hmarked⟩ := (hshows b).1 hb
    refine ⟨before, after, hblocks, hfree, hmarked, ?_⟩
    intro b' hb' hfree' hmarked'
    have hnot := hbefore b' hb'
    rw [(hshows b').2 ⟨hfree', hmarked'⟩] at hnot
    cases hnot

/-- A search for one kind is a search for a narrower one exactly when the first free block of the kind
is of the narrower one too. -/
theorem IsAnswer.narrow_iff {answer : Option Block} (h : IsAnswer blocks claimed P answer)
    (hQP : ∀ b, Q b → P b) :
    IsAnswer blocks claimed Q answer ↔ ∀ b, IsFirstFree blocks claimed P b → Q b := by
  cases answer with
  | none =>
    apply iff_of_true
    · intro b hb hfree hQ
      exact h b hb hfree (hQP b hQ)
    · rintro b ⟨before, after, rfl, hfree, hP, -⟩
      exact absurd hP (h b (by simp) hfree)
  | some b =>
    have hfirst : IsFirstFree blocks claimed P b := h
    constructor
    · rintro ⟨-, -, -, -, hQ, -⟩ b' hb'
      rwa [hb'.unique hfirst]
    · intro hall
      obtain ⟨before, after, hblocks, hfree, hP, hbefore⟩ := h
      refine ⟨before, after, hblocks, hfree, hall b hfirst, ?_⟩
      intro b' hb' hfree' hQ
      exact hbefore b' hb' hfree' (hQP b' hQ)

/-- **The search for a file by comments is exact unless the name is the end of a longer one.** For any
blocks, of which any are claimed, any file of any screen, and any notion of the characters that names
are made of, word characters among them: the answer is the first free block whose preceding line, or
first line that is not blank, is a comment that bears the name of the file with no word character behind
it; there is none when no block is such. It is the answer for names that stand there as a whole if and
only if the first of those blocks bears its name as a whole. -/
theorem name_search_exact_iff (hpart : ∀ c, isWordChar c = true → isPart c = true) (base : List Char)
    (blocks : List Block) (claimed : List Nat) (k : FileKind) :
    let name := k.fileName base
    let answer := findBlock base blocks claimed .name k
    IsAnswer blocks claimed (·.IsMarked (BearsName name)) answer ∧
      (IsAnswer blocks claimed (·.IsMarked (BearsWhole isPart name)) answer ↔
        ∀ b, IsFirstFree blocks claimed (·.IsMarked (BearsName name)) b →
          b.IsMarked (BearsWhole isPart name)) := by
  intro name answer
  have hanswer : IsAnswer blocks claimed (·.IsMarked (BearsName name)) answer :=
    findBlock_name_isAnswer base blocks claimed k
  refine ⟨hanswer, hanswer.narrow_iff ?_⟩
  intro b hwhole
  exact hwhole.mono fun line h => h.bearsName hpart

/-- A reply with the class of one screen and that of another, whose name ends in the first one's. -/
def adminReply : List Char :=
  "// adminlogin.component.ts\n```\nadmin\n```\n// login.component.ts\n```\nlogin\n```".toList

/-- The class of the administrators' screen in that reply. -/
def adminBlock : Block where
  index := 0
  label := []
  body := "admin\n".toList
  precedingLine := "// adminlogin.component.ts".toList
  start := 27

/-- The class of the other screen in that reply. -/
def loginBlock : Block where
  index := 1
  label := []
  body := "login\n".toList
  precedingLine := "// login.component.ts".toList
  start := 63

/-- The characters of file names that are not in several parts. -/
def isFileNameChar (c : Char) : Bool := isWordChar c || c == '-' || c == '$'

theorem blocks_adminReply : Reply.blocks adminReply = [adminBlock, loginBlock] := by decide

/-- Once the administrators' block is claimed, the block of the screen itself is found. -/
theorem name_search_exact_iff_login :
    (∀ c, isWordChar c = true → isFileNameChar c = true) ∧
      findBlock "Login".toList (Reply.blocks adminReply) [0] .name .typescript = some loginBlock ∧
      IsAnswer (Reply.blocks adminReply) [0]
        (·.IsMarked (BearsWhole isFileNameChar (FileKind.typescript.fileName "Login".toList)))
        (findBlock "Login".toList (Reply.blocks adminReply) [0] .name .typescript) := by
  have hpart (c : Char) (h : isWordChar c = true) : isFileNameChar c = true := by
    simp [isFileNameChar, h]
  obtain ⟨hfound, hmarked⟩ :
      findBlock "Login".toList (Reply.blocks adminReply) [0] .name .typescript = some loginBlock ∧
        loginBlock.IsMarked
          (BearsWhole isFileNameChar (FileKind.typescript.fileName "Login".toList)) := by
    rw [blocks_adminReply]
    decide
  have hsearch := name_search_exact_iff hpart "Login".toList (Reply.blocks adminReply) [0] .typescript
  refine ⟨hpart, hfound, hsearch.2.2 ?_⟩
  intro b hb
  have hanswer := hsearch.1
  rw [hfound] at hanswer
  rw [hb.unique hanswer]
  exact hmarked

/-- **A name is taken for the end of a longer one.** The block of another screen is found, though the one
behind it is the first whose comment bears the name as a whole. -/
theorem longer_name_is_taken :
    let whole (b : Block) :=
      b.IsMarked (BearsWhole isWordChar (FileKind.typescript.fileName "Login".toList))
    findBlock "Login".toList (Reply.blocks adminReply) [] .name .typescript = some adminBlock ∧
      IsAnswer (Reply.blocks adminReply) [] whole (some loginBlock) ∧
      ¬IsAnswer (Reply.blocks adminReply) [] whole
        (findBlock "Login".toList (Reply.blocks adminReply) [] .name .typescript) := by
  intro whole
  obtain ⟨hfound, hadmin, hlogin⟩ :
      findBlock "Login".toList (Reply.blocks adminReply) [] .name .typescript = some adminBlock ∧
        ¬whole adminBlock ∧ whole loginBlock := by
    rw [blocks_adminReply]
    decide
  refine ⟨hfound, ?_, ?_⟩
  · rw [blocks_adminReply]
    refine ⟨[adminBlock], [], rfl, List.not_mem_nil, hlogin, ?_⟩
    intro b hb _
    rwa [List.mem_singleton.1 hb]
  · rw [hfound]
    rintro ⟨-, -, -, -, hwhole, -⟩
    exact hadmin hwhole

end Wireframe.Reply
