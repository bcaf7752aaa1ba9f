import Wireframe.Proofs.Reply.Extraction
import Wireframe.Proofs.Text.Lines

/-!
# Prose around a reply

What is written in front of a reply and behind it, without backticks, opens no fence, closes none and
completes none; in front it moves the blocks, and the first of them may get a line of the prose for the
line that precedes it.

* `blocks_append` — prose behind a reply changes no block.
* `blocks_prose_append` — what prose in front of a reply makes of its blocks.
* `prose_is_ignored` — the files are the same, unless a line of the prose is a comment.
-/

set_option autoImplicit false

namespace Wireframe.Reply

open Wireframe.Text

/-! ## Fences -/

variable {before after : List Char}

/-- Prose in front of a text becomes part of the prose in front of its first fence. -/
theorem nextSpan?_prose_append (h : '`' ∉ before) (text : List Char) :
    nextSpan? (before ++ text) = (nextSpan? text).map fun (s, rest) =>
      ({ s with prose := before ++ s.prose }, rest) := by
  have hcut : cutAt? fenceMark (before ++ text) =
      (cutAt? fenceMark text).map fun found => (before ++ found.1, found.2) :=
    cutAt?_append_of_not_mem h text
  rw [nextSpan?, hcut, nextSpan?]
  cases cutAt? fenceMark text with
  | none => rfl
  | some found =>
    obtain ⟨prose, opened⟩ := found
    simp only [Option.map_some, Option.bind_eq_bind, Option.bind_some]
    cases cutAt? ['\n'] opened with
    | none => rfl
    | some line =>
      obtain ⟨header, inside⟩ := line
      simp only [Option.bind_some]
      cases cutAt? fenceMark inside <;> rfl

/-- Prose behind a text completes no fence. -/
theorem nextSpan?_append_prose (h : '`' ∉ after) (text : List Char) :
    nextSpan? (text ++ after) = (nextSpan? text).map fun (s, rest) => (s, rest ++ after) := by
  cases hnext : nextSpan? text with
  | some found =>
    obtain ⟨s, rest⟩ := found
    obtain ⟨htext, hfirst⟩ := nextSpan?_eq_some_iff.1 hnext
    exact nextSpan?_eq_some_iff.2 ⟨by rw [htext, List.append_assoc], hfirst⟩
  | none =>
    rw [Option.map_none, Option.eq_none_iff_forall_ne_some]
    rintro ⟨s, rest⟩ hsome
    obtain ⟨htext, hfirst⟩ := nextSpan?_eq_some_iff.1 hsome
    obtain ⟨inner, htick⟩ : ∃ inner, s.text = inner ++ ['`'] :=
      ⟨s.prose ++ fenceMark ++ s.header ++ '\n' :: s.body ++ ['`', '`'], by simp [Span.text, fenceMark]⟩
    have hinside : ∃ rest', text = s.text ++ rest' := by
      rcases List.append_eq_append_iff.1 htext with ⟨overlap, hs, hafter⟩ | ⟨rest', hs, -⟩
      · rcases List.eq_nil_or_concat overlap with rfl | ⟨init, c, rfl⟩
        · exact ⟨[], by rw [hs, List.append_nil, List.append_nil]⟩
        · rw [htick, List.concat_eq_append, ← List.append_assoc] at hs
          obtain rfl : '`' = c := by simpa using List.append_inj_right' hs rfl
          exact absurd (by rw [hafter]; simp) h
      · exact ⟨rest', hs⟩
    obtain ⟨rest', hrest⟩ := hinside
    rw [nextSpan?_eq_some_iff.2 ⟨hrest, hfirst⟩] at hnext
    cases hnext

theorem spans_append (h : '`' ∉ after) (text : List Char) : spans (text ++ after) = spans text := by
  refine spans_induction (motive := fun text ss => spans (text ++ after) = ss) ?_ ?_ text
  · intro text hnext
    refine spans_of_none ?_
    rw [nextSpan?_append_prose h, hnext, Option.map_none]
  · intro text s rest hnext ih
    have happend : nextSpan? (text ++ after) = some (s, rest ++ after) := by
      rw [nextSpan?_append_prose h, hnext, Option.map_some]
    rw [spans_of_some happend, ih]

/-- Spans with more prose in front of the first. -/
def behindProse (before : List Char) : List Span → List Span
  | [] => []
  | s :: ss => { s with prose := before ++ s.prose } :: ss

theorem spans_prose_append (h : '`' ∉ before) (text : List Char) :
    spans (before ++ text) = behindProse before (spans text) := by
  have happend := nextSpan?_prose_append h text
  cases hnext : nextSpan? text with
  | none =>
    rw [hnext] at happend
    rw [spans_of_none happend, spans_of_none hnext]
    rfl
  | some found =>
    obtain ⟨s, rest⟩ := found
    rw [hnext] at happend
    rw [spans_of_some happend, spans_of_some hnext]
    rfl

/-! ## Blocks -/

/-- **Prose behind a text changes none of its blocks.** -/
theorem blocks_append (h : '`' ∉ after) (text : List Char) : blocks (text ++ after) = blocks text := by
  rw [blocks, spans_append h, blocks]

/-- A block of a text that follows some prose: further from the start, and preceded by the last line of
the prose when no line of the text precedes it. -/
def Block.behind (before : List Char) (b : Block) : Block :=
  { b with
    precedingLine := if b.precedingLine = [] then lastLine before else b.precedingLine
    start := before.length + b.start }

theorem lastLine_of_trimEnd {text t : List Char} {d : Char} (h : trimEnd text = t ++ [d])
    (hd : isBlank d = false) : ∃ front last, lastLine text = last ++ [d] ∧
      (∀ c ∈ last ++ [d], isLineEnd c = false) ∧
      ∀ s, lines (t ++ d :: s) = front ++ lines (last ++ d :: s) := by
  have hend := isLineEnd_of_not_isBlank hd
  obtain ⟨front, last, hlast, hlines⟩ := exists_lines_concat hend t
  have hline : ∀ c ∈ last ++ [d], isLineEnd c = false := by
    intro c hc
    rcases List.mem_append.1 hc with hc | hc
    · exact hlast c hc
    · rw [List.mem_singleton.1 hc, hend]
  refine ⟨front, last, ?_, hline, hlines⟩
  rw [lastLine, h, hlines, lines_of_not_end (by simp) hline, List.getLast?_concat]
  rfl

/-- The last line of two texts, of which the first ends a line. -/
theorem lastLine_append (hbefore : before.getLast? = some '\n') (text : List Char) :
    lastLine (before ++ text) = if lastLine text = [] then lastLine before else lastLine text := by
  obtain ⟨init, rfl⟩ := List.getLast?_eq_some_iff.1 hbefore
  rcases trimEnd_eq_nil_or text with htext | ⟨t, d, htext, hd⟩
  · have hlast : lastLine text = [] := by rw [lastLine, htext]; rfl
    rw [if_pos hlast, lastLine, trimEnd_append, if_pos htext]
    rfl
  · obtain ⟨front, last, hlast, hline, hlines⟩ := lastLine_of_trimEnd htext hd
    have hne : lastLine text ≠ [] := by rw [hlast]; simp
    have hends : trimEnd text ≠ [] := by rw [htext]; simp
    rw [if_neg hne, lastLine, trimEnd_append, if_neg hends, List.append_assoc, List.singleton_append,
      lines_append_line_feed, List.getLast?_append_of_ne_nil _ (lines_ne_nil hends)]
    rfl

theorem blocksFrom_prose_append (hbefore : before.getLast? = some '\n') (index : Nat)
    (front : List Char) (ss : List Span) :
    blocksFrom index (before ++ front) ss =
      (blocksFrom index front ss).map (Block.behind before) := by
  induction ss generalizing index front with
  | nil => rfl
  | cons s ss ih =>
    rw [blocksFrom, blocksFrom, List.map_cons, List.append_assoc, List.append_assoc, ih,
      lastLine_append hbefore, List.length_append]
    rfl

/-- **What prose in front of a text makes of its blocks.** -/
theorem blocks_prose_append (h : '`' ∉ before) (hbefore : before.getLast? = some '\n')
    (text : List Char) : blocks (before ++ text) = (blocks text).map (Block.behind before) := by
  have hfront : blocksFrom 0 [] (behindProse before (spans text)) =
      blocksFrom 0 (before ++ []) (spans text) := by
    cases spans text with
    | nil => rfl
    | cons s ss =>
      simp only [behindProse, blocksFrom, Span.text, List.nil_append, List.append_nil, List.append_assoc]
  rw [blocks, spans_prose_append h, hfront, blocksFrom_prose_append hbefore, blocks]

/-! ## Signs -/

/-- A line that goes on after a comment mark is a comment. -/
theorem isComment_append {line : List Char} (h : isComment line = true) (more : List Char) :
    isComment (line ++ more) = true := by
  obtain ⟨mark, hmark, hlead⟩ := List.any_eq_true.1 h
  rw [dropLead?_isSome_iff] at hlead
  have hne : trimStart line ≠ [] := by
    rintro hnil
    rw [hnil, List.prefix_nil] at hlead
    subst hlead
    revert hmark
    decide
  refine List.any_eq_true.2 ⟨mark, hmark, ?_⟩
  have hstart : trimStart (line ++ more) = trimStart line ++ more := by
    unfold trimStart at hne ⊢
    rw [List.dropWhile_append, if_neg (by rwa [List.isEmpty_iff])]
  rw [dropLead?_isSome_iff, hstart]
  exact hlead.trans (List.prefix_append _ _)

/-- Where no line is a comment, the last one is none, however it is trimmed. -/
theorem isComment_lastLine (h : ∀ line ∈ lines before, isComment line = false) :
    isComment (lastLine before) = false := by
  rcases trimEnd_eq_nil_or before with hbefore | ⟨t, d, hbefore, hd⟩
  · rw [lastLine, hbefore]
    rfl
  · obtain ⟨front, last, hlast, hline, hlines⟩ := lastLine_of_trimEnd hbefore hd
    obtain ⟨blanks, heq⟩ := exists_eq_trimEnd_append before
    obtain ⟨first, rest, hfirst⟩ := lines_append hline (by simp) blanks
    have hmem : last ++ [d] ++ first ∈ lines before := by
      rw [heq, hbefore, List.append_assoc, List.singleton_append, hlines, ← List.singleton_append,
        ← List.append_assoc, hfirst]
      exact List.mem_append_right front List.mem_cons_self
    rw [hlast, ← Bool.not_eq_true]
    intro hcomment
    have hmore := isComment_append hcomment first
    rw [h _ hmem] at hmore
    cases hmore

/-- Behind prose without comments a block shows the signs that it shows by itself. -/
theorem holds_behind (h : ∀ line ∈ lines before, isComment line = false) (base : List Char)
    (k : FileKind) (sign : Sign) (b : Block) :
    sign.holds base k (b.behind before) = sign.holds base k b := by
  cases sign with
  | label => rfl
  | any => rfl
  | name =>
    have hline : namesFile k base (b.behind before).precedingLine = namesFile k base b.precedingLine := by
      simp only [Block.behind]
      split
      · rename_i hnil
        rw [namesFile, namesFile, isComment_lastLine h, hnil, Bool.false_and]
        rfl
      · rfl
    exact congrArg (· || namesFile k base b.firstLine) hline

/-! ## Files -/

section

variable {g : Block → Block} {base : List Char} (hindex : ∀ b, (g b).index = b.index)
  (hholds : ∀ (sign : Sign) (k : FileKind) (b : Block), sign.holds base k (g b) = sign.holds base k b)

/-- An assignment with every block replaced. -/
def Assignment.mapBlocks (g : Block → Block) (a : Assignment) : Assignment :=
  a.map fun (k, b) => (k, g b)

theorem Assignment.block?_mapBlocks (g : Block → Block) (a : Assignment) (k : FileKind) :
    (a.mapBlocks g).block? k = (a.block? k).map g := by
  induction a with
  | nil => rfl
  | cons e a ih =>
    obtain ⟨kind, b⟩ := e
    simp only [mapBlocks, block?, List.map_cons, List.lookup_cons] at ih ⊢
    split
    · rfl
    · exact ih

include hindex

theorem Assignment.claimed_mapBlocks (a : Assignment) : (a.mapBlocks g).claimed = a.claimed := by
  simp only [claimed, mapBlocks, List.map_map, Function.comp_def, hindex]

include hholds

theorem findBlock_map (blocks : List Block) (claimed : List Nat) (sign : Sign) (k : FileKind) :
    findBlock base (blocks.map g) claimed sign k = (findBlock base blocks claimed sign k).map g := by
  simp only [findBlock, List.find?_map, Function.comp_def, hindex, hholds]

theorem Assignment.give_mapBlocks (blocks : List Block) (sign : Sign) (a : Assignment) (k : FileKind) :
    (a.mapBlocks g).give base (blocks.map g) sign k = (a.give base blocks sign k).mapBlocks g := by
  unfold give
  rw [block?_mapBlocks, claimed_mapBlocks hindex, findBlock_map hindex hholds]
  cases a.block? k with
  | some b => rfl
  | none =>
    cases findBlock base blocks a.claimed sign k with
    | none => rfl
    | some b => simp [mapBlocks]

/-- Blocks that show the same signs under the same numbers are given to the same files. -/
theorem assign_map (blocks : List Block) :
    assign base (blocks.map g) = (assign base blocks).mapBlocks g := by
  have hpass (a : Assignment) (sign : Sign) :
      (a.mapBlocks g).pass base (blocks.map g) sign = (a.pass base blocks sign).mapBlocks g :=
    List.foldl_hom (Assignment.mapBlocks g) fun a k =>
      Assignment.give_mapBlocks hindex hholds blocks sign a k
  show Sign.all.foldl (Assignment.pass base (blocks.map g)) (Assignment.mapBlocks g []) = _
  exact List.foldl_hom (Assignment.mapBlocks g) hpass

end

/-- **Prose around a reply does not change what is read from it**: any text without backticks behind it,
and lines without backticks in front of it of which none is a comment. -/
theorem prose_is_ignored (hbefore : '`' ∉ before) (hline : before.getLast? = some '\n')
    (hcomment : ∀ line ∈ lines before, isComment line = false) (hafter : '`' ∉ after)
    (reply base : List Char) (minLength : Int) :
    extractFiles (before ++ reply ++ after) base minLength = extractFiles reply base minLength ∧
      parse (before ++ reply ++ after) base minLength = parse reply base minLength := by
  have hindex (b : Block) : (b.behind before).index = b.index := rfl
  have hholds (sign : Sign) (k : FileKind) (b : Block) :=
    holds_behind hcomment base k sign b
  have hblocks : assign base (blocks (before ++ reply ++ after)) =
      (assign base (blocks reply)).mapBlocks (Block.behind before) := by
    rw [blocks_append hafter, blocks_prose_append hbefore hline]
    exact assign_map hindex hholds (blocks reply)
  have hfile (k : FileKind) :
      (((assign base (blocks reply)).mapBlocks (Block.behind before)).block? k).map
          (fun b => fileOf base k b.body) =
        ((assign base (blocks reply)).block? k).map fun b => fileOf base k b.body := by
    rw [Assignment.block?_mapBlocks, Option.map_map]
    rfl
  have hfiles : extractFiles (before ++ reply ++ after) base minLength =
      extractFiles reply base minLength := by
    simp only [extractFiles, hblocks, hfile]
  refine ⟨hfiles, ?_⟩
  unfold parse
  rw [hfiles]

/-- Prose with a comment mark inside a line, and a blank line at its end. -/
def politeness : List Char := "Sure // here it is:\n\n".toList

/-- A reply with an unlabelled fence at its start, and one at its end that is not closed. -/
def openReply : List Char := "```\n// login.component.ts\nexport\n```\n```html <p>".toList

theorem prose_is_ignored_openReply :
    extractFiles (politeness ++ openReply ++ " done\nBye".toList) "login".toList 10 =
        extractFiles openReply "login".toList 10 ∧
      parse (politeness ++ openReply ++ " done\nBye".toList) "login".toList 10 =
        parse openReply "login".toList 10 := by
  have hcomment : ∀ line ∈ lines politeness, isComment line = false := by
    have hall : ((lines politeness).all fun line => !isComment line) = true := by decide
    intro line hmem
    simpa using List.all_eq_true.1 hall line hmem
  exact prose_is_ignored (by decide) (by decide) hcomment (by decide) openReply "login".toList 10

end Wireframe.Reply
