import Mathlib.Data.List.TakeWhile
import Wireframe.Proofs.Reply.Fence

/-!
# The fences of a text

Three backticks may open a fence wherever they stand. The blocks of a text are the fences that are met
when it is read from the left, each up to the first backticks that close it.

* `AreFences` — the law of the fences of a text: they stand in it one behind the other, and every fence
  that stands in the text begins inside one of them.
* `AreFences.unique` — no two lists of fences obey the law.
* `blocks_are_fences` — the blocks of every text are the fences that obey it, and fences that were
  written with a label and a body come back with these.
-/

set_option autoImplicit false

namespace Wireframe.Reply

open Wireframe.Text

/-! ## Fences in a text -/

/-- A fence at a place of a text. -/
structure Fence where
  /-- How many characters stand in front of it. -/
  start : Nat
  header : List Char
  body : List Char

namespace Fence

/-- A fence as it is written. -/
def text (f : Fence) : List Char := fenceMark ++ f.header ++ '\n' :: f.body ++ fenceMark

/-- How many characters stand in front of what follows a fence. -/
def stop (f : Fence) : Nat := f.start + f.text.length

/-- A fence stands in a text: three backticks, a header up to the end of its line, and a body up to the
next three backticks. -/
structure IsIn (f : Fence) (text : List Char) : Prop where
  stands : f.text <+: text.drop f.start
  header : '\n' ∉ f.header
  body : ¬fenceMark <:+: f.body ++ fenceMark.dropLast

variable {f g : Fence} {text : List Char}

theorem start_lt_stop (f : Fence) : f.start < f.stop := by
  have hpos : 0 < f.text.length := by
    simp only [text, List.length_append, List.length_cons]
    omega
  unfold stop
  omega

/-- At one place of a text stands at most one fence. -/
theorem IsIn.eq_of_start (hf : f.IsIn text) (hg : g.IsIn text) (hstart : f.start = g.start) :
    f = g := by
  have hspan {h : Fence} (hin : h.IsIn text) : (⟨[], h.header, h.body⟩ : Span).IsFirst :=
    ⟨of_decide_eq_true rfl, hin.header, hin.body⟩
  obtain ⟨r, hr⟩ := hf.stands
  obtain ⟨t, ht⟩ := hg.stands
  have hcut := nextSpan?_text_append_of_isFirst (hspan hf) r
  have hcut' := nextSpan?_text_append_of_isFirst (hspan hg) t
  have htext {h : Fence} : (⟨[], h.header, h.body⟩ : Span).text = h.text := rfl
  rw [htext, hr, hstart] at hcut
  rw [htext, ht, hcut] at hcut'
  obtain ⟨start, header, body⟩ := f
  obtain ⟨start', header', body'⟩ := g
  simp only [Option.some.injEq, Prod.mk.injEq, Span.mk.injEq] at hcut' hstart
  obtain ⟨⟨-, rfl, rfl⟩, -⟩ := hcut'
  rw [hstart]

end Fence

/-! ## The law of the fences of a text -/

/-- The fences of a text from a place on, read from the left. -/
structure AreFences (text : List Char) (place : Nat) (fs : List Fence) : Prop where
  stand : ∀ f ∈ fs, place ≤ f.start ∧ f.IsIn text
  apart : fs.Pairwise fun f g => f.stop ≤ g.start
  complete : ∀ f : Fence, f.IsIn text → place ≤ f.start → ∃ g ∈ fs, g.start ≤ f.start ∧ f.start < g.stop

namespace AreFences

variable {text : List Char} {place : Nat} {f : Fence} {fs gs : List Fence}

theorem tail (h : AreFences text place (f :: fs)) : AreFences text f.stop fs := by
  obtain ⟨hbehind, hapart⟩ := List.pairwise_cons.1 h.apart
  refine ⟨fun g hg => ⟨hbehind g hg, (h.stand g (List.mem_cons_of_mem f hg)).2⟩, hapart, ?_⟩
  intro g hin hplace
  have hfirst := (h.stand f List.mem_cons_self).1
  have hlt := f.start_lt_stop
  obtain ⟨x, hx, hle, hstop⟩ := h.complete g hin (by omega)
  rcases List.mem_cons.1 hx with rfl | hx
  · omega
  · exact ⟨x, hx, hle, hstop⟩

/-- The first fence of a text begins in front of every other. -/
theorem start_le (h : AreFences text place (f :: fs)) {g : Fence} (hin : g.IsIn text)
    (hplace : place ≤ g.start) : f.start ≤ g.start := by
  obtain ⟨x, hx, hle, -⟩ := h.complete g hin hplace
  rcases List.mem_cons.1 hx with rfl | hx
  · exact hle
  · have hbehind := (List.pairwise_cons.1 h.apart).1 x hx
    have hlt := f.start_lt_stop
    omega

/-- **The law determines the fences of a text.** -/
theorem unique (hfs : AreFences text place fs) (hgs : AreFences text place gs) : fs = gs := by
  -- the first fences begin in front of each other; what is behind them obeys the law from there on
  induction fs generalizing gs place with
  | nil =>
    cases gs with
    | nil => rfl
    | cons g gs =>
      obtain ⟨hplace, hin⟩ := hgs.stand g List.mem_cons_self
      obtain ⟨x, hx, -⟩ := hfs.complete g hin hplace
      cases hx
  | cons f fs ih =>
    obtain ⟨hplace, hin⟩ := hfs.stand f List.mem_cons_self
    cases gs with
    | nil =>
      obtain ⟨x, hx, -⟩ := hgs.complete f hin hplace
      cases hx
    | cons g gs =>
      obtain ⟨hplace', hin'⟩ := hgs.stand g List.mem_cons_self
      have hle := hfs.start_le hin' hplace'
      have hge := hgs.start_le hin hplace
      obtain rfl : f = g := hin.eq_of_start hin' (by omega)
      rw [ih hfs.tail hgs.tail]

end AreFences

/-! ## Reading from the left -/

section

variable {text rest : List Char} {place : Nat} {s : Span} {ss : List Span}

/-- The fence of a span that is cut off at a place. -/
def Span.fenceAt (place : Nat) (s : Span) : Fence := ⟨place + s.prose.length, s.header, s.body⟩

theorem Span.text_eq (s : Span) (place : Nat) : s.text = s.prose ++ (s.fenceAt place).text := by
  simp only [Span.text, fenceAt, Fence.text, List.append_assoc]

theorem Span.stop_fenceAt (s : Span) (place : Nat) :
    (s.fenceAt place).stop = place + s.text.length := by
  rw [Fence.stop, s.text_eq place, List.length_append, ← Nat.add_assoc]
  rfl

/-- A text in which a fence is written has a first one. -/
theorem exists_nextSpan?_of_suffix {f : Fence} (h : f.text ++ rest <:+ text) :
    ∃ s after, nextSpan? text = some (s, after) := by
  have hopening : fenceMark ++ (f.header ++ '\n' :: (f.body ++ (fenceMark ++ rest))) <:+ text := by
    simpa only [Fence.text, List.append_assoc, List.cons_append] using h
  obtain ⟨prose, opened, hopen, hopened⟩ := exists_cutAt?_of_suffix hopening
  have hline : ['\n'] ++ (f.body ++ (fenceMark ++ rest)) <:+ opened :=
    (List.suffix_append f.header _).trans hopened
  obtain ⟨header, inside, hcut, hinside⟩ := exists_cutAt?_of_suffix hline
  have hclosing : fenceMark ++ rest <:+ inside := (List.suffix_append f.body _).trans hinside
  obtain ⟨body, after, hclose, -⟩ := exists_cutAt?_of_suffix hclosing
  refine ⟨⟨prose, header, body⟩, after, ?_⟩
  rw [nextSpan?, hopen]
  simp only [hcut, hclose, Option.bind_eq_bind, Option.bind_some]

/-- Where nothing is cut off, no fence stands. -/
theorem not_isIn_of_nextSpan?_none (h : nextSpan? (text.drop place) = none) {f : Fence}
    (hin : f.IsIn text) : ¬place ≤ f.start := by
  intro hplace
  obtain ⟨r, hr⟩ := hin.stands
  have hsuffix : f.text ++ r <:+ text.drop place := by
    rw [hr, ← Nat.add_sub_of_le hplace, ← List.drop_drop]
    exact List.drop_suffix _ _
  obtain ⟨s, after, hnext⟩ := exists_nextSpan?_of_suffix hsuffix
  rw [h] at hnext
  cases hnext

theorem areFences_nil (h : nextSpan? (text.drop place) = none) : AreFences text place [] where
  stand := nofun
  apart := List.Pairwise.nil
  complete _ hin hplace := absurd hplace (not_isIn_of_nextSpan?_none h hin)

section

variable (h : nextSpan? (text.drop place) = some (s, rest))

include h

theorem isIn_fenceAt : (s.fenceAt place).IsIn text := by
  obtain ⟨htext, hfirst⟩ := nextSpan?_eq_some_iff.1 h
  refine ⟨⟨rest, ?_⟩, hfirst.header, hfirst.body⟩
  have hdrop : text.drop (s.fenceAt place).start = (text.drop place).drop s.prose.length := by
    rw [List.drop_drop]
    rfl
  rw [hdrop, htext, s.text_eq place, List.append_assoc, List.drop_left]

theorem drop_stop_fenceAt : text.drop (s.fenceAt place).stop = rest := by
  rw [s.stop_fenceAt, ← List.drop_drop, eq_text_append_of_nextSpan? h, List.drop_left]

/-- No fence stands in front of the one that is cut off. -/
theorem start_fenceAt_le {f : Fence} (hin : f.IsIn text) (hplace : place ≤ f.start) :
    (s.fenceAt place).start ≤ f.start := by
  obtain ⟨htext, hfirst⟩ := nextSpan?_eq_some_iff.1 h
  by_contra hlt
  have hinside : f.start - place < s.prose.length := by
    simp only [Span.fenceAt] at hlt
    omega
  have hopening : fenceMark <+: (text.drop place).drop (f.start - place) := by
    rw [List.drop_drop, Nat.add_sub_of_le hplace]
    refine List.IsPrefix.trans ?_ hin.stands
    simp only [Fence.text, List.append_assoc]
    exact List.prefix_append _ _
  have hprose : (text.drop place).drop (f.start - place) =
      s.prose.drop (f.start - place) ++ fenceMark ++
        (s.header ++ '\n' :: s.body ++ fenceMark ++ rest) := by
    rw [htext, Span.text]
    simp only [List.append_assoc]
    rw [List.drop_append_of_le_length (Nat.le_of_lt hinside)]
  rw [hprose] at hopening
  have hne : s.prose.drop (f.start - place) ≠ [] := by
    rw [← List.length_pos_iff, List.length_drop]
    omega
  refine hfirst.prose ((prefix_append_dropLast hne hopening).isInfix.trans ?_)
  rw [← List.drop_append_of_le_length (Nat.le_of_lt hinside)]
  exact (List.drop_suffix _ _).isInfix

theorem areFences_cons {fs : List Fence} (hfs : AreFences text (s.fenceAt place).stop fs) :
    AreFences text place (s.fenceAt place :: fs) where
  stand := by
    have hle : place ≤ (s.fenceAt place).start := Nat.le_add_right place _
    have hlt := (s.fenceAt place).start_lt_stop
    refine List.forall_mem_cons.2 ⟨⟨hle, isIn_fenceAt h⟩, fun g hg => ?_⟩
    obtain ⟨hstop, hin⟩ := hfs.stand g hg
    exact ⟨by omega, hin⟩
  apart := List.pairwise_cons.2 ⟨fun g hg => (hfs.stand g hg).1, hfs.apart⟩
  complete := by
    intro f hin hplace
    by_cases hstop : (s.fenceAt place).stop ≤ f.start
    · obtain ⟨g, hg, hcover⟩ := hfs.complete f hin hstop
      exact ⟨g, List.mem_cons_of_mem _ hg, hcover⟩
    · exact ⟨_, List.mem_cons_self, start_fenceAt_le h hin hplace, by omega⟩

end

/-- The fences of spans that are cut off one after another. -/
def fencesFrom : Nat → List Span → List Fence
  | _, [] => []
  | place, s :: ss => s.fenceAt place :: fencesFrom (place + s.text.length) ss

theorem areFences_spans (text : List Char) (place : Nat) :
    AreFences text place (fencesFrom place (spans (text.drop place))) := by
  refine spans_induction (motive := fun behind ss => ∀ place, text.drop place = behind →
    AreFences text place (fencesFrom place ss)) ?_ ?_ (text.drop place) place rfl
  · intro behind hnext place hdrop
    rw [← hdrop] at hnext
    exact areFences_nil hnext
  · intro behind s rest hnext ih place hdrop
    rw [← hdrop] at hnext
    refine areFences_cons hnext ?_
    rw [← s.stop_fenceAt]
    exact ih _ (drop_stop_fenceAt hnext)

/-! ## Blocks -/

/-- The block of a fence in a text, with a number. -/
def Fence.block (text : List Char) (f : Fence) (index : Nat) : Block where
  index := index
  label := labelOf f.header
  body := f.body
  precedingLine := lastLine (text.take f.start)
  start := f.start

/-- The blocks of fences in a text, numbered from zero. -/
def fenceBlocks (text : List Char) (fs : List Fence) : List Block :=
  fs.zipIdx.map fun (f, index) => f.block text index

theorem prefix_spanTexts_spans (text : List Char) : spanTexts (spans text) <+: text := by
  refine spans_induction (motive := fun text ss => spanTexts ss <+: text) ?_ ?_ text
  · intro text _
    exact List.nil_prefix
  · intro text s rest hnext ih
    rw [eq_text_append_of_nextSpan? hnext, spanTexts, List.flatMap_cons]
    exact (List.prefix_append_right_inj s.text).2 ih

theorem blocksFrom_take (h : spanTexts ss <+: text.drop place) (index : Nat) :
    blocksFrom index (text.take place) ss =
      ((fencesFrom place ss).zipIdx index).map fun (f, i) => f.block text i := by
  induction ss generalizing place index with
  | nil => rfl
  | cons s ss ih =>
    obtain ⟨rest, hrest⟩ := h
    rw [spanTexts, List.flatMap_cons, List.append_assoc] at hrest
    have htake {lead : List Char} (hlead : lead <+: text.drop place) :
        text.take place ++ lead = text.take (place + lead.length) := by
      rw [List.take_add, ← List.prefix_iff_eq_take.1 hlead]
    have hprose : s.prose <+: text.drop place := by
      rw [← hrest, s.text_eq place, List.append_assoc]
      exact List.prefix_append _ _
    have hwhole : s.text <+: text.drop place := ⟨_, hrest⟩
    have hbehind : spanTexts ss <+: text.drop (place + s.text.length) := by
      rw [← List.drop_drop, ← hrest, List.drop_left]
      exact List.prefix_append _ _
    rw [blocksFrom, fencesFrom, List.zipIdx_cons, List.map_cons, htake hprose, htake hwhole,
      ih hbehind]
    have hstart : (text.take (place + s.prose.length)).length = place + s.prose.length := by
      have hlt := (s.fenceAt place).start_lt_stop
      have hle := hwhole.length_le
      rw [s.stop_fenceAt] at hlt
      simp only [Span.fenceAt, List.length_drop] at hlt hle
      rw [List.length_take]
      omega
    rw [hstart]
    rfl

theorem blocks_eq_fenceBlocks (text : List Char) :
    blocks text = fenceBlocks text (fencesFrom 0 (spans text)) :=
  blocksFrom_take (prefix_spanTexts_spans (text.drop 0)) 0

/-- The body of a block stands in the reply. -/
theorem body_infix_of_mem_blocks {reply : List Char} {b : Block} (h : b ∈ blocks reply) :
    b.body <:+: reply := by
  rw [blocks_eq_fenceBlocks] at h
  obtain ⟨⟨f, index⟩, hf, rfl⟩ := List.mem_map.1 h
  have hstands := ((areFences_spans reply 0).stand f (List.fst_mem_of_mem_zipIdx hf)).2.stands
  have hbody : f.body <:+: f.text := by
    refine ⟨fenceMark ++ f.header ++ ['\n'], fenceMark, ?_⟩
    simp [Fence.text]
  exact hbody.trans (hstands.isInfix.trans (List.drop_suffix _ _).isInfix)

end

/-! ## Fences that were written -/

/-- A label and a body to be written as a fence, with the prose in front of it. -/
structure Listing where
  prose : List Char
  label : List Char
  body : List Char

namespace Listing

/-- The prose and the fence, with a line feed behind the label and behind the body. -/
def text (l : Listing) : List Char :=
  l.prose ++ fenceMark ++ l.label ++ '\n' :: l.body ++ '\n' :: fenceMark

/-- What can be written: prose without backticks, a label of word characters and the signs `+`, `#`, `.`
and `-`, and a body without three backticks in a row. -/
structure IsWritable (l : Listing) : Prop where
  prose : '`' ∉ l.prose
  label : ∀ c ∈ l.label, isLabelChar c = true
  body : ¬fenceMark <:+: l.body

/-- The span that a listing is read as. -/
def span (l : Listing) : Span := ⟨l.prose, l.label, l.body ++ ['\n']⟩

variable {l : Listing}

theorem text_span (l : Listing) : l.span.text = l.text := by simp [span, Span.text, text]

theorem IsWritable.isSound (h : l.IsWritable) : l.span.IsSound where
  prose := h.prose
  header := by
    intro hmem
    have hfeed := h.label '\n' hmem
    revert hfeed
    decide
  body := ⟨l.body, rfl, h.body⟩

theorem IsWritable.labelOf_label (h : l.IsWritable) : labelOf l.label = lower l.label := by
  have hdrop : l.label.dropWhile (fun c => c == ' ' || c == '\t') = l.label := by
    cases hlabel : l.label with
    | nil => rfl
    | cons c rest =>
      have hc := h.label c (hlabel ▸ List.mem_cons_self)
      have hblank : (c == ' ' || c == '\t') = false := by
        rw [← Bool.not_eq_true, Bool.or_eq_true, beq_iff_eq, beq_iff_eq]
        rintro (rfl | rfl) <;> revert hc <;> decide
      rw [List.dropWhile_cons_of_neg (by rw [hblank]; decide)]
  rw [labelOf, hdrop, List.takeWhile_eq_self_iff.2 h.label]

end Listing

theorem labels_blocksFrom (index : Nat) (before : List Char) (ss : List Span) :
    (blocksFrom index before ss).map (fun b => (b.label, b.body)) =
      ss.map fun s => (labelOf s.header, s.body) := by
  induction ss generalizing index before with
  | nil => rfl
  | cons s ss ih => rw [blocksFrom, List.map_cons, ih, List.map_cons]

theorem blocks_listings {ls : List Listing} (hls : ∀ l ∈ ls, l.IsWritable) {tail : List Char}
    (htail : '`' ∉ tail) :
    (blocks (ls.flatMap Listing.text ++ tail)).map (fun b => (b.label, b.body)) =
      ls.map fun l => (lower l.label, l.body ++ ['\n']) := by
  have htext : ls.flatMap Listing.text = spanTexts (ls.map Listing.span) := by
    rw [spanTexts, List.flatMap_map]
    exact List.flatMap_congr fun l _ => l.text_span.symm
  have hspans : spans (spanTexts (ls.map Listing.span) ++ tail) = ls.map Listing.span := by
    refine spans_texts_append (fun s hs => ?_) htail
    obtain ⟨l, hl, rfl⟩ := List.mem_map.1 hs
    exact (hls l hl).isSound
  rw [htext, blocks, hspans, labels_blocksFrom, List.map_map]
  exact List.map_congr_left fun l hl => congrArg (·, l.body ++ ['\n']) (hls l hl).labelOf_label

/-- **The blocks of a text are exactly its fences, read from the left.** They are numbered from zero;
the fences stand one behind the other, no other fence begins between them, and no other list of fences
is like that. Fences that were written with labels and bodies come back with these, the labels in small
letters. -/
theorem blocks_are_fences (text : List Char) {ls : List Listing} (hls : ∀ l ∈ ls, l.IsWritable)
    {tail : List Char} (htail : '`' ∉ tail) :
    (∃ fs, AreFences text 0 fs ∧ (∀ gs, AreFences text 0 gs → gs = fs) ∧
        blocks text = fenceBlocks text fs) ∧
      (blocks (ls.flatMap Listing.text ++ tail)).map (fun b => (b.label, b.body)) =
        ls.map fun l => (lower l.label, l.body ++ ['\n']) := by
  have hfences : AreFences text 0 (fencesFrom 0 (spans text)) := areFences_spans text 0
  refine ⟨⟨_, hfences, fun gs hgs => hgs.unique hfences, blocks_eq_fenceBlocks text⟩, ?_⟩
  exact blocks_listings hls htail

/-- Two listings without prose between them, with backticks at the ends of their bodies. -/
def closeListings : List Listing :=
  [⟨"Here:\n".toList, "TypeScript".toList, "let s = ``".toList⟩, ⟨[], "c++".toList, "`".toList⟩]

theorem blocks_are_fences_close :
    (∃ fs, AreFences "````a```\n``` b```\n".toList 0 fs ∧
        (∀ gs, AreFences "````a```\n``` b```\n".toList 0 gs → gs = fs) ∧
        blocks "````a```\n``` b```\n".toList = fenceBlocks "````a```\n``` b```\n".toList fs) ∧
      (blocks (closeListings.flatMap Listing.text ++ "Done.".toList)).map (fun b => (b.label, b.body)) =
        closeListings.map fun l => (lower l.label, l.body ++ ['\n']) := by
  refine blocks_are_fences _ (fun l hl => ?_) (by decide)
  simp only [closeListings, List.mem_cons, List.not_mem_nil, or_false] at hl
  rcases hl with rfl | rfl <;> exact ⟨by decide, List.all_eq_true.1 (by decide), by decide⟩

end Wireframe.Reply
