import Mathlib.Data.List.Infix
import Wireframe.Proofs.Text.Search
import Wireframe.Reply.Fence

/-!
# Fences that are read back

A span that was written as a fence is cut off again as it was, whatever follows, provided that no mark
hides in it.

* `nextSpan?_eq_some_iff` — what is cut off a text, as a relation between the text and the span.
* `spans_induction` — induction along the spans of a text.
* `spans_texts_append` — the inverse of writing spans one after another.
-/

set_option autoImplicit false

namespace Wireframe.Reply

open Wireframe.Text

/-- A span whose parts hold nothing that would be taken for a mark: no backtick in the prose, no line
feed in the header, and no fence mark in the body, which ends its last line. -/
structure Span.IsSound (s : Span) : Prop where
  prose : '`' ∉ s.prose
  header : '\n' ∉ s.header
  body : ∃ text, s.body = text ++ ['\n'] ∧ ¬fenceMark <:+: text

/-- The texts of spans, one after another. -/
def spanTexts (ss : List Span) : List Char := ss.flatMap (·.text)

variable {s : Span} {ss : List Span}

/-- A span that ends where it is cut off: no fence mark begins in its prose or in its body, and its
header is one line. -/
structure Span.IsFirst (s : Span) : Prop where
  prose : ¬fenceMark <:+: s.prose ++ fenceMark.dropLast
  header : '\n' ∉ s.header
  body : ¬fenceMark <:+: s.body ++ fenceMark.dropLast

/-- What is cut off a text is such a span, and every such span that a text begins with is cut off. -/
theorem nextSpan?_eq_some_iff {text rest : List Char} :
    nextSpan? text = some (s, rest) ↔ text = s.text ++ rest ∧ s.IsFirst := by
  have hmark : fenceMark ≠ [] := List.cons_ne_nil _ _
  have hline : ['\n'] ≠ [] := List.cons_ne_nil _ _
  have hheader {h : List Char} : ¬['\n'] <:+: h ++ ['\n'].dropLast ↔ '\n' ∉ h := by
    rw [List.dropLast_singleton, List.append_nil, List.singleton_infix_iff]
  constructor
  · intro h
    refine ⟨eq_text_append_of_nextSpan? h, ?_⟩
    simp only [nextSpan?, Option.bind_eq_bind, Option.bind_eq_some_iff] at h
    obtain ⟨⟨prose, opened⟩, hopen, ⟨header, inside⟩, hcut, ⟨body, after⟩, hclose, heq⟩ := h
    cases heq
    exact ⟨((cutAt?_eq_some_iff hmark).1 hopen).2, hheader.1 ((cutAt?_eq_some_iff hline).1 hcut).2,
      ((cutAt?_eq_some_iff hmark).1 hclose).2⟩
  · rintro ⟨rfl, h⟩
    obtain ⟨prose, header, body⟩ := s
    have hopen := (cutAt?_eq_some_iff hmark (b := header ++ '\n' :: body ++ fenceMark ++ rest)).2
      ⟨rfl, h.prose⟩
    have hcut := (cutAt?_eq_some_iff hline (b := body ++ fenceMark ++ rest)).2
      ⟨rfl, hheader.2 h.header⟩
    have hclose := (cutAt?_eq_some_iff hmark (b := rest)).2 ⟨rfl, h.body⟩
    have hwhole : Span.text ⟨prose, header, body⟩ ++ rest =
        prose ++ fenceMark ++ (header ++ '\n' :: body ++ fenceMark ++ rest) := by
      simp [Span.text]
    have hinside : header ++ '\n' :: body ++ fenceMark ++ rest =
        header ++ ['\n'] ++ (body ++ fenceMark ++ rest) := by
      simp
    rw [hwhole, nextSpan?, hopen, hinside]
    simp only [hcut, hclose, Option.bind_eq_bind, Option.bind_some]

theorem nextSpan?_text_append_of_isFirst (h : s.IsFirst) (rest : List Char) :
    nextSpan? (s.text ++ rest) = some (s, rest) :=
  nextSpan?_eq_some_iff.2 ⟨rfl, h⟩

theorem Span.IsSound.isFirst (h : s.IsSound) : s.IsFirst where
  prose := by
    intro hinfix
    have hcount := hinfix.sublist.count_le '`'
    rw [List.count_append, List.count_eq_zero.2 h.prose] at hcount
    exact absurd hcount (by decide)
  header := h.header
  body := by
    obtain ⟨text, hbody, htext⟩ := h.body
    rw [hbody, List.append_assoc, List.singleton_append, infix_append_cons_iff (by decide), not_or]
    exact ⟨htext, by decide⟩

/-- A sound span is the first one of every text that begins with it. -/
theorem nextSpan?_text_append (h : s.IsSound) (rest : List Char) :
    nextSpan? (s.text ++ rest) = some (s, rest) :=
  nextSpan?_text_append_of_isFirst h.isFirst rest

/-- Without a backtick there is no fence. -/
theorem nextSpan?_of_not_mem {rest : List Char} (h : '`' ∉ rest) : nextSpan? rest = none := by
  have hcut : cutAt? fenceMark rest = none := cutAt?_eq_none h _
  rw [nextSpan?, hcut]
  rfl

/-! ## All spans -/

theorem length_lt_of_nextSpan? {text rest : List Char} {s : Span} (h : nextSpan? text = some (s, rest)) :
    rest.length < text.length := by
  rw [eq_text_append_of_nextSpan? h]
  simp only [Span.text, List.length_append, List.length_cons]
  omega

theorem spansWithin_of_le {n m : Nat} {text : List Char} (hn : text.length ≤ n) (hm : text.length ≤ m) :
    spansWithin n text = spansWithin m text := by
  induction n generalizing m text with
  | zero =>
    obtain rfl : text = [] := List.eq_nil_of_length_eq_zero (Nat.le_zero.1 hn)
    cases m <;> rfl
  | succ n ih =>
    cases m with
    | zero =>
      obtain rfl : text = [] := List.eq_nil_of_length_eq_zero (Nat.le_zero.1 hm)
      rfl
    | succ m =>
      rw [spansWithin, spansWithin]
      cases hnext : nextSpan? text with
      | none => rfl
      | some found =>
        obtain ⟨s, rest⟩ := found
        have hlt := length_lt_of_nextSpan? hnext
        exact congrArg (s :: ·) (ih (by omega) (by omega))

theorem spans_of_none {text : List Char} (h : nextSpan? text = none) : spans text = [] := by
  unfold spans
  cases text.length with
  | zero => rfl
  | succ n => rw [spansWithin, h]

theorem spans_of_some {text rest : List Char} {s : Span} (h : nextSpan? text = some (s, rest)) :
    spans text = s :: spans rest := by
  have hlt := length_lt_of_nextSpan? h
  obtain ⟨n, hn⟩ : ∃ n, text.length = n + 1 := ⟨text.length - 1, by omega⟩
  rw [spans, hn, spansWithin, h]
  exact congrArg (s :: ·) (spansWithin_of_le (by omega) (Nat.le_refl _))

/-- Induction along the spans of a text: nothing is cut off, or the first span is and the others are
those of what follows it. -/
theorem spans_induction {motive : List Char → List Span → Prop}
    (stop : ∀ text, nextSpan? text = none → motive text [])
    (next : ∀ text s rest, nextSpan? text = some (s, rest) → motive rest (spans rest) →
      motive text (s :: spans rest)) (text : List Char) : motive text (spans text) := by
  induction hn : text.length using Nat.strong_induction_on generalizing text with
  | _ n ih =>
    cases hnext : nextSpan? text with
    | none =>
      rw [spans_of_none hnext]
      exact stop text hnext
    | some found =>
      obtain ⟨s, rest⟩ := found
      have hlt := length_lt_of_nextSpan? hnext
      rw [spans_of_some hnext]
      exact next text s rest hnext (ih rest.length (by omega) rest rfl)

/-- **Sound spans are read back as they were written**, with prose behind them that holds no backtick. -/
theorem spans_texts_append (h : ∀ s ∈ ss, s.IsSound) {rest : List Char} (hrest : '`' ∉ rest) :
    spans (spanTexts ss ++ rest) = ss := by
  induction ss with
  | nil => exact spans_of_none (nextSpan?_of_not_mem hrest)
  | cons s ss ih =>
    obtain ⟨hs, hss⟩ := List.forall_mem_cons.1 h
    rw [spanTexts, List.flatMap_cons, List.append_assoc,
      spans_of_some (nextSpan?_text_append hs _)]
    exact congrArg (s :: ·) (ih hss)

theorem spans_texts (h : ∀ s ∈ ss, s.IsSound) : spans (spanTexts ss) = ss := by
  have hspans : spans (spanTexts ss ++ []) = ss := spans_texts_append h List.not_mem_nil
  rwa [List.append_nil] at hspans

end Wireframe.Reply
