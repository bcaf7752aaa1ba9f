import Wireframe.Proofs.Reply.Assignment
import Wireframe.Proofs.Reply.Blocks
import Wireframe.Proofs.Reply.Repair

/-!
# Contents that have no encoding

The size of a file is that of its encoding, and a torn content has none. Whether a content is torn can be
seen in its block, since what is done to it there neither tears nor mends it.

* `Text.isTorn_trim`, `Text.isTorn_joinLines_lines`, `isTorn_repaired` — the steps from a block to a
  content.
* `isTorn_extractFiles` — from a whole reply come whole files.
* `staysInFence` — whether a text comes out of a fence as it was put in.
-/

set_option autoImplicit false

namespace Wireframe

namespace Text

/-! ## White space -/

theorem isHalf_of_isBlank {c : Char} (h : isBlank c = true) : isHalf c = false := by
  simp only [isBlank, inRanges, blankRanges, List.any_cons, List.any_nil, Bool.or_eq_true,
    Bool.and_eq_true, decide_eq_true_eq, Bool.false_eq_true, or_false] at h
  simp only [isHalf, Bool.and_eq_false_iff, decide_eq_false_iff_not]
  omega

theorem isTorn_of_blank {s : List Char} (h : ∀ c ∈ s, isBlank c = true) : isTorn s = false :=
  isTorn_eq_false_iff.2 fun c hc => isHalf_of_isBlank (h c hc)

theorem isTorn_of_isInfix {s t : List Char} (h : s <:+: t) (ht : isTorn t = false) : isTorn s = false := by
  rw [isTorn_eq_false_iff] at ht ⊢
  exact fun c hc => ht c (h.subset hc)

theorem isTorn_reverse (s : List Char) : isTorn s.reverse = isTorn s := List.any_reverse

theorem isTorn_trimStart (s : List Char) : isTorn (trimStart s) = isTorn s := by
  have hblank : isTorn (s.takeWhile isBlank) = false :=
    isTorn_of_blank fun c hc => List.mem_takeWhile_imp hc
  have hsplit : s.takeWhile isBlank ++ trimStart s = s := List.takeWhile_append_dropWhile
  have htorn := isTorn_append (s.takeWhile isBlank) (trimStart s)
  rwa [hsplit, hblank, Bool.false_or, eq_comm] at htorn

theorem isTorn_trimEnd (s : List Char) : isTorn (trimEnd s) = isTorn s := by
  show isTorn (trimStart s.reverse).reverse = isTorn s
  rw [isTorn_reverse, isTorn_trimStart, isTorn_reverse]

theorem isTorn_trim (s : List Char) : isTorn (trim s) = isTorn s :=
  (isTorn_trimEnd _).trans (isTorn_trimStart s)

/-! ## Lines -/

theorem isHalf_of_isLineEnd {c : Char} (h : isLineEnd c = true) : isHalf c = false := by
  by_contra hhalf
  have hnot : isBlank c ≠ true := fun hblank => hhalf (isHalf_of_isBlank hblank)
  rw [isLineEnd_of_not_isBlank (Bool.eq_false_iff.2 hnot)] at h
  cases h

theorem any_isTorn_consLine (c : Char) (ls : List (List Char)) :
    (consLine c ls).any isTorn = (isHalf c || ls.any isTorn) := by
  cases ls <;> simp [consLine, isTorn, Bool.or_assoc]

theorem any_isTorn_lines (s : List Char) : (lines s).any isTorn = isTorn s := by
  fun_induction lines s with
  | case1 => rfl
  | case2 rest ih => exact ih
  | case3 c rest hpair hend ih =>
    have hcons : isTorn (c :: rest) = (isHalf c || isTorn rest) := rfl
    rw [hcons, isHalf_of_isLineEnd hend, Bool.false_or, ← ih]
    rfl
  | case4 c rest hpair hend ih =>
    rw [any_isTorn_consLine, ih]
    rfl

theorem isTorn_joinLines (ls : List (List Char)) : isTorn (joinLines ls) = ls.any isTorn := by
  induction ls with
  | nil => rfl
  | cons l ls ih =>
    by_cases h : ls = []
    · subst h
      rw [joinLines_singleton, List.any_cons, List.any_nil, Bool.or_false]
    · have hfeed : isTorn ('\n' :: joinLines ls) = isTorn (joinLines ls) := rfl
      rw [joinLines_cons l h, isTorn_append, hfeed, ih, List.any_cons]

theorem isTorn_joinLines_lines (s : List Char) : isTorn (joinLines (lines s)) = isTorn s := by
  rw [isTorn_joinLines, any_isTorn_lines]

/-- Half of a surrogate pair on its own. -/
def halfText : String := String.ofList [charOfCode 0xd800]

end Text

namespace Reply

open Text

variable {base s : List Char} {reply : List Char} {minLength : Int}

/-! ## Repairs -/

theorem isHalf_of_isQuote {c : Char} (h : isQuote c = true) : isHalf c = false := by
  rcases eq_of_isQuote h with rfl | rfl | rfl <;> decide

theorem isTorn_between {a b : List Char} (ha : isTorn a = false) (hb : isTorn b = false)
    (s : List Char) : isTorn (a ++ s ++ b) = isTorn s := by
  rw [isTorn_append, isTorn_append, ha, hb, Bool.false_or, Bool.or_false]

theorem SingularStyle.isTorn_text (p : SingularStyle) : isTorn p.text = isTorn p.value := by
  have hopening : isTorn (styleMark ++ p.gap ++ [p.opening]) = false := by
    have hmark : isTorn styleMark = false := by decide
    rw [isTorn_append, isTorn_append, hmark, isTorn_of_blank p.blank]
    simp [isTorn, isHalf_of_isQuote p.opens]
  have hclosing : isTorn [p.closing] = false := by simp [isTorn, isHalf_of_isQuote p.closes]
  have htext : p.text = styleMark ++ p.gap ++ [p.opening] ++ p.value ++ [p.closing] := by
    simp [SingularStyle.text]
  rw [htext, isTorn_between hopening hclosing]

theorem isTorn_styleList (value : List Char) : isTorn (styleList value) = isTorn value :=
  isTorn_between (by decide) (by decide) value

theorem isTorn_repairWithin (n : Nat) (s : List Char) : isTorn (repairWithin n s) = isTorn s := by
  induction n generalizing s with
  | zero => rw [repairWithin]
  | succ n ih =>
    cases s with
    | nil => rfl
    | cons c rest =>
      rw [repairWithin]
      cases h : styleValue? (c :: rest) with
      | none => exact congrArg (isHalf c || ·) (ih rest)
      | some found =>
        obtain ⟨value, after⟩ := found
        obtain ⟨p, hs, rfl⟩ := styleValue?_eq_some_iff.1 h
        dsimp only
        rw [hs, isTorn_append, isTorn_append, isTorn_styleList, p.isTorn_text, ih]

/-- Repairing a class leaves all its halves. -/
theorem isTorn_repaired (k : FileKind) (text : List Char) : isTorn (repaired k text) = isTorn text := by
  cases k with
  | typescript => exact isTorn_repairWithin _ text
  | html => rfl
  | scss => rfl

/-- The content of a block of source code is torn where the code is. -/
theorem isTorn_contentOf_of_isCode (h : IsCode s) (k : FileKind) :
    isTorn (contentOf k (s ++ ['\n'])) = isTorn s := by
  rw [contentOf_of_isCode h, isTorn_repaired, isTorn_joinLines_lines]

/-! ## Whole replies -/

theorem isTorn_withoutNameComment {body : List Char} (h : isTorn body = false) :
    isTorn (withoutNameComment body) = false := by
  rw [← isTorn_trim, ← any_isTorn_lines] at h
  simp only [withoutNameComment, isTorn_trim, isTorn_joinLines]
  cases hlines : lines (trim body) with
  | nil => rfl
  | cons first rest =>
    rw [hlines, List.any_cons, Bool.or_eq_false_iff] at h
    dsimp only
    split
    · exact h.2
    · rw [List.any_cons, h.1, h.2, Bool.or_false]

/-- The files of a whole reply are whole. -/
theorem isTorn_extractFiles (h : isTorn reply = false) (base : List Char) (minLength : Int) :
    (extractFiles reply base minLength).isTorn = false := by
  rw [isTorn_extractFiles_iff]
  intro k b hb
  have hbody : b.body <:+: reply := body_infix_of_mem_blocks (mem_blocks_of_blockFor? hb)
  rw [contentOf_eq_repaired, isTorn_repaired]
  exact isTorn_withoutNameComment (isTorn_of_isInfix hbody h)

/-! ## Texts that a fence keeps -/

/-- Whether no fence mark stands in a text and its lines end in line feeds only. -/
def staysInFence (s : List Char) : Bool :=
  !occursIn fenceMark s && s.all fun c => !isLineEnd c || c == '\n'

theorem staysInFence_iff :
    staysInFence s = true ↔ ¬fenceMark <:+: s ∧ ∀ c ∈ s, isLineEnd c = true → c = '\n' := by
  rw [staysInFence, Bool.and_eq_true, Bool.not_eq_true', ← Bool.not_eq_true, occursIn_iff,
    List.all_eq_true]
  refine and_congr_right fun _ => forall₂_congr fun c _ => ?_
  cases isLineEnd c <;> simp

end Reply

end Wireframe
