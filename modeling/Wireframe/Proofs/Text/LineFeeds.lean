import Wireframe.Proofs.Text.Lines

/-!
# Line feeds in place of line boundaries

A text that is cut into lines and joined again has a line feed wherever it had a boundary, and is
otherwise the text that it was.

* `withLineFeeds` — a text with a line feed for every boundary.
* `withLineFeeds_eq_self_iff` — it is the text itself exactly when no other boundary stands in it.
* `trim_withLineFeeds` — white space at the ends may be trimmed before or after.
* `trim_joinLines_lines` — lines that are joined again, trimmed.
* `exists_lines_eq_cons` — the first line of a text, and the lines of what stands behind it.
-/

set_option autoImplicit false

namespace Wireframe.Text

variable {c : Char} {s t : List Char}

/-- A text with a line feed for every line boundary. -/
def withLineFeeds : List Char → List Char
  | [] => []
  | '\r' :: '\n' :: rest => '\n' :: withLineFeeds rest
  | c :: rest => (if isLineEnd c then '\n' else c) :: withLineFeeds rest

/-- Whether a text knows no line boundary but the line feed. -/
def HasOnlyLineFeeds (s : List Char) : Prop := ∀ c ∈ s, isLineEnd c = true → c = '\n'

instance (s : List Char) : Decidable (HasOnlyLineFeeds s) :=
  List.decidableBAll (fun c => isLineEnd c = true → c = '\n') s

theorem withLineFeeds_cons (h : ∀ t, c = '\r' → s ≠ '\n' :: t) :
    withLineFeeds (c :: s) = (if isLineEnd c then '\n' else c) :: withLineFeeds s := by
  rw [withLineFeeds]
  intro t hc
  exact h t hc

/-- Nothing is replaced exactly when every boundary is a line feed. -/
theorem withLineFeeds_eq_self_iff (s : List Char) : withLineFeeds s = s ↔ HasOnlyLineFeeds s := by
  unfold HasOnlyLineFeeds
  fun_induction withLineFeeds s with
  | case1 => simp
  | case2 rest ih =>
    apply iff_of_false
    · intro h
      exact absurd (List.cons.inj h).1 (by decide)
    · intro h
      exact absurd (h '\r' List.mem_cons_self (by decide)) (by decide)
  | case3 c rest _ ih =>
    rw [List.cons.injEq, ih, List.forall_mem_cons]
    apply and_congr_left
    intro _
    cases isLineEnd c <;> simp [eq_comm]

/-- A beginning that knows no other boundary stays as it is. -/
theorem withLineFeeds_append {a : List Char} (h : HasOnlyLineFeeds a) (s : List Char) :
    withLineFeeds (a ++ s) = a ++ withLineFeeds s := by
  induction a with
  | nil => rfl
  | cons c a ih =>
    obtain ⟨hc, ha⟩ := List.forall_mem_cons.1 h
    have hreturn : c ≠ '\r' := by
      rintro rfl
      exact absurd (hc (by decide)) (by decide)
    have hkept : (if isLineEnd c then '\n' else c) = c := by
      split
      · rename_i hend
        exact (hc hend).symm
      · rfl
    rw [List.cons_append, withLineFeeds_cons fun _ hr => absurd hr hreturn, hkept, ih ha,
      List.cons_append]

/-! ## White space at the ends -/

theorem trimStart_trimStart (s : List Char) : trimStart (trimStart s) = trimStart s := by
  rcases trimStart_eq_nil_or s with h | ⟨c, t, h, hc⟩
  · rw [h]
    rfl
  · rw [h, trimStart_cons hc]

theorem trim_trim (s : List Char) : trim (trim s) = trim s := by
  unfold trim
  rw [trimStart_trimEnd, trimEnd_trimEnd, trimStart_trimStart]

/-- Trimming cuts something off at the ends. -/
theorem trim_isInfix (s : List Char) : trim s <:+: s := by
  have hend : trimEnd (trimStart s) <+: trimStart s := by
    obtain ⟨blanks, h⟩ := exists_eq_trimEnd_append (trimStart s)
    exact ⟨blanks, h.symm⟩
  have hstart : trimStart s <:+ s := List.dropWhile_suffix isBlank
  exact hend.isInfix.trans hstart.isInfix

theorem trimStart_cons_of_isBlank (h : isBlank c = true) (s : List Char) :
    trimStart (c :: s) = trimStart s := List.dropWhile_cons_of_pos h

theorem trimEnd_cons_of_eq_nil (h : trimEnd s = []) (c : Char) : trimEnd (c :: s) = trimEnd [c] := by
  have happend := trimEnd_append [c] s
  rwa [if_pos h] at happend

theorem trimEnd_cons_of_ne_nil (h : trimEnd s ≠ []) (c : Char) :
    trimEnd (c :: s) = c :: trimEnd s := by
  have happend := trimEnd_append [c] s
  rwa [if_neg h] at happend

theorem trimEnd_singleton_of_isBlank (h : isBlank c = true) : trimEnd [c] = [] :=
  trimEnd_append_blank h []

theorem isBlank_of_isLineEnd (h : isLineEnd c = true) : isBlank c = true := by
  cases hblank : isBlank c with
  | true => rfl
  | false =>
    rw [isLineEnd_of_not_isBlank hblank] at h
    cases h

/-- What stands for a character is white space exactly when the character is. -/
theorem isBlank_lineFeed_or (c : Char) : isBlank (if isLineEnd c then '\n' else c) = isBlank c := by
  split
  · rename_i hend
    rw [isBlank_of_isLineEnd hend]
    decide
  · rfl

theorem trimStart_withLineFeeds (s : List Char) :
    trimStart (withLineFeeds s) = withLineFeeds (trimStart s) := by
  fun_induction withLineFeeds s with
  | case1 => rfl
  | case2 rest ih =>
    have hfeed : isBlank '\n' = true := by decide
    have hreturn : isBlank '\r' = true := by decide
    rw [trimStart_cons_of_isBlank hfeed, ih, trimStart_cons_of_isBlank hreturn,
      trimStart_cons_of_isBlank hfeed]
  | case3 c rest hpair ih =>
    have hsame := isBlank_lineFeed_or c
    cases hblank : isBlank c with
    | true =>
      rw [trimStart_cons_of_isBlank (hsame.trans hblank), ih, trimStart_cons_of_isBlank hblank]
    | false =>
      rw [trimStart_cons (hsame.trans hblank), trimStart_cons hblank, withLineFeeds_cons]
      intro t hc
      exact hpair t hc

theorem withLineFeeds_ne_nil (h : s ≠ []) : withLineFeeds s ≠ [] := by
  fun_cases withLineFeeds s with
  | case1 => exact absurd rfl h
  | case2 rest => exact List.cons_ne_nil _ _
  | case3 c rest _ => exact List.cons_ne_nil _ _

theorem trimEnd_withLineFeeds (s : List Char) :
    trimEnd (withLineFeeds s) = withLineFeeds (trimEnd s) := by
  fun_induction withLineFeeds s with
  | case1 => rfl
  | case2 rest ih =>
    by_cases hrest : trimEnd rest = []
    · have hfeed : trimEnd ('\n' :: rest) = [] := by
        rw [trimEnd_cons_of_eq_nil hrest]
        exact trimEnd_singleton_of_isBlank (by decide)
      rw [hrest] at ih
      rw [trimEnd_cons_of_eq_nil ih, trimEnd_cons_of_eq_nil hfeed]
      rfl
    · have hfeed : trimEnd ('\n' :: rest) = '\n' :: trimEnd rest := trimEnd_cons_of_ne_nil hrest _
      have hne : trimEnd (withLineFeeds rest) ≠ [] := by
        rw [ih]
        exact withLineFeeds_ne_nil hrest
      rw [trimEnd_cons_of_ne_nil hne, ih, trimEnd_cons_of_ne_nil (by simp [hfeed]), hfeed]
      rfl
  | case3 c rest hpair ih =>
    have hsame := isBlank_lineFeed_or c
    by_cases hrest : trimEnd rest = []
    · rw [hrest] at ih
      rw [trimEnd_cons_of_eq_nil ih, trimEnd_cons_of_eq_nil hrest]
      cases hblank : isBlank c with
      | true =>
        rw [trimEnd_singleton_of_isBlank hblank, trimEnd_singleton_of_isBlank (hsame.trans hblank)]
        rfl
      | false =>
        have hkept : trimEnd [c] = [c] := trimEnd_concat hblank []
        rw [hkept, withLineFeeds_cons fun _ _ => (List.cons_ne_nil _ _).symm]
        exact trimEnd_concat (hsame.trans hblank) []
    · have hne : trimEnd (withLineFeeds rest) ≠ [] := by
        rw [ih]
        exact withLineFeeds_ne_nil hrest
      rw [trimEnd_cons_of_ne_nil hne, ih, trimEnd_cons_of_ne_nil hrest, withLineFeeds_cons]
      intro t hc hstart
      obtain ⟨blanks, hblanks⟩ := exists_eq_trimEnd_append rest
      rw [hstart] at hblanks
      exact hpair _ hc hblanks

/-- White space at the ends may be trimmed first. -/
theorem trim_withLineFeeds (s : List Char) : trim (withLineFeeds s) = withLineFeeds (trim s) := by
  rw [trim, trimStart_withLineFeeds, trimEnd_withLineFeeds, trim]

/-! ## Lines that are joined again -/

theorem trimEnd_cons_congr (h : trimEnd s = trimEnd t) (c : Char) :
    trimEnd (c :: s) = trimEnd (c :: t) := by
  by_cases hs : trimEnd s = []
  · rw [trimEnd_cons_of_eq_nil hs, trimEnd_cons_of_eq_nil (h.symm.trans hs)]
  · rw [trimEnd_cons_of_ne_nil hs, trimEnd_cons_of_ne_nil (by rwa [← h]), h]

/-- A boundary at the end of a text is all that is lost. -/
theorem trimEnd_joinLines_lines (s : List Char) :
    trimEnd (joinLines (lines s)) = trimEnd (withLineFeeds s) := by
  have hboundary (rest : List Char)
      (ih : trimEnd (joinLines (lines rest)) = trimEnd (withLineFeeds rest)) :
      trimEnd (joinLines ([] :: lines rest)) = trimEnd ('\n' :: withLineFeeds rest) := by
    rw [joinLines_nil_cons_lines]
    split
    · subst_vars
      exact (trimEnd_singleton_of_isBlank (by decide)).symm
    · exact trimEnd_cons_congr ih '\n'
  fun_induction lines s with
  | case1 => rfl
  | case2 rest ih => exact hboundary rest ih
  | case3 c rest hpair hend ih =>
    rw [withLineFeeds_cons hpair, if_pos hend]
    exact hboundary rest ih
  | case4 c rest hpair hend ih =>
    rw [withLineFeeds_cons hpair, if_neg hend, joinLines_consLine]
    exact trimEnd_cons_congr ih c

/-- The lines of a text one below the other are the text with line feeds, up to white space at its
ends. -/
theorem trim_joinLines_lines (s : List Char) :
    trim (joinLines (lines s)) = withLineFeeds (trim s) := by
  rw [← trim_trimEnd, trimEnd_joinLines_lines, trim_trimEnd, trim_withLineFeeds]

/-! ## The first line -/

def topLine (s : List Char) : List Char := s.takeWhile fun c => !isLineEnd c

/-- What stands behind the first line of a text, from its boundary on. -/
def belowTopLine (s : List Char) : List Char := s.dropWhile fun c => !isLineEnd c

theorem trim_cons_of_isLineEnd (h : isLineEnd c = true) (s : List Char) : trim (c :: s) = trim s := by
  rw [trim, trimStart_cons_of_isBlank (isBlank_of_isLineEnd h), trim]

/-- The lines of a text are its first line and the lines of what stands behind it, where the boundary
between the two is white space. -/
theorem exists_lines_eq_cons (h : s ≠ []) :
    ∃ rest, lines s = topLine s :: lines rest ∧ trim rest = trim (belowTopLine s) := by
  fun_induction lines s with
  | case1 => exact absurd rfl h
  | case2 rest ih =>
    refine ⟨rest, rfl, ?_⟩
    have hbehind : belowTopLine ('\r' :: '\n' :: rest) = '\r' :: '\n' :: rest := rfl
    rw [hbehind, trim_cons_of_isLineEnd (by decide), trim_cons_of_isLineEnd (by decide)]
  | case3 c rest _ hend ih =>
    refine ⟨rest, ?_, ?_⟩
    · rw [topLine, List.takeWhile_cons_of_neg (by simp [hend])]
    · rw [belowTopLine, List.dropWhile_cons_of_neg (by simp [hend]), trim_cons_of_isLineEnd hend]
  | case4 c rest _ hend ih =>
    have hfirst : topLine (c :: rest) = c :: topLine rest :=
      List.takeWhile_cons_of_pos (by simpa using hend)
    have hbehind : belowTopLine (c :: rest) = belowTopLine rest :=
      List.dropWhile_cons_of_pos (by simpa using hend)
    rw [hfirst, hbehind]
    by_cases hnil : rest = []
    · subst hnil
      exact ⟨[], rfl, rfl⟩
    · obtain ⟨more, hlines, htrim⟩ := ih hnil
      exact ⟨more, by rw [hlines]; rfl, htrim⟩

end Wireframe.Text
