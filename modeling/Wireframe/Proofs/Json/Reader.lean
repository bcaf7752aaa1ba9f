import Wireframe.Json.Reader

/-!
# Numbers that are too long

A text that begins with a whole number of more than `maxDigits` digits is given up at the number,
whatever stands behind it.

* `read_of_digits` — reading such a text.
-/

set_option autoImplicit false

namespace Wireframe.Json

/-- A text in which no number goes on that stands in front of it. -/
structure EndsNumber (rest : List Char) : Prop where
  digit : ∀ c t, rest = c :: t → c.isDigit = false
  fraction : fraction? rest = none
  exponent : exponent? rest = none

variable {c : Char} {digits rest : List Char}

theorem EndsNumber.takeWhile_append (h : EndsNumber rest) (hdigits : ∀ d ∈ digits, d.isDigit = true) :
    (digits ++ rest).takeWhile Char.isDigit = digits ∧
      (digits ++ rest).dropWhile Char.isDigit = rest := by
  rw [List.takeWhile_append_of_pos hdigits, List.dropWhile_append_of_pos hdigits]
  cases rest with
  | nil => exact ⟨List.append_nil digits, rfl⟩
  | cons c t =>
    have hc := h.digit c t rfl
    simp only [List.takeWhile_cons, List.dropWhile_cons, hc, Bool.false_eq_true, if_false,
      List.append_nil, and_self]

/-- A character that is a digit is none of those that other values begin with. -/
theorem ne_of_isDigit (h : c.isDigit = true) {d : Char} (hd : d.isDigit = false) : c ≠ d := by
  rintro rfl
  rw [h] at hd
  cases hd

theorem wholeDigits_append (hzero : c ≠ '0') (hall : ∀ d ∈ c :: digits, d.isDigit = true)
    (hrest : EndsNumber rest) : wholeDigits (c :: digits ++ rest) = (c :: digits, rest) := by
  obtain ⟨htake, hdrop⟩ := hrest.takeWhile_append hall
  unfold wholeDigits
  split
  · rename_i heq
    exact absurd (List.cons.inj heq).1 hzero
  · rw [htake, hdrop]

theorem number_of_digits (hzero : c ≠ '0') (hall : ∀ d ∈ c :: digits, d.isDigit = true)
    (hrest : EndsNumber rest) (hmany : maxDigits < (c :: digits).length) :
    number (c :: digits ++ rest) = .error (.excess (.digits (c :: digits).length)) := by
  have hminus := ne_of_isDigit (hall c List.mem_cons_self) (d := '-') (by decide)
  have hwhole := wholeDigits_append hzero hall hrest
  unfold number
  split
  rename_i negative body heq
  split at heq
  · rename_i heq'
    exact absurd (List.cons.inj heq').1 hminus
  · cases heq
    simp only [hwhole, hrest.fraction, hrest.exponent, hmany, if_true]

/-- No word of JSON begins with a digit. -/
theorem literal?_of_isDigit (hc : c.isDigit = true) (s : List Char) : literal? (c :: s) = none := by
  unfold literal?
  rw [List.findSome?_eq_none_iff]
  intro word hword
  obtain ⟨a, t, hcons, ha⟩ : ∃ a t, word.1 = a :: t ∧ a.isDigit = false := by
    simp only [literals, List.mem_cons, List.not_mem_nil, or_false] at hword
    rcases hword with rfl | rfl | rfl | rfl | rfl | rfl <;> exact ⟨_, _, rfl, by decide⟩
  simp only [hcons, Text.dropLead?, if_neg (ne_of_isDigit hc ha).symm, Option.map_none]

/-- A value that begins with a digit is a number. -/
theorem value_of_isDigit (hc : c.isDigit = true) (s : List Char) (fuel depth : Nat) :
    value (fuel + 1) depth (c :: s) = number (c :: s) := by
  have hquote := ne_of_isDigit hc (d := '"') (by decide)
  have hbrace := ne_of_isDigit hc (d := '\x7b') (by decide)
  have hbracket := ne_of_isDigit hc (d := '[') (by decide)
  unfold value
  split
  · rename_i heq
    cases heq
  · rename_i heq
    exact absurd (List.cons.inj heq).1 hquote
  · rename_i heq
    exact absurd (List.cons.inj heq).1 hbrace
  · rename_i heq
    exact absurd (List.cons.inj heq).1 hbrace
  · rename_i heq
    exact absurd (List.cons.inj heq).1 hbracket
  · rename_i heq
    exact absurd (List.cons.inj heq).1 hbracket
  · rw [literal?_of_isDigit hc]

/-- **An integer of too many digits at the start of a text keeps it from being read.** -/
theorem read_of_digits (hzero : c ≠ '0') (hall : ∀ d ∈ c :: digits, d.isDigit = true)
    (hrest : EndsNumber rest) (hmany : maxDigits < (c :: digits).length) :
    read (c :: digits ++ rest) = .error (.excess (.digits (c :: digits).length)) := by
  have hc := hall c List.mem_cons_self
  have hgap : skipGap (c :: digits ++ rest) = c :: digits ++ rest := by
    have hnone : isGap c = false := by
      have hspace (d : Char) (hd : d.isDigit = false) : (c == d) = false :=
        beq_false_of_ne (ne_of_isDigit hc hd)
      simp only [isGap, hspace ' ' (by decide), hspace '\t' (by decide), hspace '\n' (by decide),
        hspace '\r' (by decide), Bool.or_false]
    rw [skipGap, List.cons_append, List.dropWhile_cons, hnone]
    rfl
  have hwhole : readWhole (c :: digits ++ rest) = .error (.excess (.digits (c :: digits).length)) := by
    unfold readWhole
    split
    · rename_i heq
      exact absurd (List.cons.inj heq).1 (ne_of_isDigit hc (by decide))
    · rw [hgap, List.cons_append, value_of_isDigit hc, ← List.cons_append,
        number_of_digits hzero hall hrest hmany]
      rfl
  rw [read, hwhole]

end Wireframe.Json
