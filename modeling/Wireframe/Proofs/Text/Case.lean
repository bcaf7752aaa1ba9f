import Wireframe.Proofs.Naming
import Wireframe.Text.Case

/-!
# Characters that have no case

Lower-casing changes letters into other letters. A character that is neither a letter with a lower-case
form nor such a form stays where it is, and none is added.

* `isCaseless` — the code points of such characters.
* `mem_lower_iff` — such a character stands in a lower-cased text exactly when it stands in the text.
-/

set_option autoImplicit false

namespace Wireframe.Text

/-- Code points of the characters that are lower-cased in a way of their own, and of their forms; zero,
which stands for what is no character, is among them. -/
def specialForms : List Nat := [0, 0x69, 0x130, 0x307, 0x3a3, 0x3c2, 0x3c3]

/-- Whether a code point is that of a character without case, which is no lower-case form either. -/
def isCaseless (n : Nat) : Bool :=
  !specialForms.contains n &&
    lowerRuns.all fun (first, last, _, distance) =>
      !(first ≤ n && n ≤ last) && !((first : Int) + distance ≤ n && (n : Int) ≤ last + distance)

variable {c d : Char} {s : List Char}

theorem not_mem_specialForms (h : isCaseless c.toNat = true) : c.toNat ∉ specialForms := by
  rw [isCaseless, Bool.and_eq_true, Bool.not_eq_true', ← Bool.not_eq_true, List.contains_iff_mem] at h
  exact h.1

/-- A character without case lies in no run of letters and in no run of their forms. -/
theorem outside_of_isCaseless (h : isCaseless c.toNat = true) {first last step : Nat} {distance : Int}
    (hrun : (first, last, step, distance) ∈ lowerRuns) :
    ¬(first ≤ c.toNat ∧ c.toNat ≤ last) ∧
      ¬((first : Int) + distance ≤ c.toNat ∧ (c.toNat : Int) ≤ last + distance) := by
  rw [isCaseless, Bool.and_eq_true, List.all_eq_true] at h
  have hoff := h.2 _ hrun
  simp only [Bool.and_eq_true, Bool.not_eq_true', ← Bool.not_eq_true, decide_eq_true_eq] at hoff
  exact hoff

/-- A character that is given by its distance from another is there, unless it is none. -/
theorem toNat_ofNat_or (m : Int) :
    ((Char.ofNat m.toNat).toNat : Int) = m ∨ (Char.ofNat m.toNat).toNat = 0 := by
  by_cases h : m.toNat.isValidChar
  · rw [Char.ofNat, dif_pos h]
    show (m.toNat : Int) = m ∨ m.toNat = 0
    omega
  · rw [Char.ofNat, dif_neg h]
    exact .inr rfl

/-- A character without case is no letter of a run, and not its form either. -/
theorem ne_letter_of_run (h : isCaseless c.toNat = true) {first last step : Nat} {distance : Int}
    (hrun : (first, last, step, distance) ∈ lowerRuns) (hin : first ≤ d.toNat ∧ d.toNat ≤ last) :
    c ≠ d ∧ c ≠ Char.ofNat ((d.toNat : Int) + distance).toNat := by
  obtain ⟨hletter, hform⟩ := outside_of_isCaseless h hrun
  constructor
  · rintro rfl
    exact hletter hin
  · rintro rfl
    rcases toNat_ofNat_or ((d.toNat : Int) + distance) with hn | hn
    · omega
    · exact not_mem_specialForms h (by rw [hn]; decide)

theorem eq_lowerAscii_iff (h : isCaseless c.toNat = true) : c = lowerAscii d ↔ c = d := by
  unfold lowerAscii
  split
  · rename_i hcapital
    simp only [Bool.and_eq_true, decide_eq_true_eq, Naming.char_le_iff, Char.reduceToNat] at hcapital
    have hrun : (0x41, 0x5a, 1, 32) ∈ lowerRuns := List.mem_cons_self
    obtain ⟨hletter, hform⟩ := ne_letter_of_run h hrun hcapital
    exact iff_of_false hform hletter
  · rfl

theorem eq_lowerChar_iff (h : isCaseless c.toNat = true) : c = lowerChar d ↔ c = d := by
  have hne {e : Char} (he : e.toNat ∈ specialForms) : c ≠ e :=
    fun heq => not_mem_specialForms h (heq ▸ he)
  unfold lowerChar
  split
  · exact eq_lowerAscii_iff h
  split
  · rename_i hdotted
    exact iff_of_false (hne (by decide)) (hne (by rw [hdotted]; decide))
  split
  · rename_i hfind
    have hin := List.find?_some hfind
    simp only [Bool.and_eq_true, decide_eq_true_eq] at hin
    obtain ⟨hletter, hform⟩ := ne_letter_of_run h (List.mem_of_find?_eq_some hfind) hin.1
    exact iff_of_false hform hletter
  · rfl

/-- A character without case stands in a lower-cased text exactly when it stands in the text. -/
theorem mem_lowerFrom_iff (h : isCaseless c.toNat = true) (before : List Char) :
    c ∈ lowerFrom before s ↔ c ∈ s := by
  have hne {e : Char} (he : e.toNat ∈ specialForms) : c ≠ e :=
    fun heq => not_mem_specialForms h (heq ▸ he)
  induction s generalizing before with
  | nil => rfl
  | cons d rest ih =>
    simp only [lowerFrom, List.mem_append, ih, List.mem_cons]
    refine or_congr_left ?_
    split
    · rename_i hsigma
      refine iff_of_false ?_ (hne (by rw [hsigma]; decide))
      rw [List.mem_singleton]
      split
      · exact hne (by decide)
      · exact hne (by decide)
    split
    · rename_i hdotted
      refine iff_of_false ?_ (hne (by rw [hdotted]; decide))
      simp only [List.mem_cons, List.not_mem_nil, or_false]
      exact not_or.2 ⟨hne (by decide), hne (by decide)⟩
    · rw [List.mem_singleton, eq_lowerChar_iff h]

theorem mem_lower_iff (h : isCaseless c.toNat = true) : c ∈ lower s ↔ c ∈ s := mem_lowerFrom_iff h []

end Wireframe.Text
