import Wireframe.Number.Binary64

/-!
# The integer part of a double

Comparisons with zero and one, and the integer part, read off the quotient that a finite double is.

* `toRatio?_eq_none_iff` — only not-a-number and the infinities are no quotient.
* `trunc_pos_iff` — a positive double has a positive integer part exactly when it is at least one.
-/

set_option autoImplicit false

namespace Wireframe.Binary64

theorem ratio_den_pos (m : Nat) (e : Int) : 0 < (ratio m e).2 := by
  unfold ratio
  split
  · exact Nat.pow_pos (by decide)
  · exact Nat.one_pos

theorem toRatio?_den_pos {x : Binary64} {n : Int} {d : Nat} (h : x.toRatio? = some (n, d)) :
    0 < d := by
  cases x with
  | nan => cases h
  | infinity s => cases h
  | finite s m e =>
    have hd : (ratio m e).2 = d := (Prod.mk.inj (Option.some.inj h)).2
    rw [← hd]
    exact ratio_den_pos m e

theorem toRatio?_eq_none_iff {x : Binary64} : x.toRatio? = none ↔ x.isFinite = false := by
  cases x <;> simp [toRatio?, isFinite]

/-- The order of finite doubles is that of the quotients, multiplied crosswise. -/
theorem lt_of_toRatio? {x y : Binary64} {n k : Int} {d b : Nat} (hx : x.toRatio? = some (n, d))
    (hy : y.toRatio? = some (k, b)) : x.lt y = decide (n * b < k * d) := by
  cases x with
  | nan => cases hx
  | infinity s => cases hx
  | finite s m e =>
    cases y with
    | nan => cases hy
    | infinity t => cases hy
    | finite t m' e' =>
      obtain ⟨hn, hd⟩ := Prod.mk.inj (Option.some.inj hx)
      obtain ⟨hk, hb⟩ := Prod.mk.inj (Option.some.inj hy)
      subst hn hd hk hb
      rfl

theorem lt_one_iff {x : Binary64} {n : Int} {d : Nat} (h : x.toRatio? = some (n, d)) :
    x.lt (ofInt 1) = true ↔ n < d := by
  have hone : (ofInt 1).toRatio? = some (2 ^ 52, 2 ^ 52) := by decide
  rw [lt_of_toRatio? h hone, decide_eq_true_eq, Int.mul_comm n]
  exact Int.mul_lt_mul_left (by decide)

/-- A significand of zero is the quotient zero at every exponent. -/
theorem toRatio?_significand_zero (e : Int) : ∃ b, (finite false 0 e).toRatio? = some (0, b) := by
  have h : (ratio 0 e).1 = 0 := by
    unfold ratio
    split
    · rfl
    · exact Nat.zero_mul _
  exact ⟨(ratio 0 e).2, by simp [toRatio?, h]⟩

theorem zero_lt_iff {x : Binary64} {n : Int} {d : Nat} (h : x.toRatio? = some (n, d)) :
    (zero false).lt x = true ↔ 0 < n := by
  obtain ⟨b, hzero⟩ := toRatio?_significand_zero minExponent
  have hpos : (0 : Int) < b := by exact_mod_cast toRatio?_den_pos hzero
  unfold zero
  rw [lt_of_toRatio? hzero h, decide_eq_true_eq, Int.zero_mul]
  constructor
  · intro hlt
    exact Int.pos_of_mul_pos_left hlt hpos
  · intro hn
    exact Int.mul_pos hn hpos

theorem trunc_pos_iff {x : Binary64} {n : Int} {d : Nat} (h : x.toRatio? = some (n, d))
    (hn : 0 < n) : 0 < Int.tdiv n d ↔ (d : Int) ≤ n := by
  have hd : (0 : Int) < d := by exact_mod_cast toRatio?_den_pos h
  rw [Int.tdiv_eq_ediv_of_nonneg (Int.le_of_lt hn)]
  constructor
  · intro hpos
    have := Int.mul_le_of_le_ediv hd (show (1 : Int) ≤ n / d by omega)
    omega
  · intro hle
    have := Int.le_ediv_of_mul_le hd (show 1 * (d : Int) ≤ n by omega)
    omega

end Wireframe.Binary64
