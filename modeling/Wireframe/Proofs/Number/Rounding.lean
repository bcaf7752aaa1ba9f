import Mathlib.Tactic.GCongr
import Mathlib.Tactic.Positivity
import Mathlib.Tactic.Ring
import Wireframe.Proofs.Number.Truncation

/-!
# How far rounding leads

A quotient is scaled until its whole part has 53 binary digits, and is rounded there. So it is known
which quotients round to an infinity, and no rounding leads across a power of two.

* `naturalExponent_spec` — the exponent at which the whole part of a quotient has 53 binary digits.
* `isFinite_ofRatio_iff` — a quotient rounds to a finite double exactly when it is below the limit.
* `ofRatio_atMost` — what is at most a power of two is rounded to a double that is so too.
-/

set_option autoImplicit false

namespace Wireframe.Binary64

/-! ## Rounding to whole numbers -/

section RoundDiv

variable {n d k : Nat} (hd : 0 < d)

include hd

/-- Rounding leads at most to the next whole number, and to none when there is nothing to round. -/
theorem roundDiv_le (h : n ≤ d * k) : roundDiv n d ≤ k := by
  have hdiv := Nat.div_add_mod n d
  rcases Nat.lt_or_eq_of_le (Nat.div_le_of_le_mul h) with hlt | heq
  · unfold roundDiv
    dsimp only
    split_ifs <;> omega
  · have hrest : n % d = 0 := by
      rw [heq] at hdiv
      omega
    unfold roundDiv
    rw [hrest, heq]
    exact (if_pos hd).le

/-- An even number is reached from half a step below it, for the tie goes to it. -/
theorem le_roundDiv_iff (hk : k % 2 = 0) (hpos : 0 < k) :
    k ≤ roundDiv n d ↔ d * (2 * k - 1) ≤ 2 * n := by
  have hdiv := Nat.div_add_mod n d
  have hmod := Nat.mod_lt n hd
  rcases Nat.lt_trichotomy (n / d + 1) k with hlt | heq | hgt
  · have hfar : d * (2 * (n / d) + 3) ≤ d * (2 * k - 1) := Nat.mul_le_mul_left d (by omega)
    rw [Nat.mul_add, Nat.mul_left_comm] at hfar
    refine iff_of_false ?_ (by omega)
    unfold roundDiv
    dsimp only
    split_ifs <;> omega
  · have hhalf : d * (2 * k - 1) = 2 * (d * (n / d)) + d := by
      rw [show 2 * k - 1 = 2 * (n / d) + 1 by omega, Nat.mul_add, Nat.mul_left_comm, Nat.mul_one]
    rw [hhalf]
    unfold roundDiv
    dsimp only
    split_ifs <;> omega
  · have hnear : d * k ≤ d * (n / d) := Nat.mul_le_mul_left d (by omega)
    have hbelow : d * (2 * k - 1) ≤ 2 * (d * k) := by
      rw [Nat.mul_left_comm]
      exact Nat.mul_le_mul_left d (by omega)
    refine iff_of_true ?_ (by omega)
    unfold roundDiv
    dsimp only
    split_ifs <;> omega

end RoundDiv

/-! ## The exponent of a quotient -/

theorem scaled_of_neg {e : Int} (h : e < 0) (num den : Nat) :
    scaled num den e = (num * 2 ^ e.natAbs, den) := if_pos h

theorem scaled_of_nonneg {e : Int} (h : 0 ≤ e) (num den : Nat) :
    scaled num den e = (num, den * 2 ^ e.natAbs) := if_neg (Int.not_lt.2 h)

/-- One exponent less doubles the scaled quotient. -/
theorem scaled_pred (num den : Nat) (e : Int) :
    (scaled num den (e - 1)).1 = 2 * (scaled num den e).1 ∧
        (scaled num den (e - 1)).2 = (scaled num den e).2 ∨
      (scaled num den (e - 1)).1 = (scaled num den e).1 ∧
        2 * (scaled num den (e - 1)).2 = (scaled num den e).2 := by
  rcases Int.lt_trichotomy e 0 with hneg | rfl | hpos
  · left
    rw [scaled_of_neg hneg, scaled_of_neg (by omega), show (e - 1).natAbs = e.natAbs + 1 by omega]
    exact ⟨by rw [pow_succ]; ring, rfl⟩
  · left
    exact ⟨Nat.mul_comm num 2, (Nat.mul_one den).symm⟩
  · right
    rw [scaled_of_nonneg (by omega), scaled_of_nonneg (by omega),
      show e.natAbs = (e - 1).natAbs + 1 by omega]
    exact ⟨rfl, by rw [pow_succ]; ring⟩

variable {num den : Nat}

/-- By the digits of its two sides a quotient is known up to a factor of four. -/
theorem scaled_guess (hnum : num ≠ 0) (hden : 0 < den) :
    let s := scaled num den ((Nat.log2 num : Int) - (Nat.log2 den : Int) - 52)
    s.2 * 2 ^ 51 < s.1 ∧ s.1 < s.2 * 2 ^ 53 := by
  have hnumLow := Nat.log2_self_le hnum
  have hnumHigh := Nat.lt_log2_self (n := num)
  have hdenLow := Nat.log2_self_le hden.ne'
  have hdenHigh := Nat.lt_log2_self (n := den)
  generalize Nat.log2 num = a at *
  generalize Nat.log2 den = b at *
  intro s
  rcases Int.lt_or_le ((a : Int) - b - 52) 0 with hneg | hnonneg
  · obtain ⟨k, hk, hb⟩ : ∃ k, ((a : Int) - b - 52).natAbs = k ∧ b + 52 = a + k := ⟨_, rfl, by omega⟩
    simp only [s, scaled_of_neg hneg, hk]
    constructor
    · calc den * 2 ^ 51 < 2 ^ (b + 1) * 2 ^ 51 := Nat.mul_lt_mul_of_pos_right hdenHigh (by decide)
        _ = 2 ^ a * 2 ^ k := by rw [← pow_add, ← pow_add]; congr 1
        _ ≤ num * 2 ^ k := Nat.mul_le_mul_right _ hnumLow
    · calc num * 2 ^ k < 2 ^ (a + 1) * 2 ^ k := Nat.mul_lt_mul_of_pos_right hnumHigh (by positivity)
        _ = 2 ^ b * 2 ^ 53 := by rw [← pow_add, ← pow_add]; congr 1; omega
        _ ≤ den * 2 ^ 53 := Nat.mul_le_mul_right _ hdenLow
  · obtain ⟨k, hk, ha⟩ : ∃ k, ((a : Int) - b - 52).natAbs = k ∧ a = b + 52 + k := ⟨_, rfl, by omega⟩
    simp only [s, scaled_of_nonneg hnonneg, hk]
    constructor
    · calc den * 2 ^ k * 2 ^ 51 < 2 ^ (b + 1) * 2 ^ k * 2 ^ 51 := by gcongr
        _ = 2 ^ a := by rw [← pow_add, ← pow_add]; congr 1; omega
        _ ≤ num := hnumLow
    · calc num < 2 ^ (a + 1) := hnumHigh
        _ = 2 ^ b * 2 ^ k * 2 ^ 53 := by rw [← pow_add, ← pow_add]; congr 1; omega
        _ ≤ den * 2 ^ k * 2 ^ 53 := by gcongr

/-- **The whole part of a quotient, scaled by its exponent, has 53 binary digits.** -/
theorem naturalExponent_spec (hnum : num ≠ 0) (hden : 0 < den) :
    let s := scaled num den (naturalExponent num den)
    s.2 * 2 ^ 52 ≤ s.1 ∧ s.1 < s.2 * 2 ^ 53 := by
  obtain ⟨hlow, hhigh⟩ := scaled_guess hnum hden
  unfold naturalExponent
  rw [show Nat.pow 2 52 = 2 ^ 52 from rfl]
  generalize (Nat.log2 num : Int) - (Nat.log2 den : Int) - 52 = guess at *
  dsimp only at *
  have hpos : 0 < (scaled num den guess).2 := by omega
  split
  · rename_i h
    have hless := (Nat.div_lt_iff_lt_mul hpos).1 h
    rcases scaled_pred num den guess with ⟨h₁, h₂⟩ | ⟨h₁, h₂⟩ <;> omega
  · rename_i h
    have hmore := (Nat.le_div_iff_mul_le hpos).1 (Nat.not_lt.1 h)
    omega

/-- A quotient whose exponent is small is small. -/
theorem lt_of_naturalExponent_le (hnum : num ≠ 0) (hden : 0 < den) {k : Nat}
    (h : naturalExponent num den ≤ k) : num < den * 2 ^ (k + 53) := by
  obtain ⟨-, hhigh⟩ := naturalExponent_spec hnum hden
  generalize naturalExponent num den = e at *
  rcases Int.lt_or_le e 0 with hneg | hnonneg
  · rw [scaled_of_neg hneg] at hhigh
    calc num ≤ num * 2 ^ e.natAbs := Nat.le_mul_of_pos_right num (by positivity)
      _ < den * 2 ^ 53 := hhigh
      _ ≤ den * 2 ^ (k + 53) := Nat.mul_le_mul_left den (Nat.pow_le_pow_right (by decide) (by omega))
  · rw [scaled_of_nonneg hnonneg, Nat.mul_assoc, ← pow_add] at hhigh
    calc num < den * 2 ^ (e.natAbs + 53) := hhigh
      _ ≤ den * 2 ^ (k + 53) := Nat.mul_le_mul_left den (Nat.pow_le_pow_right (by decide) (by omega))

/-- A quotient whose exponent is large is large. -/
theorem le_of_le_naturalExponent (hnum : num ≠ 0) (hden : 0 < den) {k : Nat}
    (h : k ≤ naturalExponent num den) : den * 2 ^ (k + 52) ≤ num := by
  obtain ⟨hlow, -⟩ := naturalExponent_spec hnum hden
  generalize naturalExponent num den = e at *
  rw [scaled_of_nonneg (by omega), Nat.mul_assoc, ← pow_add] at hlow
  calc den * 2 ^ (k + 52) ≤ den * 2 ^ (e.natAbs + 52) :=
        Nat.mul_le_mul_left den (Nat.pow_le_pow_right (by decide) (by omega))
    _ ≤ num := hlow

/-! ## Which quotients are rounded to an infinity -/

/-- A quotient other than zero is rounded at its exponent, or at the least one, and carried over once
when rounding leads to another digit. -/
theorem ofRatio_eq (negative : Bool) (hnum : num ≠ 0) (den : Nat) :
    ofRatio negative num den =
      let e := max minExponent (naturalExponent num den)
      let m := roundDiv (scaled num den e).1 (scaled num den e).2
      if m = 2 ^ 53 then
        if maxExponent < e + 1 then .infinity negative else .finite negative (2 ^ 52) (e + 1)
      else if maxExponent < e then .infinity negative else .finite negative m e := by
  unfold ofRatio
  rw [if_neg hnum]
  dsimp only
  by_cases h : roundDiv (scaled num den (max minExponent (naturalExponent num den))).1
      (scaled num den (max minExponent (naturalExponent num den))).2 = 2 ^ 53
  · rw [if_pos h]
    simp only [show Nat.pow 2 53 = 2 ^ 53 from rfl, if_pos h]
    rfl
  · simp only [show Nat.pow 2 53 = 2 ^ 53 from rfl, if_neg h]

/-- The least natural number that rounds to an infinity, half a step above the greatest double. -/
def limit : Nat := 2 ^ 1024 - 2 ^ 970

theorem limit_eq : limit = (2 * 2 ^ 53 - 1) * 2 ^ 970 := by
  rw [limit, show (1024 : Nat) = 1 + 53 + 970 from rfl, pow_add, pow_add, pow_one, Nat.sub_mul,
    Nat.one_mul]

theorem limit_pos : 0 < limit := by
  rw [limit_eq]
  positivity

theorem two_pow_lt_limit {k : Nat} (h : k ≤ 1023) : 2 ^ k < limit := by
  rw [limit_eq]
  calc 2 ^ k ≤ 2 ^ (53 + 970) := Nat.pow_le_pow_right (by decide) h
    _ = 2 ^ 53 * 2 ^ 970 := pow_add 2 53 970
    _ < (2 * 2 ^ 53 - 1) * 2 ^ 970 := Nat.mul_lt_mul_of_pos_right (by decide) (by positivity)

theorem limit_le_two_pow : limit ≤ 2 ^ (972 + 52) := by
  rw [limit, show 972 + 52 = 1024 from rfl]
  exact Nat.sub_le _ _

/-- **A quotient rounds to a finite double exactly when it is below the limit.** -/
theorem isFinite_ofRatio_iff (negative : Bool) (num : Nat) (hden : 0 < den) :
    (ofRatio negative num den).isFinite = true ↔ num < den * limit := by
  by_cases hnum : num = 0
  · subst hnum
    exact iff_of_true rfl (Nat.mul_pos hden limit_pos)
  rw [ofRatio_eq negative hnum]
  dsimp only
  rcases Int.lt_trichotomy (naturalExponent num den) maxExponent with hless | heq | hmore
  · have hcarry : ¬maxExponent < max minExponent (naturalExponent num den) + 1 := by
      unfold maxExponent minExponent at *
      omega
    have hexponent : ¬maxExponent < max minExponent (naturalExponent num den) := by omega
    rw [if_neg hcarry, if_neg hexponent]
    refine iff_of_true (by split <;> rfl) ?_
    calc num < den * 2 ^ (970 + 53) :=
          lt_of_naturalExponent_le hnum hden (Int.le_of_lt_add_one hless)
      _ ≤ den * limit := Nat.mul_le_mul_left den (two_pow_lt_limit (by decide)).le
  · have hmax : max minExponent maxExponent = maxExponent := by decide
    obtain ⟨-, hhigh⟩ := naturalExponent_spec hnum hden
    rw [heq] at hhigh ⊢
    rw [hmax]
    have hpos : 0 < den * 2 ^ maxExponent.natAbs := by positivity
    rw [scaled_of_nonneg (by decide)] at hhigh ⊢
    dsimp only at hhigh ⊢
    have hle := roundDiv_le hpos hhigh.le
    have hcarry : 2 ^ 53 ≤ roundDiv num (den * 2 ^ maxExponent.natAbs) ↔ den * limit ≤ num := by
      have hstep : den * 2 ^ maxExponent.natAbs * (2 * 2 ^ 53 - 1) = 2 * (den * limit) := by
        rw [limit_eq, show maxExponent.natAbs = 1 + 970 from rfl, pow_add, pow_one]
        generalize 2 ^ 970 = p
        ring
      rw [le_roundDiv_iff hpos (by decide) (by decide), hstep]
      exact Nat.mul_le_mul_left_iff (by decide)
    rw [← Nat.not_le, ← hcarry]
    split
    · rename_i h
      exact iff_of_false Bool.false_ne_true (Classical.not_not.2 h.ge)
    · rename_i h
      exact iff_of_true rfl fun hge => h (Nat.le_antisymm hle hge)
  · have hexponent : maxExponent < max minExponent (naturalExponent num den) := by omega
    have hcarry : maxExponent < max minExponent (naturalExponent num den) + 1 := by omega
    rw [if_pos hcarry, if_pos hexponent]
    refine iff_of_false (by split <;> exact Bool.false_ne_true) (Nat.not_lt.2 ?_)
    calc den * limit ≤ den * 2 ^ (972 + 52) := Nat.mul_le_mul_left den limit_le_two_pow
      _ ≤ num := le_of_le_naturalExponent hnum hden (Int.add_one_le_of_lt hmore)

/-- The quotient of two natural numbers as one double, as far as it is below the limit. -/
theorem ofQuotient?_natCast (num : Nat) (hden : 0 < den) :
    ofQuotient? num den = if num < den * limit then some (ofRatio false num den) else none := by
  have hne : (den : Int) ≠ 0 := by omega
  have hsign : (decide ((num : Int) < 0) != decide ((den : Int) < 0)) = false := by
    rw [decide_eq_false (by omega), decide_eq_false (by omega)]
    rfl
  unfold ofQuotient?
  rw [if_neg hne, hsign]
  simp only [Int.natAbs_natCast, isFinite_ofRatio_iff false num hden]

/-! ## Powers of two that are not crossed -/

/-- A finite double whose magnitude is at most a power of two. -/
def AtMost (x : Binary64) (k : Nat) : Prop :=
  ∃ negative m e, x = .finite negative m e ∧ (ratio m e).1 ≤ (ratio m e).2 * 2 ^ k

variable {x y : Binary64} {j k : Nat}

theorem AtMost.isFinite (h : x.AtMost k) : x.isFinite = true := by
  obtain ⟨negative, m, e, rfl, -⟩ := h
  rfl

theorem ratio_of_neg {e : Int} (h : e < 0) (m : Nat) : ratio m e = (m, 2 ^ e.natAbs) := if_pos h

theorem ratio_of_nonneg {e : Int} (h : 0 ≤ e) (m : Nat) : ratio m e = (m * 2 ^ e.natAbs, 1) :=
  if_neg (Int.not_lt.2 h)

/-- A significand that is half of another is the same at the next exponent. -/
theorem ratio_succ_le {m : Nat} {e : Int} (h : (ratio (2 * m) e).1 ≤ (ratio (2 * m) e).2 * 2 ^ k) :
    (ratio m (e + 1)).1 ≤ (ratio m (e + 1)).2 * 2 ^ k := by
  rcases Int.lt_trichotomy (e + 1) 0 with hneg | hzero | hpos
  · rw [ratio_of_neg (by omega), show e.natAbs = 1 + (e + 1).natAbs by omega, pow_add,
      Nat.mul_assoc] at h
    rw [ratio_of_neg hneg]
    exact Nat.le_of_mul_le_mul_left h (by decide)
  · rw [ratio_of_neg (by omega), show e.natAbs = 1 by omega] at h
    rw [ratio_of_nonneg hzero.ge, hzero, Int.natAbs_zero, pow_zero]
    dsimp only at h ⊢
    omega
  · rw [ratio_of_nonneg (by omega)] at h
    rw [ratio_of_nonneg hpos.le, show (e + 1).natAbs = 1 + e.natAbs by omega, pow_add,
      Nat.mul_left_comm, ← Nat.mul_assoc]
    exact h

/-- Rounding a quotient at an exponent does not lead across a power of two, unless the exponent
is that of a larger number. -/
theorem ratio_roundDiv_le (hden : 0 < den) (h : num ≤ den * 2 ^ k) {e : Int} (he : e ≤ k) :
    let m := roundDiv (scaled num den e).1 (scaled num den e).2
    (ratio m e).1 ≤ (ratio m e).2 * 2 ^ k := by
  intro m
  rcases Int.lt_or_le e 0 with hneg | hnonneg
  · rw [ratio_of_neg hneg]
    simp only [m, scaled_of_neg hneg]
    apply roundDiv_le hden
    calc num * 2 ^ e.natAbs ≤ den * 2 ^ k * 2 ^ e.natAbs := Nat.mul_le_mul_right _ h
      _ = den * (2 ^ e.natAbs * 2 ^ k) := by ring
  · rw [ratio_of_nonneg hnonneg]
    simp only [m, scaled_of_nonneg hnonneg]
    obtain ⟨i, hi⟩ : ∃ i, k = e.natAbs + i := ⟨k - e.natAbs, by omega⟩
    rw [hi, pow_add] at h
    rw [hi, pow_add, Nat.one_mul, Nat.mul_comm]
    refine Nat.mul_le_mul_left _ (roundDiv_le (by positivity) ?_)
    rwa [Nat.mul_assoc]

/-- **What is at most a power of two is rounded to a double that is so too.** -/
theorem ofRatio_atMost (negative : Bool) (hden : 0 < den) (h : num ≤ den * 2 ^ k) (hk : k ≤ 1023) :
    (ofRatio negative num den).AtMost k := by
  by_cases hnum : num = 0
  · subst hnum
    exact ⟨negative, 0, minExponent, rfl, Nat.zero_le _⟩
  have hfinite : (ofRatio negative num den).isFinite = true := by
    rw [isFinite_ofRatio_iff negative num hden]
    exact lt_of_le_of_lt h ((Nat.mul_lt_mul_left hden).2 (two_pow_lt_limit hk))
  have hexponent : max minExponent (naturalExponent num den) ≤ k := by
    refine max_le (by unfold minExponent; omega) (Int.not_lt.1 fun hlarge => ?_)
    have hlow := le_of_le_naturalExponent hnum hden (k := k + 1) (by omega)
    have hpow : 2 ^ k < 2 ^ (k + 1 + 52) := Nat.pow_lt_pow_right (by decide) (by omega)
    exact absurd (hlow.trans h) (Nat.not_le.2 (Nat.mul_lt_mul_of_pos_left hpow hden))
  have hround := ratio_roundDiv_le hden h hexponent
  rw [ofRatio_eq negative hnum] at hfinite ⊢
  dsimp only at hround hfinite ⊢
  split at hfinite
  · rename_i hcarry
    rw [hcarry] at hround
    split at hfinite
    · cases hfinite
    · rename_i hmax
      rw [if_pos hcarry, if_neg hmax]
      exact ⟨negative, 2 ^ 52, _, rfl, ratio_succ_le hround⟩
  · rename_i hcarry
    split at hfinite
    · cases hfinite
    · rename_i hmax
      rw [if_neg hcarry, if_neg hmax]
      exact ⟨negative, _, _, rfl, hround⟩

theorem ofInt_atMost {n : Nat} (h : n ≤ 2 ^ k) (hk : k ≤ 1023) : (ofInt n).AtMost k := by
  unfold ofInt
  rw [Int.natAbs_natCast]
  exact ofRatio_atMost _ Nat.one_pos (by rwa [Nat.one_mul]) hk

theorem AtMost.mul (hx : x.AtMost j) (hy : y.AtMost k) (hjk : j + k ≤ 1023) :
    (x.mul y).AtMost (j + k) := by
  obtain ⟨s, m, e, rfl, hx⟩ := hx
  obtain ⟨t, n, f, rfl, hy⟩ := hy
  refine ofRatio_atMost _ (Nat.mul_pos (ratio_den_pos m e) (ratio_den_pos n f)) ?_ hjk
  calc (ratio m e).1 * (ratio n f).1
      ≤ (ratio m e).2 * 2 ^ j * ((ratio n f).2 * 2 ^ k) := Nat.mul_le_mul hx hy
    _ = (ratio m e).2 * (ratio n f).2 * 2 ^ (j + k) := by rw [pow_add]; ring

theorem div_two (negative : Bool) (m : Nat) (e : Int) : (finite negative m e).div (ofInt 2) =
    ofRatio negative ((ratio m e).1 * 2 ^ 51) ((ratio m e).2 * 2 ^ 52) := by
  have htwo : ofInt 2 = .finite false (2 ^ 52) (-51) := by decide
  have hratio : ratio (2 ^ 52) (-51) = (2 ^ 52, 2 ^ 51) := ratio_of_neg (by decide) _
  rw [htwo, div, if_neg (by decide), hratio, Bool.bne_false]

/-- Halving makes nothing larger. -/
theorem AtMost.half (hx : x.AtMost k) (hk : k ≤ 1023) : (x.div (ofInt 2)).AtMost k := by
  obtain ⟨negative, m, e, rfl, hx⟩ := hx
  rw [div_two]
  refine ofRatio_atMost _ (Nat.mul_pos (ratio_den_pos m e) (by positivity)) ?_ hk
  calc (ratio m e).1 * 2 ^ 51 ≤ (ratio m e).2 * 2 ^ k * 2 ^ 52 :=
        Nat.mul_le_mul hx (Nat.pow_le_pow_right (by decide) (by decide))
    _ = (ratio m e).2 * 2 ^ 52 * 2 ^ k := Nat.mul_right_comm _ _ _

end Wireframe.Binary64
