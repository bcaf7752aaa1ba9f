/-!
# Double-precision numbers in exact arithmetic

A double is kept as its significand and exponent, so every operation below is computed in
unbounded integers and rounded once, to the nearest double, ties to an even significand.

* `Binary64.ofRatio` — the double nearest to a quotient of naturals.
* `Binary64.div`, `Binary64.mul` — correctly rounded arithmetic.
* `Binary64.lt` — the order of doubles; not-a-number is below and above nothing.
* `Binary64.trunc?`, `Binary64.roundEven?` — the integer toward zero and the nearest integer.
-/

namespace Wireframe

/-- A double: not-a-number, an infinity, or `± significand * 2 ^ exponent`. -/
inductive Binary64 where
  | nan
  | infinity (negative : Bool)
  | finite (negative : Bool) (significand : Nat) (exponent : Int)
  deriving DecidableEq, Repr

namespace Binary64

/-- Least exponent of a finite double. -/
def minExponent : Int := -1074

/-- Greatest exponent of a finite double. -/
def maxExponent : Int := 971

/-- Zero with a sign. -/
def zero (negative : Bool) : Binary64 := .finite negative 0 minExponent

/-- The quotient rounded to the nearest natural number, a half to the even neighbour. -/
def roundDiv (num den : Nat) : Nat :=
  let q := num / den
  let r := num % den
  if 2 * r < den then q
  else if den < 2 * r then q + 1
  else if q % 2 = 0 then q else q + 1

/-- `num / den` scaled by `2 ^ (-exponent)`, as a quotient of naturals. -/
def scaled (num den : Nat) (exponent : Int) : Nat × Nat :=
  if exponent < 0 then (num * Nat.pow 2 exponent.natAbs, den) else (num, den * Nat.pow 2 exponent.natAbs)

/-- The exponent at which `num / den` has a significand of 53 binary digits. -/
def naturalExponent (num den : Nat) : Int :=
  let guess : Int := (Nat.log2 num : Int) - (Nat.log2 den : Int) - 52
  let (n, d) := scaled num den guess
  if n / d < Nat.pow 2 52 then guess - 1 else guess

/-- The double nearest to `num / den`; too large a quotient gives an infinity. -/
def ofRatio (negative : Bool) (num den : Nat) : Binary64 :=
  if num = 0 then zero negative
  else
    let exponent := max minExponent (naturalExponent num den)
    let (n, d) := scaled num den exponent
    let m := roundDiv n d
    let (m, exponent) := if m = Nat.pow 2 53 then (Nat.pow 2 52, exponent + 1) else (m, exponent)
    if maxExponent < exponent then .infinity negative else .finite negative m exponent

/-- The double nearest to an integer. -/
def ofInt (n : Int) : Binary64 := ofRatio (n < 0) n.natAbs 1

/-- Whether the number is neither an infinity nor not-a-number. -/
def isFinite : Binary64 → Bool
  | .finite .. => true
  | _ => false

/-- Whether the number is a zero of either sign. -/
def isZero : Binary64 → Bool
  | .finite _ m _ => m == 0
  | _ => false

/-- The sign bit. -/
def isNegative : Binary64 → Bool
  | .nan => false
  | .infinity s => s
  | .finite s _ _ => s

/-- The magnitude of a finite double as a quotient of naturals. -/
def ratio (significand : Nat) (exponent : Int) : Nat × Nat :=
  if exponent < 0 then (significand, Nat.pow 2 exponent.natAbs) else (significand * Nat.pow 2 exponent.natAbs, 1)

/-- A finite double as numerator and denominator. -/
def toRatio? : Binary64 → Option (Int × Nat)
  | .finite s m e =>
    let (n, d) := ratio m e
    some (if s then -(n : Int) else n, d)
  | _ => none

/-- The strict order of doubles. -/
def lt : Binary64 → Binary64 → Bool
  | .nan, _ | _, .nan => false
  | .infinity s, .infinity t => s && !t
  | .infinity s, .finite .. => s
  | .finite .., .infinity t => !t
  | .finite s m e, .finite t n f =>
    let (a, b) := ratio m e
    let (c, d) := ratio n f
    let x : Int := if s then -(a : Int) else a
    let y : Int := if t then -(c : Int) else c
    x * d < y * b

/-- The order of doubles; not-a-number is not even below itself. -/
def le : Binary64 → Binary64 → Bool
  | .nan, _ | _, .nan => false
  | x, y => !lt y x

/-- The rounded product. -/
def mul : Binary64 → Binary64 → Binary64
  | .nan, _ | _, .nan => .nan
  | .infinity s, y => if y.isZero then .nan else .infinity (s != y.isNegative)
  | x, .infinity t => if x.isZero then .nan else .infinity (x.isNegative != t)
  | .finite s m e, .finite t n f =>
    let (a, b) := ratio m e
    let (c, d) := ratio n f
    ofRatio (s != t) (a * c) (b * d)

/-- The rounded quotient; a finite number over zero is an infinity, zero over zero is not a number. -/
def div : Binary64 → Binary64 → Binary64
  | .nan, _ | _, .nan => .nan
  | .infinity _, .infinity _ => .nan
  | .infinity s, .finite t _ _ => .infinity (s != t)
  | .finite s _ _, .infinity t => zero (s != t)
  | .finite s m e, .finite t n f =>
    if n = 0 then (if m = 0 then .nan else .infinity (s != t))
    else
      let (a, b) := ratio m e
      let (c, d) := ratio n f
      ofRatio (s != t) (a * d) (b * c)

/-- The quotient of two integers as one rounded double; none when it is too large or the divisor is
zero. -/
def ofQuotient? (num den : Int) : Option Binary64 :=
  if den = 0 then none
  else
    let x := ofRatio ((num < 0) != (den < 0)) num.natAbs den.natAbs
    if x.isFinite then some x else none

/-- The integer part, toward zero. -/
def trunc? (x : Binary64) : Option Int :=
  x.toRatio?.map fun (n, d) => Int.tdiv n d

/-- The nearest integer, a half to the even neighbour. -/
def roundEven? : Binary64 → Option Int
  | .finite s m e =>
    let (n, d) := ratio m e
    let k : Int := roundDiv n d
    some (if s then -k else k)
  | _ => none

/-- Whether a finite double is an integer. -/
def isIntegral (x : Binary64) : Bool :=
  match x.toRatio? with
  | some (n, d) => n.natAbs % d == 0
  | none => false

end Binary64

end Wireframe
