import Wireframe.Number.Binary64

/-!
# Decimal text of numbers

* `Binary64.shortest` — the fewest decimal digits that read back as the same double, and of those
  the nearest to it.
* `FloatStyle.render` — where those digits are written positionally and where with an exponent.
* `fixedPlaces`, `significantDigits` — a quotient with a fixed number of places or of digits, a half
  to the even neighbour.
* `Binary64.ofDecimal` — the double nearest to `digits * 10 ^ exponent`.
-/

namespace Wireframe

/-- The decimal digits of a natural number, most significant first. -/
def decimalDigits (n : Nat) : List Char := Nat.toDigits 10 n

/-- A number written `0.d₁d₂… * 10 ^ point`. -/
structure DecimalDigits where
  digits : List Char
  point : Int
  deriving DecidableEq, Repr

/-- Scales `num / den` up by tens until it is at least one tenth; counts the tens. -/
def leadingZeros (num den : Nat) : Nat → Nat
  | 0 => 0
  | fuel + 1 => if num * 10 < den then leadingZeros (num * 10) den fuel + 1 else 0

/-- The `p` with `10 ^ (p - 1) ≤ num / den < 10 ^ p`, for a positive quotient. -/
def decimalPoint (num den : Nat) : Int :=
  if den ≤ num then (decimalDigits (num / den)).length
  else -(leadingZeros num den 400 : Nat)

/-- Drops zeros from the end. -/
def trimZeros (digits : List Char) : List Char :=
  (digits.reverse.dropWhile (· == '0')).reverse

namespace Binary64

/-- Whether `n * 10 ^ e` lies among the reals that round to the double `m * 2 ^ q`: the interval
reaches half a step to either side (a quarter step below a power of two) and holds its ends exactly
when the significand is even. -/
def roundsTo (m : Nat) (q : Int) (n : Nat) (e : Int) : Bool :=
  let lowGap : Nat := if m = Nat.pow 2 52 ∧ minExponent < q then 1 else 2
  let (vn, vd) := ratio 1 (q - 2)
  let x := if e < 0 then n * vd else n * Nat.pow 10 e.natAbs * vd
  let unit := if e < 0 then vn * Nat.pow 10 e.natAbs else vn
  let low := (4 * m - lowGap) * unit
  let high := (4 * m + 2) * unit
  if m % 2 = 0 then low ≤ x && x ≤ high else low < x && x < high

/-- The digit string of `count` digits nearest to the double that reads back as it, if any does. -/
def withDigits? (m : Nat) (q : Int) (point : Int) (count : Nat) : Option (Nat × Int) :=
  let e := point - count
  let (vn, vd) := ratio m q
  let num := if e < 0 then vn * Nat.pow 10 e.natAbs else vn
  let den := if e < 0 then vd else vd * Nat.pow 10 e.natAbs
  let below := num / den
  let rest := num % den
  let above := below + 1
  let nearer := if 2 * rest < den ∨ (2 * rest = den ∧ below % 2 = 0) then below else above
  let farther := if nearer = below then above else below
  if roundsTo m q nearer e then some (nearer, e)
  else if roundsTo m q farther e then some (farther, e)
  else none

/-- Tries one digit, then two, up to the given number of further tries. -/
def fewestDigits (m : Nat) (q : Int) (point : Int) (count : Nat) : Nat → Nat × Int
  | 0 => (m, 0)
  | fuel + 1 =>
    match withDigits? m q point count with
    | some hit => hit
    | none => fewestDigits m q point (count + 1) fuel

/-- The shortest digits that read back as the positive double `m * 2 ^ q`; seventeen always do. -/
def shortest (m : Nat) (q : Int) : DecimalDigits :=
  if m = 0 then ⟨['0'], 1⟩
  else
    let (num, den) := ratio m q
    let (n, e) := fewestDigits m q (decimalPoint num den) 1 17
    let digits := decimalDigits n
    ⟨trimZeros digits, digits.length + e⟩

end Binary64

/-- How the shortest digits of a double are laid out. -/
structure FloatStyle where
  /-- Written positionally when the point lies after this many places at most … -/
  maxPoint : Int
  /-- … and before this many at least. -/
  minPoint : Int
  /-- Width to which the digits of an exponent are filled with zeros. -/
  exponentWidth : Nat
  nanText : String
  infinityText : String

namespace FloatStyle

/-- The exponent `e` with its sign, filled to the style's width. -/
def exponentText (style : FloatStyle) (e : Int) : List Char :=
  let digits := decimalDigits e.natAbs
  (if e < 0 then '-' else '+') :: (List.replicate (style.exponentWidth - digits.length) '0' ++ digits)

/-- The digits with their point: `12.5`, `0.001`, `3.0`, or `1.5e+16` outside the positional range. -/
def layOut (style : FloatStyle) (d : DecimalDigits) : List Char :=
  if d.point ≤ style.maxPoint ∧ style.minPoint ≤ d.point then
    if d.point ≤ 0 then
      '0' :: '.' :: (List.replicate d.point.natAbs '0' ++ d.digits)
    else
      let whole := d.point.toNat
      if d.digits.length ≤ whole then
        d.digits ++ List.replicate (whole - d.digits.length) '0' ++ ['.', '0']
      else
        d.digits.take whole ++ '.' :: d.digits.drop whole
  else
    let e := style.exponentText (d.point - 1)
    match d.digits with
    | [] => 'e' :: e
    | [c] => c :: 'e' :: e
    | c :: rest => c :: '.' :: (rest ++ 'e' :: e)

/-- The text of a double. -/
def render (style : FloatStyle) : Binary64 → String
  | .nan => style.nanText
  | .infinity s => if s then "-" ++ style.infinityText else style.infinityText
  | .finite s m q =>
    let body := style.layOut (Binary64.shortest m q)
    String.ofList (if s then '-' :: body else body)

end FloatStyle

/-- Doubles are written positionally from `0.0001` up to below `10 ^ 16`, always with a point, and
with an exponent of at least two digits elsewhere. -/
def FloatStyle.plain (nanText infinityText : String) : FloatStyle where
  maxPoint := 16
  minPoint := -3
  exponentWidth := 2
  nanText := nanText
  infinityText := infinityText

/-- `num / den` with `places` digits after the point, a half to the even neighbour. -/
def fixedPlaces (places : Nat) (negative : Bool) (num den : Nat) : String :=
  let n := Binary64.roundDiv (num * Nat.pow 10 places) den
  let digits := decimalDigits n
  let digits := List.replicate (places + 1 - digits.length) '0' ++ digits
  let whole := digits.length - places
  let body := digits.take whole ++ (if places = 0 then [] else '.' :: digits.drop whole)
  String.ofList (if negative then '-' :: body else body)

/-- `num / den` with so many significant digits, a half to the even neighbour. -/
def significantDigits (count num den : Nat) : DecimalDigits :=
  if num = 0 then ⟨List.replicate count '0', 1⟩
  else
    let point := decimalPoint num den
    let shift := (count : Int) - point
    let n :=
      if shift < 0 then Binary64.roundDiv num (den * Nat.pow 10 shift.natAbs)
      else Binary64.roundDiv (num * Nat.pow 10 shift.natAbs) den
    let digits := decimalDigits n
    if count < digits.length then ⟨digits.take count, point + 1⟩ else ⟨digits, point⟩

/-- A double with a fixed number of places. -/
def Binary64.fixed (places : Nat) : Binary64 → String
  | .nan => "nan"
  | .infinity s => if s then "-inf" else "inf"
  | .finite s m q =>
    let (num, den) := Binary64.ratio m q
    fixedPlaces places s num den

/-- The double nearest to `digits * 10 ^ exponent`. Exponents far outside the range of doubles are
answered without computing the power. -/
def Binary64.ofDecimal (negative : Bool) (digits : Nat) (exponent : Int) : Binary64 :=
  if digits = 0 then Binary64.zero negative
  else if 400 < exponent then .infinity negative
  else if exponent < -(((decimalDigits digits).length : Int) + 400) then Binary64.zero negative
  else if exponent < 0 then Binary64.ofRatio negative digits (Nat.pow 10 exponent.natAbs)
  else Binary64.ofRatio negative (digits * Nat.pow 10 exponent.natAbs) 1

end Wireframe
