/-!
# Encodings of text

A text may hold half of a surrogate pair on its own, which is no character. It is kept as a stand-in,
one of the 2048 characters from U+DD800 on, to which nothing is assigned; those themselves are kept as
the 2048 behind them, to which nothing is assigned either. A text with a half in it is torn: it has no
encoding.

* `charOfCode`, `codeOf` — the character of a code point and back.
* `tear?` — where a text is torn first.
* `decodeBytes?` — bytes as text in the encoding that the zeros among the first of them show: JSON text
  begins with ASCII, which leaves zeros in units of two and of four bytes.
-/

namespace Wireframe.Text

/-! ## Surrogates -/

/-- Whether a number is the first half of a surrogate pair. -/
def isHighSurrogate (n : Nat) : Bool := 0xd800 ≤ n && n < 0xdc00

/-- Whether a number is the second half of a surrogate pair. -/
def isLowSurrogate (n : Nat) : Bool := 0xdc00 ≤ n && n < 0xe000

/-- How far behind half of a surrogate pair its stand-in comes. -/
def standInOffset : Nat := 0xd0000

/-- Whether a character stands for half of a surrogate pair. -/
def isHalf (c : Char) : Bool := 0xdd800 ≤ c.toNat && c.toNat < 0xde000

/-- A character that is not to be taken for half of a surrogate pair. -/
def ofWhole (c : Char) : Char := if isHalf c then Char.ofNat (c.toNat + 0x800) else c

/-- The character of a code point, or the stand-in for half of a surrogate pair. -/
def charOfCode (n : Nat) : Char :=
  if isHighSurrogate n || isLowSurrogate n then Char.ofNat (n + standInOffset) else ofWhole (Char.ofNat n)

/-- The code point of a character, or the half that it stands for. -/
def codeOf (c : Char) : Nat := if isHalf c then c.toNat - standInOffset else c.toNat

/-- The character of a surrogate pair. -/
def charOfPair (high low : Nat) : Char := charOfCode (0x10000 + (high - 0xd800) * 0x400 + (low - 0xdc00))

theorem charOfCode_toNat {c : Char} (h : isHalf c = false) : charOfCode c.toNat = c := by
  have hvalid := c.valid
  have hhigh : isHighSurrogate c.toNat = false ∧ isLowSurrogate c.toNat = false := by
    simp only [isHighSurrogate, isLowSurrogate, Bool.and_eq_false_iff, decide_eq_false_iff_not]
    rcases hvalid with hlow | ⟨hlow, -⟩
    · have : c.toNat < 0xd800 := hlow
      omega
    · have : 0xdfff < c.toNat := hlow
      omega
  rw [charOfCode, hhigh.1, hhigh.2, Char.ofNat_toNat, ofWhole, h]
  rfl

theorem isSurrogate_codeOf {c : Char} (h : isHalf c = true) :
    isHighSurrogate (codeOf c) = true ∨ isLowSurrogate (codeOf c) = true := by
  have hcode : codeOf c = c.toNat - 0xd0000 := if_pos h
  simp only [isHalf, Bool.and_eq_true, decide_eq_true_eq] at h
  simp only [isHighSurrogate, isLowSurrogate, hcode, Bool.and_eq_true, decide_eq_true_eq]
  omega

/-- Half of a surrogate pair is the one that its stand-in stands for. -/
theorem charOfCode_codeOf {c : Char} (h : isHalf c = true) : charOfCode (codeOf c) = c := by
  have hcode : codeOf c + standInOffset = c.toNat := by
    have hlow : 0xdd800 ≤ c.toNat := by
      simp only [isHalf, Bool.and_eq_true, decide_eq_true_eq] at h
      exact h.1
    rw [codeOf, if_pos h, standInOffset]
    omega
  rw [charOfCode, if_pos (Bool.or_eq_true_iff.2 (isSurrogate_codeOf h)), hcode, Char.ofNat_toNat]

/-! ## Torn texts -/

/-- Whether a text holds half of a surrogate pair on its own. -/
def isTorn (s : List Char) : Bool := s.any isHalf

/-- Halves of surrogate pairs in a row, and where they stand. -/
structure Tear where
  position : Nat
  codes : List Nat
  deriving DecidableEq, Repr

/-- The first halves of surrogate pairs in a text. -/
def tear? (s : List Char) : Option Tear :=
  match s.dropWhile fun c => !isHalf c with
  | [] => none
  | torn => some ⟨(s.takeWhile fun c => !isHalf c).length, (torn.takeWhile isHalf).map codeOf⟩

theorem isTorn_append (s t : List Char) : isTorn (s ++ t) = (isTorn s || isTorn t) := List.any_append

theorem isTorn_eq_false_iff {s : List Char} : isTorn s = false ↔ ∀ c ∈ s, isHalf c = false := by
  simp [isTorn]

theorem tear?_eq_none_iff {s : List Char} : tear? s = none ↔ isTorn s = false := by
  induction s with
  | nil => simp [tear?, isTorn]
  | cons c s ih =>
    cases h : isHalf c with
    | true => simp [tear?, isTorn, h]
    | false =>
      have hrest : tear? (c :: s) = none ↔ tear? s = none := by
        simp only [tear?, List.dropWhile_cons, h, Bool.not_false, if_true]
        cases s.dropWhile fun c => !isHalf c <;> simp
      rw [hrest, ih, isTorn, isTorn, List.any_cons, h, Bool.false_or]

/-! ## Encodings -/

/-- An encoding: units of one, two or four bytes, the latter with their most significant byte first
or last. -/
inductive Encoding where
  | utf8
  | utf16 (bigEndian : Bool)
  | utf32 (bigEndian : Bool)
  deriving DecidableEq, Repr

/-- The encoding that the first bytes show. -/
def Encoding.ofBytes : List UInt8 → Encoding
  | 0 :: 0 :: _ :: _ :: _ => .utf32 true
  | 0 :: _ :: _ :: _ :: _ => .utf16 true
  | _ :: 0 :: 0 :: 0 :: _ => .utf32 false
  | _ :: 0 :: _ :: _ :: _ => .utf16 false
  | [0, _] => .utf16 true
  | [_, 0] => .utf16 false
  | _ => .utf8

/-- The number of a unit of several bytes. -/
def unitOfBytes (bigEndian : Bool) (bytes : List UInt8) : Nat :=
  (if bigEndian then bytes else bytes.reverse).foldl (fun n b => 256 * n + b.toNat) 0

/-- The units of two bytes; none when a byte is left over. -/
def units16? (bigEndian : Bool) : List UInt8 → Option (List Nat)
  | [] => some []
  | a :: b :: rest => (units16? bigEndian rest).map (unitOfBytes bigEndian [a, b] :: ·)
  | _ => none

/-- The units of four bytes; none when bytes are left over. -/
def units32? (bigEndian : Bool) : List UInt8 → Option (List Nat)
  | [] => some []
  | a :: b :: c :: d :: rest =>
    (units32? bigEndian rest).map (unitOfBytes bigEndian [a, b, c, d] :: ·)
  | _ => none

/-- The characters of units of two bytes. -/
def charsOfUnits : List Nat → List Char
  | [] => []
  | [a] => [charOfCode a]
  | a :: b :: rest =>
    if isHighSurrogate a && isLowSurrogate b then charOfPair a b :: charsOfUnits rest
    else charOfCode a :: charsOfUnits (b :: rest)

/-- Bytes of one-byte units in which each half of a surrogate pair has become its stand-in, and each
stand-in the character that it is kept as. -/
def withStandIns : List UInt8 → List UInt8
  | 0xed :: b :: rest =>
    if 0xa0 ≤ b then 0xf3 :: 0x9d :: b :: withStandIns rest else 0xed :: b :: withStandIns rest
  | 0xf3 :: 0x9d :: b :: rest =>
    if 0xa0 ≤ b then 0xf3 :: 0x9e :: (b - 0x20) :: withStandIns rest
    else 0xf3 :: 0x9d :: b :: withStandIns rest
  | b :: rest => b :: withStandIns rest
  | [] => []

/-- A text without a byte order mark at its start. -/
def withoutMark : List Char → List Char
  | '\uFEFF' :: rest => rest
  | s => s

def decodeBytes? (bytes : List UInt8) : Option (List Char) :=
  match Encoding.ofBytes bytes with
  | .utf8 => (String.fromUTF8? ⟨(withStandIns bytes).toArray⟩).map fun s => withoutMark s.toList
  | .utf16 bigEndian => (units16? bigEndian bytes).map charsOfUnits
  | .utf32 bigEndian => do
    let codes ← units32? bigEndian bytes
    if codes.all (· ≤ 0x10ffff) then some (codes.map charOfCode) else none

end Wireframe.Text
