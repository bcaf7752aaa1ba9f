import Mathlib.Tactic.SplitIfs
import Wireframe.Json.Reader

/-!
# String literals between single quotes

What a string literal of a class stands for. Its characters are read one after another; a backslash
begins an escape. The value is a list of code units, two of them for a character above U+FFFF. A quote, a
line feed or a carriage return cannot stand for itself.

* `units` — the code units of a text.
* `literalValue?` — the value of a text that is a literal.
* `IsLiteralOf` — literals on one line with a text for their value.
* `valueFrom?_cons`, `valueFrom?_escape` — how a literal is read on.
* `Place.credit_step` — what one character can add to the value.
* `two_mul_length_valueFrom?` — a value has no more units than its literal pays for, where a quote and
  a backslash pay half.
-/

set_option autoImplicit false

namespace Wireframe.Literal

/-! ## Values of literals -/

/-- The code units of a code point. -/
def pointUnits (n : Nat) : List Nat :=
  if n < 0x10000 then [n]
  else [0xd800 + (n - 0x10000) / 0x400, 0xdc00 + (n - 0x10000) % 0x400]

/-- The code units of a text. -/
def units (s : List Char) : List Nat := s.flatMap fun c => pointUnits c.toNat

/-- Whether a character ends a line of source. -/
def isLineTerminator (c : Char) : Bool := c == '\n' || c == '\r' || c == '\u2028' || c == '\u2029'

/-- Whether a text has no end of a line in it. -/
def IsOneLine (s : List Char) : Prop := ∀ c ∈ s, isLineTerminator c = false

instance (s : List Char) : Decidable (IsOneLine s) :=
  List.decidableBAll (fun c => isLineTerminator c = false) s

/-- Places in a literal: between two characters of its value, or within an escape. -/
inductive Place where
  | plain
  /-- Behind a backslash. -/
  | escape
  /-- Behind a backslash and a zero. -/
  | zero
  /-- Behind a backslash and a carriage return. -/
  | continued
  /-- Within `\xHH` or `\uHHHH`: one more digit comes, and then so many. -/
  | digits (more value : Nat)
  /-- Behind `\u`. -/
  | unicode
  /-- Behind `\u` and an opening brace. -/
  | brace
  /-- Behind the first digits in braces. -/
  | point (value : Nat)
  deriving DecidableEq, Repr

/-- The letters that stand for control characters behind a backslash. -/
def controls : List (Char × Nat) :=
  [('b', 0x08), ('t', 0x09), ('n', 0x0a), ('v', 0x0b), ('f', 0x0c), ('r', 0x0d)]

/-- Reads a character outside escapes. A quote ends the literal, so it is not read. -/
def stepPlain (c : Char) : Option (Place × List Nat) :=
  if c = '\\' then some (.escape, [])
  else if c = '\'' ∨ c = '\n' ∨ c = '\r' then none
  else some (.plain, pointUnits c.toNat)

/-- Reads the character behind a backslash. The end of a line is left out; what is no escape stands for
itself. A class is strict code, which has no escapes by octal digits. -/
def stepEscape (c : Char) : Option (Place × List Nat) :=
  if c = 'x' then some (.digits 1 0, [])
  else if c = 'u' then some (.unicode, [])
  else if c = '0' then some (.zero, [0])
  else if '0' ≤ c ∧ c ≤ '9' then none
  else if c = '\r' then some (.continued, [])
  else if isLineTerminator c then some (.plain, [])
  else some (.plain, ((controls.lookup c).map fun n => [n]).getD (pointUnits c.toNat))

/-- Reads a digit of `\xHH` or `\uHHHH`. -/
def stepDigit (value : Nat) (c : Char) : Nat → Option (Place × List Nat)
  | 0 => (Json.hexValue? c).map fun d => (.plain, [16 * value + d])
  | more + 1 => (Json.hexValue? c).map fun d => (.digits more (16 * value + d), [])

/-- Reads a digit in braces. The code point is not above the last one. -/
def stepPoint (value : Nat) (c : Char) : Option (Place × List Nat) :=
  ((Json.hexValue? c).map (16 * value + ·)).bind fun n =>
    if n ≤ 0x10ffff then some (.point n, []) else none

namespace Place

/-- Reads a character of a literal: the place behind it, and the units that are complete with it. -/
def step (p : Place) (c : Char) : Option (Place × List Nat) :=
  match p with
  | plain => stepPlain c
  | escape => stepEscape c
  | zero => if '0' ≤ c ∧ c ≤ '9' then none else stepPlain c
  | continued => if c = '\n' then some (.plain, []) else stepPlain c
  | digits more value => stepDigit value c more
  | unicode =>
    if c = '\x7b' then some (.brace, [])
    else (Json.hexValue? c).map fun d => (.digits 2 d, [])
  | brace => stepPoint 0 c
  | point value => if c = '\x7d' then some (.plain, pointUnits value) else stepPoint value c

/-- Whether a quote ends the literal. -/
def closes : Place → Bool
  | plain | zero | continued => true
  | _ => false

end Place

/-- The value of the rest of a literal, which ends with its quote. -/
def valueFrom? (p : Place) : List Char → Option (List Nat)
  | [] => none
  | c :: rest =>
    if p.closes = true ∧ c = '\'' then if rest = [] then some [] else none
    else (p.step c).bind fun (next, done) => (valueFrom? next rest).map (done ++ ·)

/-- The value of a text that is a literal between single quotes. -/
def literalValue? : List Char → Option (List Nat)
  | [] => none
  | c :: rest => if c = '\'' then valueFrom? .plain rest else none

/-- Literals on one line with a text for their value. -/
structure IsLiteralOf (source s : List Char) : Prop where
  oneLine : IsOneLine source
  value : literalValue? source = some (units s)

instance (source s : List Char) : Decidable (IsLiteralOf source s) :=
  decidable_of_iff (IsOneLine source ∧ literalValue? source = some (units s))
    ⟨fun ⟨hline, hvalue⟩ => ⟨hline, hvalue⟩, fun h => ⟨h.oneLine, h.value⟩⟩

example : literalValue? "'\\x41\\u{1f600}\\0\\\n\\q'".toList = some [0x41, 0xd83d, 0xde00, 0, 0x71] := by
  decide

example : literalValue? "'C:\\01'".toList = none := by decide

/-! ## Lines -/

variable {c : Char} {s t : List Char}

theorem isOneLine_cons : IsOneLine (c :: s) ↔ isLineTerminator c = false ∧ IsOneLine s :=
  List.forall_mem_cons

theorem isOneLine_append : IsOneLine (s ++ t) ↔ IsOneLine s ∧ IsOneLine t := List.forall_mem_append

theorem isOneLine_singleton (c : Char) : IsOneLine [c] ↔ isLineTerminator c = false :=
  List.forall_mem_singleton

theorem isOneLine_flatMap {f : Char → List Char}
    (hf : ∀ c, IsOneLine (f c) ↔ isLineTerminator c = false) (s : List Char) :
    IsOneLine (s.flatMap f) ↔ IsOneLine s := by
  induction s with
  | nil => exact Iff.rfl
  | cons c s ih => rw [List.flatMap_cons, isOneLine_append, isOneLine_cons, hf, ih]

theorem isOneLine_flatten (parts : List (List Char)) :
    IsOneLine parts.flatten ↔ ∀ part ∈ parts, IsOneLine part := List.forall_mem_flatten

/-- The number of line ends in a text; a carriage return in front of a line feed is one of its own. -/
def lineEnds (s : List Char) : Nat := s.countP isLineTerminator

theorem isOneLine_iff (s : List Char) : IsOneLine s ↔ lineEnds s = 0 := by
  simp [IsOneLine, lineEnds, List.countP_eq_zero]

/-! ## Units -/

theorem units_cons (c : Char) (s : List Char) : units (c :: s) = pointUnits c.toNat ++ units s :=
  List.flatMap_cons

theorem units_append (s t : List Char) : units (s ++ t) = units s ++ units t := List.flatMap_append

theorem length_pointUnits (n : Nat) :
    1 ≤ (pointUnits n).length ∧ (pointUnits n).length ≤ 2 := by
  unfold pointUnits
  split <;> simp

/-! ## Reading on -/

variable {p next : Place} {done value : List Nat}

/-- A character that does not end the literal is read. -/
theorem valueFrom?_cons (hopen : p.closes = true → c ≠ '\'') (rest : List Char) :
    valueFrom? p (c :: rest) =
      (p.step c).bind fun (next, done) => (valueFrom? next rest).map (done ++ ·) := by
  rw [valueFrom?, if_neg fun h => hopen h.1 h.2]

/-- What stands behind a backslash is read with it. -/
theorem valueFrom?_escape (h : stepEscape c = some (next, done)) (rest : List Char) :
    valueFrom? .plain ('\\' :: c :: rest) = (valueFrom? next rest).map (done ++ ·) := by
  have hslash : Place.plain.step '\\' = some (.escape, []) := by decide
  have hstep : Place.escape.step c = some (next, done) := h
  have hopen : Place.escape.closes = true → c ≠ '\'' := fun hcloses => Bool.noConfusion hcloses
  rw [valueFrom?_cons (by decide), hslash, Option.bind_some]
  dsimp only
  rw [valueFrom?_cons hopen, hstep, Option.bind_some, Option.map_map]
  rfl

/-! ## What a literal pays for -/

/-- Twice the units of a character; a quote and a backslash pay for half a unit only, for each of them
takes two characters in a literal. -/
def weight (c : Char) : Nat :=
  if c = '\'' ∨ c = '\\' then 1 else 2 * (pointUnits c.toNat).length

/-- The weight of a text. -/
def totalWeight : List Char → Nat
  | [] => 0
  | c :: rest => weight c + totalWeight rest

theorem totalWeight_append (s t : List Char) :
    totalWeight (s ++ t) = totalWeight s + totalWeight t := by
  induction s with
  | nil => exact (Nat.zero_add _).symm
  | cons c s ih => rw [List.cons_append, totalWeight, totalWeight, ih, Nat.add_assoc]

/-- What has been paid in an escape for units that are not complete. -/
def Place.credit : Place → Nat
  | escape => 1
  | point _ => 2
  | _ => 0

theorem one_le_weight (c : Char) : 1 ≤ weight c := by
  have hunits := length_pointUnits c.toNat
  unfold weight
  split <;> omega

theorem two_mul_length_le_weight (c : Char) : 2 * (pointUnits c.toNat).length ≤ weight c + 1 := by
  unfold weight
  split
  · rename_i h
    rcases h with rfl | rfl <;> decide
  · omega

theorem two_le_weight (hquote : c ≠ '\'') (hslash : c ≠ '\\') : 2 ≤ weight c := by
  have hunits := length_pointUnits c.toNat
  rw [weight, if_neg (by simp [hquote, hslash])]
  omega

/-- A hexadecimal digit pays for a unit. -/
theorem two_le_weight_of_hexValue? {d : Nat} (h : Json.hexValue? c = some d) : 2 ≤ weight c := by
  have hquote : Json.hexValue? '\'' = none := by decide
  have hslash : Json.hexValue? '\\' = none := by decide
  apply two_le_weight
  · rintro rfl
    rw [hquote] at h
    cases h
  · rintro rfl
    rw [hslash] at h
    cases h

theorem credit_stepPlain (h : stepPlain c = some (next, done)) :
    2 * done.length + next.credit ≤ weight c := by
  unfold stepPlain at h
  split at h
  · cases h
    exact one_le_weight c
  · split at h
    · cases h
    · rename_i hslash hquote
      cases h
      rw [weight, if_neg (not_or.2 ⟨(not_or.1 hquote).1, hslash⟩)]
      exact Nat.le_refl _

theorem credit_stepEscape (h : stepEscape c = some (next, done)) :
    2 * done.length + next.credit ≤ weight c + 1 := by
  have hpays := one_le_weight c
  unfold stepEscape at h
  split_ifs at h with hx hu hzero hdigit hreturn hend
  · cases h
    exact Nat.zero_le _
  · cases h
    exact Nat.zero_le _
  · cases h
    exact Nat.succ_le_succ hpays
  · cases h
    exact Nat.zero_le _
  · cases h
    exact Nat.zero_le _
  · cases h
    cases controls.lookup c with
    | none => exact two_mul_length_le_weight c
    | some n => exact Nat.succ_le_succ hpays

theorem credit_stepDigit {more n : Nat} (h : stepDigit n c more = some (next, done)) :
    2 * done.length + next.credit ≤ weight c := by
  cases more with
  | zero =>
    obtain ⟨d, hd, heq⟩ := Option.map_eq_some_iff.1 h
    cases heq
    exact two_le_weight_of_hexValue? hd
  | succ more =>
    obtain ⟨d, hd, heq⟩ := Option.map_eq_some_iff.1 h
    cases heq
    exact Nat.zero_le _

theorem credit_stepPoint {n : Nat} (h : stepPoint n c = some (next, done)) :
    2 * done.length + next.credit ≤ weight c := by
  obtain ⟨m, hm, heq⟩ := Option.bind_eq_some_iff.1 h
  obtain ⟨d, hd, rfl⟩ := Option.map_eq_some_iff.1 hm
  split at heq
  · cases heq
    exact two_le_weight_of_hexValue? hd
  · cases heq

/-- A character pays for the units that are complete with it and for the credit behind it. -/
theorem Place.credit_step (h : p.step c = some (next, done)) :
    2 * done.length + next.credit ≤ weight c + p.credit := by
  cases p with
  | plain => exact credit_stepPlain h
  | escape => exact credit_stepEscape h
  | zero =>
    rw [step] at h
    split at h
    · cases h
    · exact credit_stepPlain h
  | continued =>
    rw [step] at h
    split at h
    · cases h
      exact Nat.zero_le _
    · exact credit_stepPlain h
  | digits more value => exact credit_stepDigit h
  | unicode =>
    rw [step] at h
    split at h
    · cases h
      exact Nat.zero_le _
    · obtain ⟨d, -, heq⟩ := Option.map_eq_some_iff.1 h
      cases heq
      exact Nat.zero_le _
  | brace => exact credit_stepPoint h
  | point value =>
    rw [step] at h
    split at h
    · rename_i hbrace
      cases h
      have hunits := (length_pointUnits value).2
      have hpays : 2 ≤ weight c := by
        rw [hbrace]
        decide
      show 2 * (pointUnits value).length + 0 ≤ weight c + 2
      omega
    · have hstep := credit_stepPoint h
      omega

/-- A value has at most the units that its literal pays for; its last quote pays for none. -/
theorem two_mul_length_valueFrom? (h : valueFrom? p s = some value) :
    2 * value.length + 1 ≤ totalWeight s + p.credit := by
  -- the place is general, for its credit carries over what an escape has been paid so far
  induction s generalizing p value with
  | nil => cases h
  | cons c rest ih =>
    rw [valueFrom?] at h
    split at h
    · split at h
      · cases h
        have hpays := one_le_weight c
        rw [totalWeight, List.length_nil]
        omega
      · cases h
    · obtain ⟨⟨next, done⟩, hstep, hrest⟩ := Option.bind_eq_some_iff.1 h
      obtain ⟨value, hvalue, rfl⟩ := Option.map_eq_some_iff.1 hrest
      have hread := Place.credit_step hstep
      have hbehind := ih hvalue
      rw [totalWeight, List.length_append]
      omega

end Wireframe.Literal
