import Wireframe.Failure
import Wireframe.Json.Display
import Wireframe.Number.Decimal
import Wireframe.Text.Case

/-!
# Messages with placeholders

A placeholder is a percent sign, perhaps a key in parentheses, flags, a width, a precision, and a
letter that says how a value is written. `fillMessage` replaces the placeholders of a message by
values: by those that their keys name, or one after another.

* `Placeholder.write?` — a value as one letter writes it.
* `takePlaceholder` — a placeholder with what it takes from the values.
-/

namespace Wireframe

/-- How a value is fitted in. -/
structure Placeholder where
  leftAligned : Bool := false
  /-- A number that is not negative has a plus sign … -/
  hasPlus : Bool := false
  /-- … or a blank in its place. -/
  hasBlank : Bool := false
  /-- Numbers show their base, and keep their point and its zeros. -/
  isExplicit : Bool := false
  zeroFilled : Bool := false
  width : Nat := 0
  precision : Option Nat := none
  deriving DecidableEq, Repr

namespace Placeholder

/-! ## Fitting in -/

/-- A text brought to the width of a placeholder. -/
def fit (p : Placeholder) (text : List Char) : List Char :=
  let gap := List.replicate (p.width - text.length) ' '
  if p.leftAligned then text ++ gap else gap ++ text

/-- The sign of a number. -/
def signOf (p : Placeholder) (negative : Bool) : List Char :=
  if negative then ['-'] else if p.hasPlus then ['+'] else if p.hasBlank then [' '] else []

/-- A number brought to the width of a placeholder: zeros are filled in behind what leads it. -/
def fitNumber (p : Placeholder) (lead digits : List Char) : List Char :=
  if p.zeroFilled && !p.leftAligned then
    lead ++ List.replicate (p.width - lead.length - digits.length) '0' ++ digits
  else p.fit (lead ++ digits)

/-- A text cut to the precision of a placeholder. -/
def fitText (p : Placeholder) (text : List Char) : List Char :=
  p.fit (match p.precision with | some n => text.take n | none => text)

/-! ## Integers -/

/-- The base in which a letter writes integers. -/
def baseOf (letter : Char) : Nat :=
  if letter == 'o' then 8 else if letter == 'x' || letter == 'X' then 16 else 10

def baseMark (letter : Char) : List Char :=
  if letter == 'o' || letter == 'x' || letter == 'X' then ['0', letter] else []

/-- The integer that a letter writes of a value: of a double, its integer part in base ten. -/
def integerOf (letter : Char) : Json → Except Failure Int
  | .int n => .ok n
  | .bool b => .ok (if b then 1 else 0)
  | .float x =>
    if baseOf letter = 10 then
      match x.trunc? with
      | some n => .ok n
      | none => .error (match x with | .nan => .nanToInteger | _ => .infinityToInteger)
    else .error (.placeholder (.notInteger letter "float"))
  | v =>
    .error (.placeholder
      (if baseOf letter = 10 then .notNumber letter v.typeName else .notInteger letter v.typeName))

/-- An integer in the base of a letter. -/
def writeInteger (p : Placeholder) (letter : Char) (n : Int) : List Char :=
  let digits := Nat.toDigits (baseOf letter) n.natAbs
  let digits := List.replicate (p.precision.getD 0 - digits.length) '0' ++ digits
  let digits := if letter == 'X' then digits.map Text.upperAscii else digits
  p.fitNumber (p.signOf (n < 0) ++ if p.isExplicit then baseMark letter else []) digits

/-! ## Doubles -/

/-- The double that a value is. -/
def realOf : Json → Except Failure Binary64
  | .float x => .ok x
  | .bool b => .ok (Binary64.ofInt (if b then 1 else 0))
  | .int n =>
    let x := Binary64.ofInt n
    if x.isFinite then .ok x else .error .integerTooLarge
  | v => .error (.placeholder (.notReal v.typeName))

/-- Digits with a point before the last of them, and without one where there is none to follow it
unless that is asked for. -/
def withPoint (isExplicit : Bool) (whole decimals : List Char) : List Char :=
  whole ++ if decimals.isEmpty && !isExplicit then [] else '.' :: decimals

def withExponent (isExplicit : Bool) (d : DecimalDigits) : List Char :=
  withPoint isExplicit (d.digits.take 1) (d.digits.drop 1) ++
    'e' :: (FloatStyle.plain "nan" "inf").exponentText (d.point - 1)

/-- Digits with a point in its place. -/
def withoutExponent (isExplicit : Bool) (d : DecimalDigits) : List Char :=
  if d.point ≤ 0 then
    withPoint isExplicit ['0']
      (if d.digits.isEmpty then [] else List.replicate d.point.natAbs '0' ++ d.digits)
  else
    let whole := d.point.toNat
    withPoint isExplicit (d.digits.take whole ++ List.replicate (whole - d.digits.length) '0')
      (d.digits.drop whole)

/-- A quotient with so many significant digits at most, with an exponent where it is very large or very
small. -/
def writeGeneral (isExplicit : Bool) (count num den : Nat) : List Char :=
  let d := significantDigits count num den
  let kept : DecimalDigits := if isExplicit then d else ⟨trimZeros d.digits, d.point⟩
  if -3 ≤ d.point && d.point ≤ (count : Int) then
    if num = 0 && !isExplicit then ['0'] else withoutExponent isExplicit kept
  else withExponent isExplicit kept

/-- The magnitude of a finite double as a letter writes it. -/
def writeMagnitude (p : Placeholder) (letter : Char) (num den : Nat) : List Char :=
  let precision := p.precision.getD 6
  if letter == 'f' then
    (fixedPlaces precision false num den).toList ++ if precision = 0 && p.isExplicit then ['.'] else []
  else if letter == 'e' then withExponent p.isExplicit (significantDigits (precision + 1) num den)
  else writeGeneral p.isExplicit (max 1 precision) num den

/-- A double as a letter writes it; capital letters write capital letters. -/
def writeReal (p : Placeholder) (letter : Char) (x : Binary64) : List Char :=
  let small := Text.lowerAscii letter
  let body :=
    match x with
    | .nan => "nan".toList
    | .infinity _ => "inf".toList
    | .finite _ m e => p.writeMagnitude small (Binary64.ratio m e).1 (Binary64.ratio m e).2
  p.fitNumber (p.signOf x.isNegative) (if small == letter then body else body.map Text.upperAscii)

/-! ## Texts -/

/-- A character in ASCII: itself or an escape. -/
def asciiChar (c : Char) : List Char :=
  if c.toNat < 128 then [c]
  else if c.toNat < 0x100 then '\\' :: 'x' :: Text.hexDigits 2 c.toNat
  else if c.toNat < 0x10000 then '\\' :: 'u' :: Text.hexDigits 4 c.toNat
  else '\\' :: 'U' :: Text.hexDigits 8 c.toNat

/-- The character that a value is or has the number of. -/
def characterOf (v : Json) : Except Failure Char :=
  let ofCode (n : Int) : Except Failure Char :=
    if 0 ≤ n && n ≤ 0x10ffff then .ok (Text.charOfCode n.toNat)
    else .error (.placeholder .noSuchCharacter)
  match v with
  | .int n => ofCode n
  | .bool b => ofCode (if b then 1 else 0)
  | .str s =>
    match s.toList with
    | [c] => .ok c
    | _ => .error (.placeholder .notCharacter)
  | _ => .error (.placeholder .notCharacter)

/-- A value as a letter writes it; none when the letter writes nothing. -/
def write? (p : Placeholder) (letter : Char) (v : Json) : Option (Except Failure (List Char)) :=
  if letter == 's' then some (.ok (p.fitText v.display.toList))
  else if letter == 'r' then some (.ok (p.fitText v.shown))
  else if letter == 'a' then some (.ok (p.fitText (v.shown.flatMap asciiChar)))
  else if letter == 'c' then some ((characterOf v).map fun c => p.fit [c])
  else if "diuoxX".toList.contains letter then some ((integerOf letter v).map (p.writeInteger letter))
  else if "eEfFgG".toList.contains letter then some ((realOf v).map (p.writeReal letter))
  else none

end Placeholder

/-! ## Values -/

/-- The values for placeholders. -/
structure Supply where
  /-- The values by their keys, if they have keys. -/
  keyed : Option Fields
  /-- The values that are taken one after another. -/
  rest : List Json

namespace Supply

/-- Values as they are given. An object on its own that is not empty gives its fields by their keys,
and itself where there is no key. -/
def ofValues : List Json → Supply
  | [.obj (first :: fields)] => ⟨some (first :: fields), [.obj (first :: fields)]⟩
  | values => ⟨none, values⟩

/-- The next value, and the supply after it. -/
def take (s : Supply) : Except Failure (Json × Supply) :=
  match s.rest with
  | [] => .error (.placeholder .tooFewValues)
  | v :: rest => .ok (v, { s with rest })

/-- The next value as an integer, and the supply after it. -/
def takeInteger (s : Supply) : Except Failure (Int × Supply) := do
  match ← s.take with
  | (.int n, s) => .ok (n, s)
  | (.bool b, s) => .ok (if b then 1 else 0, s)
  | _ => .error (.placeholder .starNotInteger)

/-- The supply of the value of a key alone. -/
def choose (s : Supply) (key : String) : Except Failure Supply :=
  match s.keyed with
  | none => .error (.placeholder .noKeys)
  | some fields =>
    match fields.get? key with
    | some v => .ok { s with rest := [v] }
    | none => .error (.placeholder (.missingKey key))

/-- Whether values are left that had to be taken. -/
def isOpen (s : Supply) : Bool := s.keyed.isNone && !s.rest.isEmpty

end Supply

/-! ## Reading placeholders -/

/-- The key up to the parenthesis that closes it, with so many open inside, and what follows. -/
def keyWithin : Nat → List Char → Option (List Char × List Char)
  | _, [] => none
  | 0, ')' :: rest => some ([], rest)
  | depth + 1, ')' :: rest => (keyWithin depth rest).map fun (key, after) => (')' :: key, after)
  | depth, '(' :: rest => (keyWithin (depth + 1) rest).map fun (key, after) => ('(' :: key, after)
  | depth, c :: rest => (keyWithin depth rest).map fun (key, after) => (c :: key, after)

/-- The supply for a placeholder that may begin with a key, and what follows the key. -/
def takeKey (supply : Supply) : List Char → Except Failure (Supply × List Char)
  | '(' :: rest =>
    if supply.keyed.isNone then .error (.placeholder .noKeys)
    else
      match keyWithin 0 rest with
      | none => .error (.placeholder .unclosedKey)
      | some (key, after) => do .ok (← supply.choose (String.ofList key), after)
  | s => .ok (supply, s)

/-- The flags at the start of a text, and what follows them. -/
def takeFlags (p : Placeholder) : List Char → Placeholder × List Char
  | '-' :: rest => takeFlags { p with leftAligned := true } rest
  | '+' :: rest => takeFlags { p with hasPlus := true } rest
  | ' ' :: rest => takeFlags { p with hasBlank := true } rest
  | '#' :: rest => takeFlags { p with isExplicit := true } rest
  | '0' :: rest => takeFlags { p with zeroFilled := true } rest
  | s => (p, s)

/-- The number at the start of a text or, for a star, the next value; then what is left of both. Its
magnitude stays below a bound; `fault` is what is wrong with digits that do not. -/
def takeNumber (bound : Nat) (fault : PlaceholderFault) (supply : Supply) :
    List Char → Except Failure (Option Int × Supply × List Char)
  | '*' :: rest => do
    let (n, supply) ← supply.takeInteger
    if bound ≤ n.natAbs then .error (.placeholder .starTooLarge) else .ok (some n, supply, rest)
  | s =>
    match s.takeWhile Char.isDigit with
    | [] => .ok (none, supply, s)
    | digits =>
      let n := Json.digitsValue digits
      if bound ≤ n then .error (.placeholder fault)
      else .ok (some (n : Int), supply, s.dropWhile Char.isDigit)

/-- The width from which on a text is too long to be held. -/
def widthBound : Nat := Nat.pow 2 32

/-- The width at the start of a text; one below zero aligns to the left. -/
def takeWidth (p : Placeholder) (supply : Supply) (s : List Char) :
    Except Failure (Placeholder × Supply × List Char) := do
  let (width, supply, rest) ← takeNumber (Nat.pow 2 63) .tooWide supply s
  let n := width.getD 0
  if widthBound ≤ n.natAbs then .error (.placeholder .noRoom)
  else .ok ({ p with leftAligned := p.leftAligned || n < 0, width := n.natAbs }, supply, rest)

/-- The precision at the start of a text: after a point, a number that is zero unless given. -/
def takePrecision (p : Placeholder) (supply : Supply) :
    List Char → Except Failure (Placeholder × Supply × List Char)
  | '.' :: s => do
    let (precision, supply, rest) ← takeNumber (Nat.pow 2 31) .tooPrecise supply s
    .ok ({ p with precision := some (precision.getD 0).toNat }, supply, rest)
  | s => .ok (p, supply, s)

/-- A text without a letter that says how large an integer is. -/
def dropSize : List Char → List Char
  | c :: rest => if c == 'h' || c == 'l' || c == 'L' then rest else c :: rest
  | [] => []

/-- A placeholder without its percent sign: what it becomes, and what is left of the values and of the
text. -/
def takePlaceholder (supply : Supply) (s : List Char) :
    Except Failure (List Char × Supply × List Char) := do
  let (supply, s) ← takeKey supply s
  let (p, s) := takeFlags {} s
  let (p, supply, s) ← takeWidth p supply s
  let (p, supply, s) ← takePrecision p supply s
  match dropSize s with
  | [] => .error (.placeholder .unfinished)
  | letter :: rest =>
    let (v, supply) ← supply.take
    match p.write? letter v with
    | some text => .ok (← text, supply, rest)
    | none => .error (.placeholder (.unknownLetter letter))

/-- Fills as many placeholders of a text as the bound allows for. Two percent signs stand for one. -/
def fillWithin : Nat → Supply → List Char → Except Failure (List Char)
  | 0, _, s => .ok s
  | _, supply, [] => if supply.isOpen then .error (.placeholder .tooManyValues) else .ok []
  | n + 1, supply, '%' :: '%' :: s => do .ok ('%' :: (← fillWithin n supply s))
  | n + 1, supply, '%' :: s => do
    let (text, supply, rest) ← takePlaceholder supply s
    .ok (text ++ (← fillWithin n supply rest))
  | n + 1, supply, c :: rest => do .ok (c :: (← fillWithin n supply rest))

/-- A message with its placeholders filled. Without values a message is left as it stands. -/
def fillMessage (message : String) (values : List Json) : Except Failure String :=
  if values.isEmpty then .ok message
  else (fillWithin (message.length + 1) (.ofValues values) message.toList).map String.ofList

end Wireframe
