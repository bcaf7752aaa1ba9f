import Wireframe.Json.Basic
import Wireframe.Json.Display
import Wireframe.Json.Reader
import Wireframe.Number.Decimal

/-!
# Writing JSON

`Json.indented` writes a value, two blanks deeper for each level, one item or field to a line; empty
arrays and objects stay on their line. Texts are written in ASCII. `Json.sortKeys` puts the fields of
every object into the order of their keys. `Json.writeExcess?` says whether there is too much in a value
to write it at all.
-/

namespace Wireframe.Json

/-- Doubles in written JSON. -/
def writtenFloat : FloatStyle := FloatStyle.plain "NaN" "Infinity"

/-- A 16-bit unit as an escape. -/
def unitEscape (n : Nat) : List Char := '\\' :: 'u' :: Text.hexDigits 4 n

/-- One character inside a written string. -/
def writtenChar (c : Char) : List Char :=
  if c == '"' then ['\\', '"']
  else if c == '\\' then ['\\', '\\']
  else if c == '\n' then ['\\', 'n']
  else if c == '\r' then ['\\', 'r']
  else if c == '\t' then ['\\', 't']
  else if c == '\x08' then ['\\', 'b']
  else if c == '\x0c' then ['\\', 'f']
  else if 32 ≤ c.toNat && c.toNat < 127 then [c]
  else if c.toNat < 0x10000 then unitEscape c.toNat
  else
    unitEscape (0xd800 + (c.toNat - 0x10000) / 0x400) ++
      unitEscape (0xdc00 + (c.toNat - 0x10000) % 0x400)

/-- Half of a surrogate pair inside a written string. Two halves in a row would be read as one character;
no text that is read has them, and the first of them is left as it is. -/
def writtenHalf (c : Char) (rest : List Char) : List Char :=
  if Text.isHighSurrogate (Text.codeOf c) && rest.head?.any fun d => Text.isLowSurrogate (Text.codeOf d)
  then [c] else unitEscape (Text.codeOf c)

/-- What stands between the quotes of a written string. -/
def writtenText : List Char → List Char
  | [] => []
  | c :: rest => (if Text.isHalf c then writtenHalf c rest else writtenChar c) ++ writtenText rest

def writtenString (s : List Char) : List Char := '"' :: (writtenText s ++ ['"'])

def newLine (depth : Nat) : List Char := '\n' :: List.replicate (2 * depth) ' '

mutual

/-- Writes a value whose first line stands at a depth. -/
def indentedAt (depth : Nat) : Json → List Char
  | null => "null".toList
  | bool b => (if b then "true" else "false").toList
  | int n => (toString n).toList
  | float x => (writtenFloat.render x).toList
  | str s => writtenString s.toList
  | arr items =>
    match items with
    | [] => ['[', ']']
    | _ => '[' :: (itemLines (depth + 1) items ++ newLine depth ++ [']'])
  | obj fields =>
    match fields with
    | [] => ['\x7b', '\x7d']
    | _ => '\x7b' :: (fieldLines (depth + 1) fields ++ newLine depth ++ ['\x7d'])

def itemLines (depth : Nat) : List Json → List Char
  | [] => []
  | [v] => newLine depth ++ indentedAt depth v
  | v :: rest => newLine depth ++ indentedAt depth v ++ ',' :: itemLines depth rest

def fieldLines (depth : Nat) : List (String × Json) → List Char
  | [] => []
  | [(k, v)] => newLine depth ++ writtenString k.toList ++ ':' :: ' ' :: indentedAt depth v
  | (k, v) :: rest =>
    newLine depth ++ writtenString k.toList ++ ':' :: ' ' :: indentedAt depth v ++
      ',' :: fieldLines depth rest

end

/-- The indented text of a value. -/
def indented (v : Json) : String := String.ofList (indentedAt 0 v)

/-! ## Bounds -/

/-- What a value has more of than is written. -/
inductive WriteExcess where
  /-- An integer with too many digits. -/
  | digits
  /-- A container inside too many others. -/
  | depth
  deriving DecidableEq, Repr

def WriteExcess.message : WriteExcess → String
  | digits =>
    s!"Exceeds the limit ({maxDigits} digits) for integer string conversion; " ++
      "use sys.set_int_max_str_digits() to increase the limit"
  | depth => "maximum recursion depth exceeded"

/-- The least natural number with too many digits. -/
def digitBound : Nat := Nat.pow 10 maxDigits

/-- The most containers inside one another that are written. -/
def maxWrittenDepth : Nat := 490

mutual

/-- The first thing that keeps a value from being written, when containers may still be nested
`depth` deep. -/
def writeExcess? (depth : Nat) : Json → Option WriteExcess
  | int n => if digitBound ≤ n.natAbs then some .digits else none
  | arr items =>
    match depth with
    | 0 => some .depth
    | depth + 1 => writeExcessOfItems? depth items
  | obj fields =>
    match depth with
    | 0 => some .depth
    | depth + 1 => writeExcessOfFields? depth fields
  | _ => none

/-- `writeExcess?` of the first item that has any. -/
def writeExcessOfItems? (depth : Nat) : List Json → Option WriteExcess
  | [] => none
  | v :: rest => (writeExcess? depth v).or (writeExcessOfItems? depth rest)

/-- `writeExcess?` of the first field that has any. -/
def writeExcessOfFields? (depth : Nat) : List (String × Json) → Option WriteExcess
  | [] => none
  | (_, v) :: rest => (writeExcess? depth v).or (writeExcessOfFields? depth rest)

end

/-! ## The order of keys -/

mutual

/-- A value with the fields of every object in the order of their keys. -/
def sortKeys : Json → Json
  | arr items => arr (sortKeysOfItems items)
  | obj fields => obj ((sortKeysOfFields fields).mergeSort fun a b => textLE a.1 b.1)
  | v => v

/-- `sortKeys` of every item. -/
def sortKeysOfItems : List Json → List Json
  | [] => []
  | v :: rest => sortKeys v :: sortKeysOfItems rest

/-- `sortKeys` of every field's value. -/
def sortKeysOfFields : List (String × Json) → List (String × Json)
  | [] => []
  | (k, v) :: rest => (k, sortKeys v) :: sortKeysOfFields rest

end

end Wireframe.Json
