import Wireframe.Json.Basic
import Wireframe.Number.Decimal
import Wireframe.Text.Encoding
import Wireframe.Text.Search

/-!
# Reading JSON

`Json.read` reads one value from a whole text. Beyond the standard it takes `NaN`, `Infinity` and
`-Infinity`; of a repeated key the first place and the last value are kept. Integers of too many
digits and values nested too deeply are not read. A reading function answers the value with the text
after it, or why and before which text it stopped.

* `ReadFault.message` — the cause with its line, column and offset, counted in code points.
* `Excess.message` — what there was too much of.
-/

namespace Wireframe.Json

/-- Why reading stopped. -/
inductive ReadCause where
  | expectingValue
  | extraData
  | expectingKey
  | expectingColon
  | expectingComma
  | unterminatedString
  | controlCharacter
  | badEscape
  | badUnicodeEscape
  | byteOrderMark
  deriving DecidableEq, Repr

def ReadCause.wording : ReadCause → String
  | expectingValue => "Expecting value"
  | extraData => "Extra data"
  | expectingKey => "Expecting property name enclosed in double quotes"
  | expectingColon => "Expecting ':' delimiter"
  | expectingComma => "Expecting ',' delimiter"
  | unterminatedString => "Unterminated string starting at"
  | controlCharacter => "Invalid control character at"
  | badEscape => "Invalid \\escape"
  | badUnicodeEscape => "Invalid \\uXXXX escape"
  | byteOrderMark => "Unexpected UTF-8 BOM (decode using utf-8-sig)"

/-- What holds other values. -/
inductive Container where
  | array
  | object
  deriving DecidableEq, Repr

def Container.name : Container → String
  | array => "array"
  | object => "object"

/-- What a text has more of than is read. -/
inductive Excess where
  /-- An integer with so many digits. -/
  | digits (count : Nat)
  /-- A container inside too many others. -/
  | depth (innermost : Container)
  deriving DecidableEq, Repr

/-- The most digits of an integer. -/
def maxDigits : Nat := 4300

/-- The most containers inside one another. -/
def maxDepth : Nat := 980

def Excess.message : Excess → String
  | digits count =>
    s!"Exceeds the limit ({maxDigits} digits) for integer string conversion: " ++
      s!"value has {count} digits; use sys.set_int_max_str_digits() to increase the limit"
  | depth innermost =>
    let kind := innermost.name
    s!"maximum recursion depth exceeded while decoding a JSON {kind} from a unicode string"

/-- Why and before which text reading stopped. -/
inductive Stop where
  | malformed (cause : ReadCause) (rest : List Char)
  | excess (e : Excess)
  deriving DecidableEq, Repr

/-- A cause and the number of characters read before it. -/
structure ReadFault where
  cause : ReadCause
  /-- What was read before the fault. -/
  before : List Char
  deriving DecidableEq, Repr

/-- Why a text could not be read. -/
inductive ReadFailure where
  | malformed (f : ReadFault)
  | excess (e : Excess)
  deriving DecidableEq, Repr

/-- How many characters lie before the fault. -/
def ReadFault.offset (f : ReadFault) : Nat := f.before.length

/-- The cause with its place. -/
def ReadFault.message (f : ReadFault) : String :=
  let line := f.before.count '\n' + 1
  let column := (f.before.reverse.takeWhile (· != '\n')).length + 1
  s!"{f.cause.wording}: line {line} column {column} (char {f.offset})"

/-- The blanks that JSON allows between tokens. -/
def isGap (c : Char) : Bool := c == ' ' || c == '\t' || c == '\n' || c == '\r'

/-- Drops the blanks at the start of a text. -/
def skipGap (s : List Char) : List Char := s.dropWhile isGap

/-- The value of a hexadecimal digit. -/
def hexValue? (c : Char) : Option Nat :=
  if '0' ≤ c && c ≤ '9' then some (c.toNat - 48)
  else if 'a' ≤ c && c ≤ 'f' then some (c.toNat - 87)
  else if 'A' ≤ c && c ≤ 'F' then some (c.toNat - 55)
  else none

/-- The number of four hexadecimal digits that some further character follows. -/
def hexFour? : List Char → Option Nat
  | a :: b :: c :: d :: _ :: _ => do
    let a ← hexValue? a
    let b ← hexValue? b
    let c ← hexValue? c
    let d ← hexValue? d
    some (((a * 16 + b) * 16 + c) * 16 + d)
  | _ => none

/-- The character that a letter after a backslash stands for. -/
def simpleEscape? : Char → Option Char
  | '"' => some '"'
  | '\\' => some '\\'
  | '/' => some '/'
  | 'b' => some '\x08'
  | 'f' => some '\x0c'
  | 'n' => some '\n'
  | 'r' => some '\r'
  | 't' => some '\t'
  | _ => none

/-- A character read from an escape, and how many characters after the `u` it takes. -/
def unicodeEscape (digits : List Char) : Option (Char × Nat) := do
  let first ← hexFour? digits
  match Text.isHighSurrogate first, digits.drop 4 with
  | true, '\\' :: 'u' :: more =>
    match hexFour? more with
    | some second =>
      if Text.isLowSurrogate second then some (Text.charOfPair first second, 10)
      else some (Text.charOfCode first, 4)
    | none => some (Text.charOfCode first, 4)
  | _, _ => some (Text.charOfCode first, 4)

/-- Reads the characters of a string up to its closing quote. `opening` is the text from the opening
quote on; the first `skip` characters belong to an escape already read. -/
def stringBody (opening : List Char) : Nat → List Char → Except Stop (List Char × List Char)
  | _, [] => .error (.malformed .unterminatedString opening)
  | skip + 1, _ :: rest => stringBody opening skip rest
  | 0, c :: rest =>
    if c = '"' then .ok ([], rest)
    else if c.toNat < 0x20 then .error (.malformed .controlCharacter (c :: rest))
    else if c ≠ '\\' then
      (stringBody opening 0 rest).map fun (text, after) => (c :: text, after)
    else
      match rest with
      | [] => .error (.malformed .unterminatedString opening)
      | 'u' :: digits =>
        match unicodeEscape digits with
        | none => .error (.malformed .badUnicodeEscape rest)
        | some (d, width) =>
          (stringBody opening (width + 1) rest).map fun (text, after) => (d :: text, after)
      | e :: _ =>
        match simpleEscape? e with
        | none => .error (.malformed .badEscape (c :: rest))
        | some d => (stringBody opening 1 rest).map fun (text, after) => (d :: text, after)

/-- Reads a string whose opening quote is the first character of `opening`. -/
def string (opening : List Char) : Except Stop (String × List Char) :=
  (stringBody opening 0 opening.tail).map fun (text, after) => (String.ofList text, after)

/-- The value of decimal digits. -/
def digitsValue (digits : List Char) : Nat := digits.foldl (fun n c => 10 * n + (c.toNat - 48)) 0

/-- The digits after a decimal point, if the text has a point with a digit after it. -/
def fraction? : List Char → Option (List Char × List Char)
  | '.' :: c :: rest =>
    if c.isDigit then some ((c :: rest).takeWhile Char.isDigit, (c :: rest).dropWhile Char.isDigit)
    else none
  | _ => none

/-- The exponent, if the text has an exponent mark with digits after it. -/
def exponent? : List Char → Option (Int × List Char)
  | mark :: rest =>
    if mark = 'e' ∨ mark = 'E' then
      let (negative, body) : Bool × List Char :=
        match rest with
        | '-' :: body => (true, body)
        | '+' :: body => (false, body)
        | _ => (false, rest)
      let digits := body.takeWhile Char.isDigit
      if digits = [] then none
      else
        let n : Int := digitsValue digits
        some (if negative then -n else n, body.dropWhile Char.isDigit)
    else none
  | [] => none

/-- The digits of a whole number: a zero on its own, or digits of which the first is no zero. -/
def wholeDigits : List Char → List Char × List Char
  | '0' :: rest => (['0'], rest)
  | s => (s.takeWhile Char.isDigit, s.dropWhile Char.isDigit)

/-- Reads a number; one with a fraction or an exponent is a double. -/
def number (s : List Char) : Except Stop (Json × List Char) :=
  let (negative, body) : Bool × List Char :=
    match s with
    | '-' :: rest => (true, rest)
    | _ => (false, s)
  match wholeDigits body with
  | ([], _) => .error (.malformed .expectingValue s)
  | (whole, rest) =>
    let (decimals, rest, hasPoint) : List Char × List Char × Bool :=
      match fraction? rest with
      | some (decimals, rest) => (decimals, rest, true)
      | none => ([], rest, false)
    match exponent? rest, hasPoint with
    | some (e, rest), _ =>
      .ok (.float (.ofDecimal negative (digitsValue (whole ++ decimals)) (e - decimals.length)), rest)
    | none, true =>
      .ok (.float (.ofDecimal negative (digitsValue (whole ++ decimals)) (-decimals.length)), rest)
    | none, false =>
      if maxDigits < whole.length then .error (.excess (.digits whole.length))
      else
        let n : Int := digitsValue whole
        .ok (.int (if negative then -n else n), rest)

/-- The words of JSON and their values. -/
def literals : List (List Char × Json) := [
  ("null".toList, .null), ("true".toList, .bool true), ("false".toList, .bool false),
  ("NaN".toList, .float .nan), ("Infinity".toList, .float (.infinity false)),
  ("-Infinity".toList, .float (.infinity true))]

/-- Reads one of the words. -/
def literal? (s : List Char) : Option (Json × List Char) :=
  literals.findSome? fun (word, v) => (Text.dropLead? word s).map fun rest => (v, rest)

mutual

/-- Reads a value inside which containers may still be nested `depth` deep. The fuel bounds the
number of values. -/
def value : Nat → Nat → List Char → Except Stop (Json × List Char)
  | 0, _, s => .error (.malformed .expectingValue s)
  | fuel + 1, depth, s =>
    match s, depth with
    | [], _ => .error (.malformed .expectingValue [])
    | '"' :: _, _ => (string s).map fun (text, rest) => (.str text, rest)
    | '\x7b' :: _, 0 => .error (.excess (.depth .object))
    | '\x7b' :: rest, depth + 1 =>
      match skipGap rest with
      | '\x7d' :: after => .ok (.obj [], after)
      | body => (members fuel depth [] body).map fun (fields, after) => (.obj fields, after)
    | '[' :: _, 0 => .error (.excess (.depth .array))
    | '[' :: rest, depth + 1 =>
      match skipGap rest with
      | ']' :: after => .ok (.arr [], after)
      | body => (elements fuel depth body).map fun (items, after) => (.arr items, after)
    | _, _ =>
      match literal? s with
      | some read => .ok read
      | none => number s

/-- Reads the remaining fields of an object after those in `fields`. -/
def members : Nat → Nat → Fields → List Char → Except Stop (Fields × List Char)
  | 0, _, _, s => .error (.malformed .expectingKey s)
  | fuel + 1, depth, fields, s =>
    match s with
    | '"' :: _ => do
      let (key, rest) ← string s
      match skipGap rest with
      | ':' :: rest =>
        let (v, rest) ← value fuel depth (skipGap rest)
        match skipGap rest with
        | '\x7d' :: after => .ok (fields.set key v, after)
        | ',' :: rest => members fuel depth (fields.set key v) (skipGap rest)
        | rest => .error (.malformed .expectingComma rest)
      | rest => .error (.malformed .expectingColon rest)
    | _ => .error (.malformed .expectingKey s)

/-- Reads the items of an array up to its end. -/
def elements : Nat → Nat → List Char → Except Stop (List Json × List Char)
  | 0, _, s => .error (.malformed .expectingValue s)
  | fuel + 1, depth, s => do
    let (v, rest) ← value fuel depth s
    match skipGap rest with
    | ']' :: after => .ok ([v], after)
    | ',' :: rest =>
      let (items, after) ← elements fuel depth (skipGap rest)
      .ok (v :: items, after)
    | rest => .error (.malformed .expectingComma rest)

end

/-- Reads one value from a whole text, with blanks before and after it. -/
def readWhole (s : List Char) : Except Stop Json :=
  match s with
  | '\uFEFF' :: _ => .error (.malformed .byteOrderMark s)
  | _ => do
    let (v, rest) ← value (2 * s.length + 2) maxDepth (skipGap s)
    match skipGap rest with
    | [] => .ok v
    | rest => .error (.malformed .extraData rest)

/-- Reads one value from a whole text; a fault knows what was read before it. -/
def read (s : List Char) : Except ReadFailure Json :=
  match readWhole s with
  | .ok v => .ok v
  | .error (.malformed cause rest) => .error (.malformed ⟨cause, s.take (s.length - rest.length)⟩)
  | .error (.excess e) => .error (.excess e)

end Wireframe.Json
