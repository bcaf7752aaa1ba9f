import Wireframe.Schema.Issue
import Wireframe.Json.Reader
import Wireframe.Text.Lines
import Wireframe.Text.Case

/-!
# Typed reading of JSON values

A reader takes a value to what it means or to every issue found in it; the readers of an object's
fields are combined so that the issues of all fields are reported, in the order of the fields.

* `required`, `optional` — a field under the first of its names that is present.
* `listOf` — every item of an array.
* `text`, `int`, `bool`, `number`, `oneOf` — single values. Texts are taken as they are; integers,
  truth values and numbers are also read from texts that spell them. Where anything is asked of a text,
  it must not be torn.
-/

namespace Wireframe.Schema

/-- A value, or the issues that stand in its way. -/
abbrev Checked (α : Type) := Except (List Issue) α

/-- Reads a value of some type. -/
abbrev Reader (α : Type) := Json → Checked α

/-- A single issue with the value at hand. -/
def issue {α : Type} (kind : IssueKind) (input : Json) : Checked α := .error [⟨kind, [], input⟩]

/-- Two results; the issues of both when either has any. -/
def both {α β : Type} (a : Checked α) (b : Checked β) : Checked (α × β) :=
  match a, b with
  | .ok x, .ok y => .ok (x, y)
  | .ok _, .error more => .error more
  | .error issues, .ok _ => .error issues
  | .error issues, .error more => .error (issues ++ more)

/-- Moves issues one step deeper. -/
def under {α : Type} (step : PathStep) (result : Checked α) : Checked α :=
  result.mapError fun issues => issues.map fun i => { i with path := step :: i.path }

/-- The first of the names that is present, with its value. -/
def lookupAny (fields : Fields) (names : List String) : Option (String × Json) :=
  names.findSome? fun name => (fields.get? name).map fun v => (name, v)

/-- A field that must be present. The names are tried in order; the first is the one reported when
all are absent. -/
def required {α : Type} (fields : Fields) (names : List String) (read : Reader α) : Checked α :=
  match lookupAny fields names with
  | some (name, v) => under (.field name) (read v)
  | none => .error [⟨.missing, (names.take 1).map .field, .obj fields⟩]

def optional {α : Type} (fields : Fields) (names : List String) (default : α) (read : Reader α) :
    Checked α :=
  match lookupAny fields names with
  | some (name, v) => under (.field name) (read v)
  | none => .ok default

/-- Reads items from a position on. -/
def itemsFrom {α : Type} (read : Reader α) : Nat → List Json → Checked (List α)
  | _, [] => .ok []
  | i, v :: rest => (both (under (.index i) (read v)) (itemsFrom read (i + 1) rest)).map fun (x, xs) => x :: xs

/-- Reads every item of an array; `kind` is the issue of a value that is none. -/
def listOf {α : Type} (kind : IssueKind) (read : Reader α) : Reader (List α)
  | .arr items => itemsFrom read 0 items
  | v => issue kind v

/-- The fields of an object; `kind` is the issue of a value that is none. -/
def fieldsOr (kind : IssueKind) : Reader Fields
  | .obj fields => .ok fields
  | v => issue kind v

/-- Reads null as absent. -/
def nullable {α : Type} (read : Reader α) : Reader (Option α)
  | .null => .ok none
  | v => (read v).map some

def any : Reader Json := .ok

/-- A text; nothing else is taken for one. -/
def text : Reader String
  | .str s => .ok s
  | v => issue .notText v

/-- The issue of a text that is not what is asked for. -/
def textIssue {α : Type} (kind : IssueKind) (s : String) : Checked α :=
  issue (if Text.isTorn s.toList then .tornText else kind) (.str s)

/-- A text whose length, in code points, lies between bounds. -/
def textWithin (least most : Nat) : Reader String := fun v => do
  let s ← text v
  if Text.isTorn s.toList then issue .tornText v
  else if s.length < least then issue (.textTooShort least) v
  else if most < s.length then issue (.textTooLong most) v
  else .ok s

/-- One of a few texts. -/
def oneOf {α : Type} (options : List (String × α)) : Reader α := fun v =>
  match v with
  | .str s =>
    match options.lookup s with
    | some x => .ok x
    | none => textIssue (.notOneOf (options.map (·.1))) s
  | _ => issue (.notOneOf (options.map (·.1))) v

/-- White space around a spelled value. The separators of files and records are none. -/
def isSpellingGap (c : Char) : Bool := Text.isBlank c && !(0x1c ≤ c.toNat && c.toNat ≤ 0x1f)

/-- A text without the white space around it. -/
def trimSpelling (s : List Char) : List Char :=
  Text.dropEndWhile isSpellingGap (s.dropWhile isSpellingGap)

/-- A text without its underscores, if it has any and each stands alone between other characters. -/
def dropUnderscores? (s : List Char) : Option (List Char) :=
  if !s.contains '_' || s.head? == some '_' || s.getLast? == some '_' ||
      Text.occursIn ['_', '_'] s then none
  else some (s.filter (· != '_'))

/-! ## Integers -/

/-- What a text comes to as an integer. -/
inductive IntSpelling where
  | value (n : Int)
  | tooLong
  | unreadable
  deriving DecidableEq, Repr

/-- An integer in plain notation: a minus sign or none, and digits that begin with a zero only when
there is just one. -/
def plainInt (s : List Char) : IntSpelling :=
  let (negative, body) : Bool × List Char :=
    match s with
    | '-' :: rest => (true, rest)
    | _ => (false, s)
  match Json.wholeDigits body with
  | ([], _) => .unreadable
  | (digits, rest) =>
    let n : Int := Json.digitsValue digits
    if Json.maxDigits < digits.length then .tooLong
    else if rest.isEmpty then .value (if negative then -n else n)
    else .unreadable

/-- Whether an integer goes on, after zeros at its start, with a character. -/
def startsNumber (c : Char) : Bool := c == '-' || ('1' ≤ c && c ≤ '9')

/-- What is left of a text after a zero at its start, `last` being the character before. Zeros and
underscores are passed over; one of them is kept before a point and at the end. -/
def afterZeros? (last : Char) : List Char → Option (List Char)
  | [] => some [last]
  | c :: rest =>
    if c == '0' || c == '_' then afterZeros? c rest
    else if startsNumber c then some (c :: rest)
    else if c == '.' then some (last :: c :: rest)
    else none

/-- A text without the zeros at its start. -/
def dropZeros? : List Char → Option (List Char)
  | [] => none
  | c :: rest =>
    if c == '0' then afterZeros? c rest else if startsNumber c then some (c :: rest) else none

/-- A text without a point and the zeros after it at its end. A point that nothing follows stays. -/
def dropZeroFraction (s : List Char) : List Char :=
  match Text.cutAt? ['.'] s with
  | some (whole, zeros) => if !zeros.isEmpty && zeros.all (· == '0') then whole else s
  | none => s

/-- A text without a plus sign that a minus sign does not follow. -/
def dropPlus? : List Char → Option (List Char)
  | '+' :: '-' :: _ => none
  | '+' :: rest => some rest
  | s => some s

/-- A text brought closer to plain notation: without white space around it, a plus sign, zeros in
front, zeros after a point, and underscores between digits. -/
def plainer? (s : List Char) : Option (List Char) := do
  let body := dropZeroFraction (← dropZeros? (← dropPlus? (trimSpelling s)))
  some ((dropUnderscores? body).getD body)

/-- The integer that a text spells, in plain notation or close to it. -/
def spelledInt (s : List Char) : IntSpelling :=
  match plainInt s with
  | .unreadable =>
    match (plainer? s).map plainInt with
    | some (.value n) => .value n
    | _ => .unreadable
  | spelling => spelling

/-- Whether the magnitude of an integer takes no more than 63 bits. -/
def isWordSized (n : Int) : Bool := n.natAbs < Nat.pow 2 63

/-- An integer, also as a truth value, a whole double or a text that spells it. -/
def int : Reader Int := fun v =>
  match v with
  | .int n => .ok n
  | .bool b => .ok (if b then 1 else 0)
  | .float x =>
    match x.trunc? with
    | none => issue .notFinite v
    | some n =>
      if !x.isIntegral then issue .fractionalInt v
      else if isWordSized n then .ok n
      else issue .tooLargeInt v
  | .str s =>
    match spelledInt s.toList with
    | .value n => .ok n
    | .tooLong => textIssue .tooLargeInt s
    | .unreadable => textIssue .unreadableInt s
  | _ => issue .notInt v

def intAbove (bound : Int) : Reader Int := fun v => do
  let n ← int v
  if bound < n then .ok n else issue (.notGreater bound) v

/-- An integer not below a bound. -/
def intAtLeast (bound : Int) : Reader Int := fun v => do
  let n ← int v
  if bound ≤ n then .ok n else issue (.notAtLeast bound) v

/-! ## Truth values -/

/-- Texts that mean true, in small letters. -/
def trueWords : List String := ["1", "on", "t", "true", "y", "yes"]

/-- Texts that mean false, in small letters. -/
def falseWords : List String := ["0", "off", "f", "false", "n", "no"]

/-- The truth value that one and zero stand for. -/
def boolOfInt (n : Int) (v : Json) : Checked Bool :=
  if n = 0 then .ok false else if n = 1 then .ok true else issue .unreadableBool v

/-- A truth value, also as one, zero or a word for it. Numbers that do not fit into a word are not
looked at. -/
def bool : Reader Bool := fun v =>
  match v with
  | .bool b => .ok b
  | .int n =>
    if isWordSized n || n = -(Nat.pow 2 63 : Nat) then boolOfInt n v else issue .notBool v
  | .float x =>
    match x.trunc? with
    | some n => if x.isIntegral && isWordSized n then boolOfInt n v else issue .notBool v
    | none => issue .notBool v
  | .str s =>
    let word := String.ofList (s.toList.map Text.lowerAscii)
    if trueWords.contains word then .ok true
    else if falseWords.contains word then .ok false
    else textIssue .unreadableBool s
  | _ => issue .notBool v

/-! ## Numbers -/

/-- The double that a decimal text spells. -/
def spelledDecimal? (negative : Bool) (s : List Char) : Option Binary64 :=
  let whole := s.takeWhile Char.isDigit
  let rest := s.dropWhile Char.isDigit
  let (decimals, rest) : List Char × List Char :=
    match rest with
    | '.' :: more => (more.takeWhile Char.isDigit, more.dropWhile Char.isDigit)
    | _ => ([], rest)
  if whole.isEmpty && decimals.isEmpty then none
  else
    let digits := Json.digitsValue (whole ++ decimals)
    match rest, Json.exponent? rest with
    | [], _ => some (.ofDecimal negative digits (-decimals.length))
    | _, some (e, []) => some (.ofDecimal negative digits (e - decimals.length))
    | _, _ => none

/-- The double that a text without white space around it spells. -/
def spelledSigned? (body : List Char) : Option Binary64 :=
  let (negative, rest) : Bool × List Char :=
    match body with
    | '-' :: rest => (true, rest)
    | '+' :: rest => (false, rest)
    | _ => (false, body)
  let word := String.ofList (rest.map Text.lowerAscii)
  if word = "inf" ∨ word = "infinity" then some (.infinity negative)
  else if word = "nan" then some .nan
  else spelledDecimal? negative rest

/-- The double that a text spells. White space around it is passed over, or single underscores
inside it. -/
def spelledNumber? (s : List Char) : Option Binary64 :=
  (spelledSigned? (trimSpelling s)).or ((dropUnderscores? s).bind spelledSigned?)

/-- A double, also as an integer, a truth value or a text that spells it. -/
def number : Reader Binary64 := fun v =>
  match v with
  | .float x => .ok x
  | .int n =>
    let x := Binary64.ofInt n
    if x.isFinite then .ok x else issue .notNumber v
  | .bool b => .ok (Binary64.ofInt (if b then 1 else 0))
  | .str s =>
    match spelledNumber? s.toList with
    | some x => .ok x
    | none => textIssue .unreadableNumber s
  | _ => issue .notNumber v

/-- A double between two whole bounds, which not-a-number is not. -/
def numberWithin (least most : Int) : Reader Binary64 := fun v => do
  let x ← number v
  if !x.le (Binary64.ofInt most) then issue (.notAtMost most) v
  else if !(Binary64.ofInt least).le x then issue (.notAtLeast least) v
  else .ok x

/-- The result for a model with a name. -/
def forModel {α : Type} (model : String) (result : Checked α) : Except Rejection α :=
  result.mapError fun issues => ⟨model, issues⟩

end Wireframe.Schema
