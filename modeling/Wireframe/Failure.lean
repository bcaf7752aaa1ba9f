import Wireframe.Fault
import Wireframe.Json.Writer
import Wireframe.Schema.Issue

/-!
# Everything that can stop a computation

A failure is a fault of the service, a value refused by a model, or a breach of what a computation
takes for granted: a key that is not there, a value of the wrong type, a number out of range, a text
without an encoding, or an exception of the backend.

* `Failure.typeName`, `Failure.message` — how a failure is named and worded.
* `PlaceholderFault` — why a message and the values for its placeholders do not fit.
* `Failure.report` — the object in which a failed run tells its cause.
* `Json.asMapping` — the fields of an object or of a list of pairs.
-/

namespace Wireframe

/-- Why a message and the values for its placeholders do not fit. -/
inductive PlaceholderFault where
  | tooFewValues
  | tooManyValues
  /-- A placeholder has a key, but the values have none. -/
  | noKeys
  | missingKey (key : String)
  /-- A width or a precision that is taken from the values is no integer. -/
  | starNotInteger
  | starTooLarge
  | notNumber (letter : Char) (typeName : String)
  | notInteger (letter : Char) (typeName : String)
  | notReal (typeName : String)
  | notCharacter
  | noSuchCharacter
  | unclosedKey
  | unfinished
  | tooWide
  | tooPrecise
  /-- The text would be too long to be held. -/
  | noRoom
  | unknownLetter (letter : Char)
  deriving DecidableEq, Repr

namespace PlaceholderFault

def typeName : PlaceholderFault → String
  | tooFewValues | tooManyValues | noKeys | starNotInteger | notNumber .. | notInteger ..
  | notReal _ | notCharacter => "TypeError"
  | missingKey _ => "KeyError"
  | noSuchCharacter | starTooLarge => "OverflowError"
  | noRoom => "MemoryError"
  | unclosedKey | unfinished | tooWide | tooPrecise | unknownLetter _ => "ValueError"

def message : PlaceholderFault → String
  | tooFewValues => "not enough arguments for format string"
  | tooManyValues => "not all arguments converted during string formatting"
  | noKeys => "format requires a mapping"
  | missingKey key => String.ofList (Text.quoted key.toList)
  | starNotInteger => "* wants int"
  | starTooLarge => "integer too large for a width or a precision"
  | notNumber letter typeName => s!"%{letter} format: a real number is required, not {typeName}"
  | notInteger letter typeName => s!"%{letter} format: an integer is required, not {typeName}"
  | notReal typeName => s!"must be real number, not {typeName}"
  | notCharacter => "%c requires int or char"
  | noSuchCharacter => "%c arg not in range(0x110000)"
  | unclosedKey => "incomplete format key"
  | unfinished => "incomplete format"
  | tooWide => "width too big"
  | tooPrecise => "precision too big"
  | noRoom => ""
  | unknownLetter letter => s!"unsupported format character '{letter}'"

end PlaceholderFault

/-- Why a torn text has no encoding. -/
def Text.Tear.message (t : Tear) : String :=
  let place :=
    match t.codes with
    | [n] => s!"character '\\u{String.ofList (hexDigits 4 n)}' in position {t.position}"
    | codes => s!"characters in position {t.position}-{t.position + (codes.length - 1)}"
  s!"'utf-8' codec can't encode {place}: surrogates not allowed"

/-- What stopped a computation. -/
inductive Failure where
  | fault (f : Fault)
  | rejected (r : Rejection)
  /-- A key that is looked up without being there. -/
  | missingKey (key : String)
  /-- A value of a type that lacks a member. -/
  | noMember (typeName member : String)
  /-- A stage that does nothing of its own. -/
  | notImplemented (stage : String)
  | nanToInteger
  | infinityToInteger
  | quotientTooLarge
  | integerTooLarge
  /-- A value that is needed as a key and cannot be one. -/
  | notHashable (typeName : String)
  | notIterable (typeName : String)
  | notText (typeName : String)
  | notNumber (typeName : String)
  | noLength (typeName : String)
  /-- Two values that have no order between them. -/
  | noOrder (left right : String)
  /-- An item looked for beyond the end of a list. -/
  | outOfRange
  /-- An item of a would-be list of pairs that has no items itself. -/
  | notAPair (position : Nat)
  /-- An item of a would-be list of pairs with another number of items. -/
  | pairLength (position length : Nat)
  /-- A number that JSON has no text for. -/
  | notStrict
  /-- More in a text than is read. -/
  | excess (e : Json.Excess)
  /-- More in a value than is written. -/
  | unwritable (e : Json.WriteExcess)
  | placeholder (f : PlaceholderFault)
  /-- A text that is to be encoded and is torn. -/
  | unencodable (t : Text.Tear)
  /-- Too few arguments for what they are given to, too many, or one that it does not take. -/
  | badArguments (name : String)
  /-- A level of log lines that does not exist. -/
  | noLevel (name : String)
  /-- A level of log lines below zero. -/
  | negativeLevel (rank : Int)
  /-- A level of log lines that is neither a name nor a number. -/
  | notLevel (typeName : String)
  /-- An exception of the backend, by its name. -/
  | backend (typeName message : String)
  deriving Repr

namespace Failure

def typeName : Failure → String
  | fault f => f.kind.name
  | rejected _ => "ValidationError"
  | missingKey _ => "KeyError"
  | noMember .. => "AttributeError"
  | notImplemented _ => "NotImplementedError"
  | nanToInteger | pairLength .. | notStrict | excess (.digits _) | unwritable .digits | noLevel _
  | negativeLevel _ => "ValueError"
  | excess (.depth _) | unwritable .depth => "RecursionError"
  | placeholder f => f.typeName
  | unencodable _ => "UnicodeEncodeError"
  | infinityToInteger | quotientTooLarge | integerTooLarge => "OverflowError"
  | notHashable _ | notIterable _ | notText _ | notNumber _ | noLength _ | notAPair _ | noOrder ..
  | badArguments _ | notLevel _ => "TypeError"
  | outOfRange => "IndexError"
  | backend name _ => name

def message : Failure → String
  | fault f => f.message
  | rejected r => r.message
  | missingKey key => String.ofList (Text.quoted key.toList)
  | noMember typeName member => s!"'{typeName}' object has no attribute '{member}'"
  | notImplemented stage => s!"Stage {stage} does not implement execute()"
  | nanToInteger => "cannot convert float NaN to integer"
  | infinityToInteger => "cannot convert float infinity to integer"
  | quotientTooLarge => "integer division result too large for a float"
  | integerTooLarge => "int too large to convert to float"
  | notHashable typeName => s!"unhashable type: '{typeName}'"
  | notIterable typeName => s!"'{typeName}' object is not iterable"
  | notText typeName => s!"expected string or bytes-like object, got '{typeName}'"
  | notNumber typeName => s!"a number is required, not '{typeName}'"
  | noLength typeName => s!"object of type '{typeName}' has no len()"
  | noOrder left right => s!"'<' not supported between instances of '{left}' and '{right}'"
  | outOfRange => "list index out of range"
  | notAPair i => s!"cannot convert dictionary update sequence element #{i} to a sequence"
  | pairLength i n => s!"dictionary update sequence element #{i} has length {n}; 2 is required"
  | notStrict => "Out of range float values are not JSON compliant"
  | excess e => e.message
  | unwritable e => e.message
  | placeholder f => f.message
  | unencodable t => t.message
  | badArguments name => s!"{name} does not take these arguments"
  | noLevel name => s!"Level '{name}' does not exist"
  | negativeLevel rank => s!"Invalid level value, it should be a positive integer, not: {rank}"
  | notLevel typeName => s!"Invalid level, it should be an integer or a string, not: '{typeName}'"
  | backend _ m => m

/-- The report of a failure: the fault's own, or its name and wording. -/
def report : Failure → Fields
  | fault f => f.report
  | f => [("type", .str f.typeName), ("message", .str f.message)]

/-- A fault as a failure of any computation. -/
def throwFault {α : Type} (f : Fault) : Except Failure α := .error (.fault f)

end Failure

/-- The fault in which a backend could not serve a request. -/
def Fault.generation (message : String) (details : Fields := []) : Fault :=
  .told .generation message details

namespace Json

/-- The value as a key: a text, or none of a type that has keys but not this one. -/
def asKey : Json → Except Failure (Option String)
  | .str s => .ok (some s)
  | .arr _ => .error (.notHashable "list")
  | .obj _ => .error (.notHashable "dict")
  | _ => .ok none

/-- The text of a value that has to be one. -/
def expectText : Json → Except Failure String
  | .str s => .ok s
  | v => .error (.notText v.typeName)

/-- The parts of a value that a pair is made of. -/
def parts? : Json → Option (List Json)
  | .arr items => some items
  | .str s => some (s.toList.map fun c => .str (String.ofList [c]))
  | .obj fields => some (fields.map fun (k, _) => .str k)
  | _ => none

/-- The parts of a value that has to have some. -/
def iterate (v : Json) : Except Failure (List Json) :=
  match v.parts? with
  | some parts => .ok parts
  | none => .error (.notIterable v.typeName)

/-- A value as the key of an object, where keys are texts. -/
def keyText (v : Json) : Except Failure String := do
  match ← v.asKey with
  | some key => .ok key
  | none => .ok v.indented

def pairFields : Nat → Fields → List Json → Except Failure Fields
  | _, acc, [] => .ok acc
  | i, acc, v :: rest =>
    match v.parts? with
    | none => .error (.notAPair i)
    | some [k, x] => do pairFields (i + 1) (acc.set (← k.keyText) x) rest
    | some items => .error (.pairLength i items.length)

/-- The fields of an object, or those given by a list of pairs. -/
def asMapping : Json → Except Failure Fields
  | .obj fields => .ok fields
  | v => do pairFields 0 [] (← v.iterate)

end Json

end Wireframe
