import Wireframe.Json.Display

/-!
# Why a value does not fit a schema

An issue says what is wrong with a value and where the value stands; a rejection holds every issue
of one model.

* `IssueKind.code`, `IssueKind.message` — the name and the wording of an issue.
* `Rejection.message` — the issues as a report of several lines.
-/

namespace Wireframe

/-- What is wrong with a value. -/
inductive IssueKind where
  | missing
  | notText
  | tornText
  | textTooShort (least : Nat)
  | textTooLong (most : Nat)
  | notGreater (bound : Int)
  | notAtLeast (bound : Int)
  | notAtMost (bound : Int)
  | notModel (model : String)
  | notTuple
  | notList
  | notSet
  | notObject
  | notFields
  | notOneOf (options : List String)
  | unreadableBool
  | notBool
  | unreadableInt
  | tooLargeInt
  | notInt
  | fractionalInt
  | notFinite
  | unreadableNumber
  | notNumber
  | unknownTag (tag : String) (expected : List String)
  | noTag
  | refused (reason : String)
  deriving DecidableEq, Repr

/-- One step from a value to a part of it. -/
inductive PathStep where
  | field (name : String)
  | index (i : Nat)
  deriving DecidableEq, Repr

def PathStep.text : PathStep → String
  | .field name => name
  | .index i => toString i

/-- What is wrong, where, and with which value. -/
structure Issue where
  kind : IssueKind
  path : List PathStep
  input : Json
  deriving Repr

/-- Every issue of a value that does not fit a model. -/
structure Rejection where
  model : String
  issues : List Issue
  deriving Repr

/-- The options between quotes, the last after an `or`. -/
def alternatives (options : List String) : String :=
  match (options.map fun o => s!"'{o}'").reverse with
  | [] => ""
  | [only] => only
  | last :: rest => String.intercalate ", " rest.reverse ++ " or " ++ last

/-- A count of characters, in the singular or the plural. -/
def characterCount (n : Nat) : String := if n = 1 then "1 character" else s!"{n} characters"

namespace IssueKind

def code : IssueKind → String
  | missing => "missing"
  | notText => "string_type"
  | tornText => "string_unicode"
  | textTooShort _ => "string_too_short"
  | textTooLong _ => "string_too_long"
  | notGreater _ => "greater_than"
  | notAtLeast _ => "greater_than_equal"
  | notAtMost _ => "less_than_equal"
  | notModel _ => "model_type"
  | notTuple => "tuple_type"
  | notList => "list_type"
  | notSet => "frozen_set_type"
  | notObject => "dict_type"
  | notFields => "model_attributes_type"
  | notOneOf _ => "literal_error"
  | unreadableBool => "bool_parsing"
  | notBool => "bool_type"
  | unreadableInt => "int_parsing"
  | tooLargeInt => "int_parsing_size"
  | notInt => "int_type"
  | fractionalInt => "int_from_float"
  | notFinite => "finite_number"
  | unreadableNumber => "float_parsing"
  | notNumber => "float_type"
  | unknownTag .. => "union_tag_invalid"
  | noTag => "union_tag_not_found"
  | refused _ => "value_error"

def message : IssueKind → String
  | missing => "Field required"
  | notText => "Input should be a valid string"
  | tornText => "Input should be a valid string, unable to parse raw data as a unicode string"
  | textTooShort n => s!"String should have at least {characterCount n}"
  | textTooLong n => s!"String should have at most {characterCount n}"
  | notGreater b => s!"Input should be greater than {b}"
  | notAtLeast b => s!"Input should be greater than or equal to {b}"
  | notAtMost b => s!"Input should be less than or equal to {b}"
  | notModel model => s!"Input should be a valid dictionary or instance of {model}"
  | notTuple => "Input should be a valid tuple"
  | notList => "Input should be a valid list"
  | notSet => "Input should be a valid frozenset"
  | notObject => "Input should be a valid dictionary"
  | notFields => "Input should be a valid dictionary or object to extract fields from"
  | notOneOf options => s!"Input should be {alternatives options}"
  | unreadableBool => "Input should be a valid boolean, unable to interpret input"
  | notBool => "Input should be a valid boolean"
  | unreadableInt => "Input should be a valid integer, unable to parse string as an integer"
  | tooLargeInt => "Unable to parse input string as an integer, exceeded maximum size"
  | notInt => "Input should be a valid integer"
  | fractionalInt => "Input should be a valid integer, got a number with a fractional part"
  | notFinite => "Input should be a finite number"
  | unreadableNumber => "Input should be a valid number, unable to parse string as a number"
  | notNumber => "Input should be a valid number"
  | unknownTag tag expected =>
    let tags := commaList (expected.map fun t => s!"'{t}'")
    s!"Input tag '{tag}' found using 'type' does not match any of the expected tags: {tags}"
  | noTag => "Unable to extract tag using discriminator 'type'"
  | refused reason => s!"Value error, {reason}"

end IssueKind

/-- The texts at both ends of a long text, cut to about fifty bytes, with dots between; a short text
is itself. -/
def abridged (s : String) : String :=
  let size := s.utf8ByteSize
  if size ≤ 50 then s
  else
    let start := (s.toList.foldl (fun (acc : List Char × Nat) c =>
      let next := acc.2 + c.utf8Size
      (if next ≤ 25 then c :: acc.1 else acc.1, next)) ([], 0)).1.reverse
    let finish := (s.toList.foldl (fun (acc : List Char × Nat) c =>
      (if size - 24 ≤ acc.2 then c :: acc.1 else acc.1, acc.2 + c.utf8Size)) ([], 0)).1.reverse
    String.ofList start ++ "..." ++ String.ofList finish

/-- An issue as the lines of a report. -/
def Issue.lines (i : Issue) : List String :=
  let place := String.intercalate "." (i.path.map PathStep.text)
  let line := s!"  {i.kind.message} [type={i.kind.code}, input_value={abridged i.input.quotedText}, " ++
    s!"input_type={i.input.typeName}]"
  if i.path.isEmpty then [line] else [place, line]

/-- The issues as a report headed by their number and the model's name. -/
def Rejection.message (r : Rejection) : String :=
  let count := r.issues.length
  let noun := if count = 1 then "error" else "errors"
  String.intercalate "\n" (s!"{count} validation {noun} for {r.model}" :: r.issues.flatMap Issue.lines)

end Wireframe
