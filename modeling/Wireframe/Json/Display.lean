import Wireframe.Json.Basic
import Wireframe.Number.Decimal
import Wireframe.Text.Characters

/-!
# JSON values inside messages

`Json.shown` is the text of a value inside a list or an object, strings between quotes;
`Json.display` is the text of a value on its own, where a string is itself.
-/

namespace Wireframe.Json

/-- Doubles inside messages. -/
def messageFloat : FloatStyle := FloatStyle.plain "nan" "inf"

/-- Texts with a separator between them. -/
def joinWith (separator : List Char) (texts : List (List Char)) : List Char :=
  List.intercalate separator texts

mutual

/-- The text of a value with its strings quoted. -/
def shown : Json → List Char
  | null => "None".toList
  | bool b => (if b then "True" else "False").toList
  | int n => (toString n).toList
  | float x => (messageFloat.render x).toList
  | str s => Text.quoted s.toList
  | arr items => '[' :: (joinWith [',', ' '] (shownItems items) ++ [']'])
  | obj fields => '\x7b' :: (joinWith [',', ' '] (shownFields fields) ++ ['\x7d'])

/-- The texts of items. -/
def shownItems : List Json → List (List Char)
  | [] => []
  | v :: rest => shown v :: shownItems rest

/-- The texts of fields, each a quoted key with its value. -/
def shownFields : List (String × Json) → List (List Char)
  | [] => []
  | (k, v) :: rest => (Text.quoted k.toList ++ ':' :: ' ' :: shown v) :: shownFields rest

end

/-- The text of a value with its strings quoted. -/
def quotedText (v : Json) : String := String.ofList v.shown

/-- The text of a value: a string is itself. -/
def display : Json → String
  | str s => s
  | v => v.quotedText

end Wireframe.Json
