import Wireframe.Number.Binary64
import Wireframe.Text.Encoding

/-!
# JSON values

Integers are unbounded and distinct from doubles, which include the infinities and not-a-number.
The fields of an object keep their order.

* `Json.field?` — the value of an object's field.
* `Fields.set` — a later value for a key replaces the earlier one in its place.
* `Json.isTruthy` — whether a value counts as given.
* `Json.isStrict` — whether a value has no not-a-number and no infinity.
* `Json.isTorn` — whether a text or a key in a value is torn.
-/

namespace Wireframe

inductive Json where
  | null
  | bool (b : Bool)
  | int (n : Int)
  | float (x : Binary64)
  | str (s : String)
  | arr (items : List Json)
  | obj (fields : List (String × Json))
  deriving Inhabited, Repr

/-- The fields of an object, in order. -/
abbrev Fields := List (String × Json)

namespace Fields

def get? (fields : Fields) (key : String) : Option Json := fields.lookup key

/-- The value of a key, null when it is absent. -/
def get (fields : Fields) (key : String) : Json := (fields.get? key).getD .null

def has (fields : Fields) (key : String) : Bool := fields.any (·.1 == key)

/-- Gives a key a value: in its place when the key is present, else at the end. -/
def set (fields : Fields) (key : String) (value : Json) : Fields :=
  match fields with
  | [] => [(key, value)]
  | (k, v) :: rest => if k = key then (k, value) :: rest else (k, v) :: Fields.set rest key value

def erase (fields : Fields) (key : String) : Fields := fields.filter (·.1 != key)

/-- Gives every key of the second list its value. -/
def update (fields other : Fields) : Fields := other.foldl (fun acc (k, v) => Fields.set acc k v) fields

def keys (fields : Fields) : List String := fields.map (·.1)

end Fields

/-- Whether one text comes after another in the order of code points. -/
def textLE (a b : String) : Bool := !(decide (b < a))

/-- Texts with commas between them. -/
def commaList (texts : List String) : String := String.intercalate ", " texts

/-- Texts in the order of their code points. -/
def sortTexts (texts : List String) : List String := texts.mergeSort textLE

/-- Texts in order, each once. -/
def sortedDistinct (texts : List String) : List String := sortTexts texts.eraseDups

namespace Json

/-- The name of a value's type. -/
def typeName : Json → String
  | null => "NoneType"
  | bool _ => "bool"
  | int _ => "int"
  | float _ => "float"
  | str _ => "str"
  | arr _ => "list"
  | obj _ => "dict"

/-- Whether a value counts as given: it is not null, false, zero or empty. -/
def isTruthy : Json → Bool
  | null => false
  | bool b => b
  | int n => n != 0
  | float x => !x.isZero
  | str s => s != ""
  | arr items => !items.isEmpty
  | obj fields => !fields.isEmpty

/-- A value, or another when it does not count as given. -/
def orElse (v fallback : Json) : Json := if v.isTruthy then v else fallback

def isNull : Json → Bool
  | null => true
  | _ => false

def text? : Json → Option String
  | str s => some s
  | _ => none

def fields? : Json → Option Fields
  | obj fields => some fields
  | _ => none

def items? : Json → Option (List Json)
  | arr items => some items
  | _ => none

/-- The value of a field; none for a missing field and for a value that is no object. -/
def field? (v : Json) (key : String) : Option Json := v.fields?.bind (·.get? key)

/-- An optional text, absent as null. -/
def ofText? : Option String → Json
  | some s => str s
  | none => null

def ofTexts (texts : List String) : Json := arr (texts.map str)

/-- A natural number. -/
def ofNat (n : Nat) : Json := int n

mutual

/-- Whether every number inside a value is finite. -/
def isStrict : Json → Bool
  | float x => x.isFinite
  | arr items => areStrict items
  | obj fields => haveStrictValues fields
  | _ => true

/-- `isStrict` of every item. -/
def areStrict : List Json → Bool
  | [] => true
  | v :: rest => isStrict v && areStrict rest

/-- `isStrict` of every field. -/
def haveStrictValues : List (String × Json) → Bool
  | [] => true
  | (_, v) :: rest => isStrict v && haveStrictValues rest

end

mutual

/-- Whether a text or a key inside a value is torn. -/
def isTorn : Json → Bool
  | str s => Text.isTorn s.toList
  | arr items => areTorn items
  | obj fields => haveTornEntry fields
  | _ => false

/-- `isTorn` of some item. -/
def areTorn : List Json → Bool
  | [] => false
  | v :: rest => isTorn v || areTorn rest

/-- Whether a key is torn, or `isTorn` of some field. -/
def haveTornEntry : List (String × Json) → Bool
  | [] => false
  | (k, v) :: rest => Text.isTorn k.toList || isTorn v || haveTornEntry rest

end

end Json

end Wireframe
