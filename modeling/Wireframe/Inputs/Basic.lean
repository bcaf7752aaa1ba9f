import Wireframe.Json.Basic

/-!
# Inferred inputs

The inputs of a component that its user can set, and the places of its template that they are bound
to.

* `InferredInputs.names`, `InferredInputs.booleans`, `InferredInputs.declares` — views of the inputs.
* `InferredInputs.toJson` — inputs as JSON, absent values written as null.
-/

namespace Wireframe

inductive InputType where
  | string
  | boolean
  deriving DecidableEq, Repr

/-- The kind of property that an input was inferred from. -/
inductive SourceType where
  | text
  | boolean
  | variant
  deriving DecidableEq, Repr

/-- The part of a template that a binding sets. -/
inductive BindingKind where
  | interpolation
  | property
  | styleClass
  deriving DecidableEq, Repr

inductive InputDefault where
  | text (s : String)
  | flag (b : Bool)
  deriving DecidableEq, Repr

def InputType.text : InputType → String
  | string => "string"
  | boolean => "boolean"

/-- The types by their texts. -/
def InputType.options : List (String × InputType) := [("string", .string), ("boolean", .boolean)]

def SourceType.name : SourceType → String
  | text => "TEXT"
  | boolean => "BOOLEAN"
  | variant => "VARIANT"

/-- The source types by their texts. -/
def SourceType.options : List (String × SourceType) :=
  [("TEXT", .text), ("BOOLEAN", .boolean), ("VARIANT", .variant)]

def SourceType.inputType : SourceType → InputType
  | boolean => .boolean
  | text | variant => .string

def BindingKind.text : BindingKind → String
  | interpolation => "interpolation"
  | property => "property"
  | styleClass => "class"

/-- The binding kinds by their texts. -/
def BindingKind.options : List (String × BindingKind) :=
  [("interpolation", .interpolation), ("property", .property), ("class", .styleClass)]

def InputDefault.toJson : InputDefault → Json
  | text s => .str s
  | flag b => .bool b

/-- An input that the user of a component can set. -/
structure InferredInput where
  name : String
  type : InputType
  default : Option InputDefault
  sourceProperty : Option String
  sourceType : Option SourceType
  deriving DecidableEq, Repr

/-- A place of a template and the expression that it is bound to. -/
structure TemplateBinding where
  kind : BindingKind
  target : String
  expression : String
  deriving DecidableEq, Repr

/-- Inputs, their bindings, and what was left out. -/
structure InferredInputs where
  inputs : List InferredInput
  bindings : List TemplateBinding
  warnings : List String
  deriving DecidableEq, Repr

namespace InferredInputs

def isEmpty (i : InferredInputs) : Bool := i.inputs.isEmpty

def names (i : InferredInputs) : List String := i.inputs.map (·.name)

/-- The inputs that are truth values. -/
def booleans (i : InferredInputs) : List InferredInput := i.inputs.filter (·.type == .boolean)

def declares (i : InferredInputs) (name : String) : Bool := i.inputs.any (·.name == name)

end InferredInputs

/-! ## Inputs as JSON -/

def InferredInput.toJson (i : InferredInput) : Json :=
  .obj [("name", .str i.name), ("type", .str i.type.text),
    ("defaultValue", (i.default.map (·.toJson)).getD .null),
    ("sourceProperty", .ofText? i.sourceProperty),
    ("sourceType", .ofText? (i.sourceType.map (·.name)))]

def TemplateBinding.toJson (b : TemplateBinding) : Json :=
  .obj [("type", .str b.kind.text), ("target", .str b.target), ("expression", .str b.expression)]

/-- Inputs, bindings and warnings as JSON. -/
def InferredInputs.toJson (i : InferredInputs) : Json :=
  .obj [("inputs", .arr (i.inputs.map (·.toJson))),
    ("templateBindings", .arr (i.bindings.map (·.toJson))), ("warnings", .ofTexts i.warnings)]

end Wireframe
