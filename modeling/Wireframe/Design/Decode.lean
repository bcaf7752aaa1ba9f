import Wireframe.Design.Basic
import Wireframe.Failure
import Wireframe.Schema.Decode

/-!
# Reading and checking designs

* `Design.read` — a design from its JSON form.
* `Design.checkShape` — the checks that any value claiming to be a design has to pass, whatever the
  kinds of its components.
-/

namespace Wireframe

/-- Reads tokens; each has a default. -/
def DesignTokens.read : Schema.Reader DesignTokens := fun v => do
  let fields ← Schema.fieldsOr (.notModel "DesignTokens") v
  let standard : DesignTokens := {}
  let (primaryColor, spacing, borderRadius, fontSize) ← Schema.both
    (Schema.optional fields ["primaryColor", "primary_color"] standard.primaryColor Schema.text)
    (Schema.both
      (Schema.optional fields ["spacing"] standard.spacing Schema.text)
      (Schema.both
        (Schema.optional fields ["borderRadius", "border_radius"] standard.borderRadius Schema.text)
        (Schema.optional fields ["fontSize", "font_size"] none (Schema.nullable Schema.text))))
  .ok { primaryColor, spacing, borderRadius, fontSize }

namespace DesignComponent

/-- Reads the fields that a component of a kind has. -/
def readAs (kind : Kind) (fields : Fields) : Schema.Checked DesignComponent :=
  let text := Schema.required fields ["text"] Schema.text
  let variant (default : String) := Schema.optional fields ["variant"] default Schema.text
  match kind with
  | .heading => text.map .heading
  | .text => text.map .text
  | .input =>
    (Schema.both (Schema.required fields ["label"] Schema.text)
      (Schema.optional fields ["inputType", "input_type"] "text" Schema.text)).map
      fun (label, inputType) => .input label inputType
  | .button => (Schema.both (variant "primary") text).map fun (variant, text) => .button variant text
  | .container => (variant "card").map .container

/-- Reads a component, whose tag tells its kind. -/
def read : Schema.Reader DesignComponent := fun v => do
  let fields ← Schema.fieldsOr .notFields v
  match fields.get? "type" with
  | none => Schema.issue .noTag v
  | some tag =>
    match tag.text?.bind Kind.ofTag? with
    | none => Schema.issue (.unknownTag tag.display (Kind.all.map (·.tag))) v
    | some kind => Schema.under (.field kind.tag) (readAs kind fields)

end DesignComponent

namespace Design

/-- Reads a design; only the name of the screen has no default. -/
def read : Schema.Reader Design := fun v => do
  let fields ← Schema.fieldsOr (.notModel "DesignIR") v
  let (screenName, flow, components, tokens) ← Schema.both
    (Schema.required fields ["screenName", "screen_name"] Schema.text)
    (Schema.both
      (Schema.optional fields ["layout"] .vertical (Schema.oneOf Flow.options))
      (Schema.both
        (Schema.optional fields ["components"] [] (Schema.listOf .notTuple DesignComponent.read))
        (Schema.optional fields ["tokens"] {} DesignTokens.read)))
  .ok { screenName, flow, components, tokens }

def requiredFields : List String := ["screenName", "layout", "components", "tokens"]

/-- Whether a field counts as left out: it is null or the empty text. -/
def isBlankField : Json → Bool
  | .null => true
  | .str s => s == ""
  | _ => false

/-- Whether a value is a component with a tag. -/
def isTagged : Json → Bool
  | .obj fields => (Fields.get fields "type").isTruthy
  | _ => false

/-- Checks that the components from a position on have tags. -/
def checkTags : Nat → List Json → Except Failure Unit
  | _, [] => .ok ()
  | i, v :: rest =>
    if isTagged v then checkTags (i + 1) rest
    else Failure.throwFault (.missingComponentType (.ofNat i))

/-- Checks that a value has the fields of a design and that its components have tags. -/
def checkShape (v : Json) : Except Failure Unit := do
  let fields ← v.asMapping
  match requiredFields.find? fun name => isBlankField (fields.get name) with
  | some name => Failure.throwFault (.missingField name)
  | none =>
    match fields.get "components" with
    | .arr items => checkTags 0 items
    | _ => Failure.throwFault (.told .ir "Components must be an array" [])

end Design

end Wireframe
