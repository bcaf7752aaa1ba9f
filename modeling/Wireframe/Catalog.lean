import Wireframe.Design.Kind
import Wireframe.Json.Basic

/-!
# The component catalog

The component keys that a layout document may use. Validation, enhancement, conversion and the
layout prompt all read this table.
-/

namespace Wireframe

/-- What a component is for. -/
inductive Role where
  | primaryAction
  | secondaryAction
  | placeholder
  | content
  | input
  | container
  | title
  deriving DecidableEq, Repr

def Role.text : Role → String
  | primaryAction => "primary_action"
  | secondaryAction => "secondary_action"
  | placeholder => "placeholder"
  | content => "content"
  | input => "input"
  | container => "container"
  | title => "title"

/-- The catalog entry of a component key. -/
structure ComponentDefinition where
  key : String
  category : String
  role : Role
  textBearing : Bool
  kind : Kind
  description : String
  deriving Repr

namespace Catalog

/-- Every component, in the order in which the keys are offered. -/
def definitions : List ComponentDefinition := [
  ⟨"primary_button", "action", .primaryAction, true, .button, "Main call to action"⟩,
  ⟨"secondary_button", "action", .secondaryAction, true, .button, "Alternative or cancel action"⟩,
  ⟨"primary_icon_button", "action", .primaryAction, true, .button,
    "Compact primary action rendered with an icon"⟩,
  ⟨"default_blankslate", "container", .placeholder, true, .container, "Empty-state placeholder block"⟩,
  ⟨"wrapped_description", "text", .content, true, .text, "Long paragraph that wraps across lines"⟩,
  ⟨"text_input", "input", .input, true, .input, "Single-line text field"⟩,
  ⟨"card_container", "container", .container, true, .container,
    "Card surface grouping related content"⟩,
  ⟨"heading", "text", .title, true, .heading, "Screen or section title"⟩,
  ⟨"description", "text", .content, true, .text, "Short supporting text"⟩]

/-- The allowed component keys, in order. -/
def keys : List String := definitions.map (·.key)

def find? (key : String) : Option ComponentDefinition := definitions.find? (·.key == key)

def allows (key : String) : Bool := (find? key).isSome

/-- Whether a value is an allowed component key. -/
def allowsValue : Json → Bool
  | .str key => allows key
  | _ => false

/-- The role of a key, if it is in the catalog. -/
def role? (key : String) : Option Role := (find? key).map (·.role)

/-- Keys of components that hold text. -/
def textKeys : List String := ["heading", "description", "wrapped_description"]

def buttonKeys : List String := ["primary_button", "secondary_button", "primary_icon_button"]

/-- Attributes that a component object may carry. -/
def knownAttributes : List String := ["componentKey", "text", "component_role", "layout_priority"]

end Catalog

def ComponentDefinition.toJson (d : ComponentDefinition) : Json :=
  .obj [("key", .str d.key), ("category", .str d.category), ("role", .str d.role.text),
    ("text_bearing", .bool d.textBearing), ("ir_kind", .str d.kind.tag),
    ("description", .str d.description)]

/-- The whole catalog as the fields of a JSON object. -/
def Catalog.exported : Fields :=
  [("allowedComponentKeys", .ofTexts keys), ("components", .arr (definitions.map (·.toJson)))]

end Wireframe
