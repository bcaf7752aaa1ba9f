import Wireframe.Design.Kind
import Wireframe.Json.Basic

/-!
# Designs

A design is a screen's name, the direction of its layout, its components in order and its tokens.
It says what a screen shows without saying in which framework.

* `Design.toJson` — a design as JSON, absent values left out.
-/

namespace Wireframe

inductive DesignComponent where
  | heading (text : String)
  | text (text : String)
  | input (label inputType : String)
  | button (variant text : String)
  | container (variant : String)
  deriving DecidableEq, Repr

def DesignComponent.kind : DesignComponent → Kind
  | heading _ => .heading
  | text _ => .text
  | input .. => .input
  | button .. => .button
  | container _ => .container

/-- The values that the style of a screen is derived from. -/
structure DesignTokens where
  primaryColor : String := "primary-500"
  spacing : String := "md"
  borderRadius : String := "md"
  fontSize : Option String := none
  deriving DecidableEq, Repr

/-- The direction in which a screen is laid out. -/
inductive Flow where
  | vertical
  | horizontal
  deriving DecidableEq, Repr

def Flow.text : Flow → String
  | vertical => "vertical"
  | horizontal => "horizontal"

/-- The directions by their texts. -/
def Flow.options : List (String × Flow) := [("vertical", .vertical), ("horizontal", .horizontal)]

/-- A screen, free of any framework. -/
structure Design where
  screenName : String
  flow : Flow
  components : List DesignComponent
  tokens : DesignTokens
  deriving DecidableEq, Repr

/-! ## Designs as JSON -/

def DesignComponent.fields (c : DesignComponent) : Fields :=
  ("type", .str c.kind.tag) ::
    match c with
    | .heading s | .text s => [("text", .str s)]
    | .input label inputType => [("label", .str label), ("inputType", .str inputType)]
    | .button variant s => [("variant", .str variant), ("text", .str s)]
    | .container variant => [("variant", .str variant)]

def DesignComponent.toJson (c : DesignComponent) : Json := .obj c.fields

/-- Each token that is set, by its name, in order. -/
def DesignTokens.entries (t : DesignTokens) : List (String × String) :=
  [("primaryColor", t.primaryColor), ("spacing", t.spacing), ("borderRadius", t.borderRadius)] ++
    match t.fontSize with
    | some size => [("fontSize", size)]
    | none => []

def DesignTokens.toJson (t : DesignTokens) : Json := .obj (t.entries.map fun (k, v) => (k, .str v))

namespace Design

def kinds (d : Design) : List Kind := d.components.map (·.kind)

def fields (d : Design) : Fields :=
  [("screenName", .str d.screenName), ("layout", .str d.flow.text),
    ("components", .arr (d.components.map (·.toJson))), ("tokens", d.tokens.toJson)]

def toJson (d : Design) : Json := .obj d.fields

end Design

end Wireframe
