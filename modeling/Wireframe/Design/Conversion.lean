import Wireframe.Design.Basic
import Wireframe.Failure
import Wireframe.Layout.Basic
import Wireframe.Settings

/-!
# From layouts to designs

A layout becomes a design component by component: components that stand in a list of their own, or
else those of every section, in order. What is not an object is passed over.

* `DesignComponent.ofLayout` — the component for a layout component; every key has one.
* `Design.ofLayout` — the design for a layout, or why there is none.
-/

namespace Wireframe

/-- The text of a layout component: empty unless something is given. -/
def givenText (v : Json) : String := if v.isTruthy then v.display else ""

/-- A text, or another one in place of the empty text. -/
def orElse (s fallback : String) : String := if s = "" then fallback else s

/-- The design component for a key and a text. Unknown keys become a text that stands in for them. -/
def DesignComponent.ofKey (key : Json) (text : String) : DesignComponent :=
  match key with
  | .str "heading" => .heading (orElse text "Heading")
  | .str "description" | .str "wrapped_description" => .text (orElse text "Description text")
  | .str "text_input" => .input (orElse text "Input") "text"
  | .str "primary_button" | .str "primary_icon_button" => .button "primary" (orElse text "Button")
  | .str "secondary_button" => .button "secondary" (orElse text "Button")
  | .str "card_container" => .container "card"
  | .str "default_blankslate" => .container "section"
  | _ => .text (orElse text "Unknown component")

def DesignComponent.ofLayout (component : Fields) : DesignComponent :=
  ofKey (component.get "componentKey") (givenText (component.get "text"))

/-- The tokens for a screen type: denser on mobile screens, looser on desktops. -/
def DesignTokens.ofScreenType : Json → DesignTokens
  | .str "mobile" => { spacing := "sm", fontSize := some "base" }
  | .str "desktop" => { spacing := "lg", fontSize := some "lg" }
  | _ => {}

/-- The direction for a screen type. -/
def Flow.ofScreenType : Json → Flow
  | .str "desktop" => .horizontal
  | _ => .vertical

namespace Design

/-- The objects among values. -/
def objects (items : List Json) : List Fields := items.filterMap (·.fields?)

/-- The components of a section, none when it has no list of them. -/
def sectionComponents (fields : Fields) : List Fields :=
  objects ((fields.get "components").items?.getD [])

/-- The components of a layout: its own list, else those of its sections. -/
def componentsOf? (layout : Fields) : Option (List Fields) :=
  match layout.get "components", layout.get "sections" with
  | .arr items, _ => some (objects items)
  | _, .arr sections => some ((objects sections).flatMap sectionComponents)
  | _, _ => none

/-- The fault of a value that is no layout. -/
def invalidLayout (reason : String) : Failure :=
  .fault (.told .invalidInput s!"Invalid layout JSON provided: {reason}" [])

/-- The name of a screen: the one that is given, else the default. Only a text can be one. -/
def screenNameOf (name : Json) : Except Failure String :=
  if name.isTruthy then
    match Schema.forModel "DesignIR" (Schema.under (.field "screen_name") (Schema.text name)) with
    | .ok s => .ok s
    | .error r => .error (.rejected r)
  else .ok Settings.standard.screenName

/-- The design for a layout and the name of its screen. -/
def ofLayout (layout screenName : Json) : Except Failure Design := do
  match layout with
  | .obj fields =>
    match componentsOf? fields with
    | none => .error (invalidLayout "no components or sections collection")
    | some components =>
      let screenType := Fields.get fields "screenType"
      .ok { screenName := ← screenNameOf screenName
            flow := .ofScreenType screenType
            components := components.map .ofLayout
            tokens := .ofScreenType screenType }
  | _ => .error (invalidLayout layout.typeName)

end Design

end Wireframe
