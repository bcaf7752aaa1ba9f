import Wireframe.Inputs.Inference
import Wireframe.Markup.Element
import Wireframe.Markup.Mapping

/-!
# The markup of components

Every kind of component has its own element, whose tag is that of the kind's mapping entry. Inferred
inputs change the elements of headings and buttons.

* `modelName`, `handlerName` — the members of the class that inputs and buttons are bound to.
* `DesignComponent.element`, `renderMarkup` — the element of a component and its text.
-/

namespace Wireframe

def fieldTypes : List String := ["email", "password", "text", "number", "tel", "url"]

def buttonSeverities : List String :=
  ["primary", "secondary", "success", "info", "warning", "danger"]

def containerClasses : List (String × String) :=
  [("card", "card-container"), ("panel", "panel-container"), ("section", "section-container")]

/-- A text that is known, and another one in place of any that is not. -/
def knownOr (known : List String) (fallback s : String) : String := if known.contains s then s else fallback

def fieldType (inputType : String) : String := knownOr fieldTypes "text" inputType

def buttonSeverity (variant : String) : String := knownOr buttonSeverities "primary" variant

def containerClass (variant : String) : String := (containerClasses.lookup variant).getD "container"

/-- A name, or another one in place of the empty name. -/
def nameOr (fallback name : String) : String := if name = "" then fallback else name

/-- The member that holds the value of an input: `emailAddressValue`. -/
def modelName (label : String) : String := nameOr "field" (Naming.camelCase label) ++ "Value"

/-- The member that handles the click on a button: `onSignInClick`. -/
def handlerName (text : String) : String :=
  "on" ++ nameOr "Button" (Naming.pascalCase text) ++ "Click"

open Markup

/-- Whether a label is among inferred inputs. -/
def hasLabel (inferred : Option InferredInputs) : Bool := inferred.any (·.declares "label")

/-- The interpolated label when it is an input, else the component's own text. -/
def labelOr (inferred : Option InferredInputs) (text : String) : String :=
  if hasLabel inferred then interpolation "label" else text

/-- The attributes by which inferred truth values are bound to a button. -/
def booleanAttributes (inferred : Option InferredInputs) : List Attribute :=
  match inferred with
  | some i => i.booleans.map fun item => Attribute.ofTexts s!"[{item.name}]" item.name
  | none => []

namespace DesignComponent

/-- The attributes of a component's element. -/
def attributes (c : DesignComponent) (entry : MappingEntry) (inferred : Option InferredInputs) :
    List Attribute :=
  match c with
  | .heading _ => []
  | .text _ => [.ofTexts "class" ((entry.attributes.lookup "class").getD "text-content")]
  | .input label inputType =>
    [.ofTexts "type" (fieldType inputType), .ofTexts "placeholder" label,
      .ofTexts "[(ngModel)]" (modelName label)]
  | .button variant s =>
    [.ofTexts "label" (labelOr inferred s), .ofTexts "severity" (buttonSeverity variant),
      .ofTexts "(click)" (handlerName s ++ "()")] ++ booleanAttributes inferred
  | .container variant => [.ofTexts "class" (containerClass variant)]

/-- What stands between the tags of a component's element. -/
def content (c : DesignComponent) (entry : MappingEntry) (inferred : Option InferredInputs) :
    String :=
  match c with
  | .heading s => labelOr inferred s
  | .text s => s
  | .input .. | .button .. => ""
  | .container _ => entry.content.getD ""

def element (c : DesignComponent) (entry : MappingEntry) (inferred : Option InferredInputs) :
    Element :=
  ⟨entry.tag.toList, c.attributes entry inferred, (c.content entry inferred).toList⟩

end DesignComponent

/-- The markup of a component, by the standard entry of its kind unless another is given. -/
def renderMarkup (c : DesignComponent) (entry : Option MappingEntry)
    (inferred : Option InferredInputs) : List Char :=
  (c.element (entry.getD (.standard c.kind)) inferred).write

end Wireframe
