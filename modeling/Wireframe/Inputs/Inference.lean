import Wireframe.Inputs.Basic
import Wireframe.Json.Display
import Wireframe.Naming
import Wireframe.Text.Search

/-!
# Inferring inputs

A node of a design tool carries component properties. `inferInputs` judges them in order: each
becomes one input or one warning.

* a text becomes a string input, bound to the heading when its name is `label`, `text` or `title`;
* a truth value becomes a boolean input, bound to the buttons;
* a variant becomes a string input, bound to the class of the root container.
-/

namespace Wireframe

/-- Names of text inputs that are shown in the heading. -/
def shownNames : List String := ["label", "text", "title"]

/-- A property's name as an input's name: what stands before `#`, in camel case. -/
def inputName (property : String) : String :=
  Naming.camelCase (String.ofList (property.toList.takeWhile (· != '#')))

/-- The default of an input whose property has a value. -/
def inputDefault (source : SourceType) (value : Json) : InputDefault :=
  match source, value with
  | .boolean, v => .flag v.isTruthy
  | _, .null => .text ""
  | _, v => .text v.display

/-- The class of a screen's root container. -/
def rootClass (screenName : String) : String := Naming.lowerCase screenName ++ "-container"

/-- The expression for the class that a variant chooses. -/
def variantExpression (name : String) : String :=
  let stem := Naming.kebabCase name
  s!"'{stem}-' + {name}"

/-- The interpolation of an input. -/
def interpolation (name : String) : String := "\x7b\x7b " ++ name ++ " \x7d\x7d"

def InferredInput.bindings (root : String) (i : InferredInput) : List TemplateBinding :=
  match i.sourceType with
  | some .boolean => [⟨.property, s!"p-button[{i.name}]", i.name⟩]
  | some .variant => [⟨.styleClass, root, variantExpression i.name⟩]
  | _ =>
    if shownNames.contains i.name then
      ⟨.interpolation, "h1", interpolation i.name⟩ ::
        (if i.name = "label" then [⟨.property, "p-button[label]", i.name⟩] else [])
    else []

/-- What a property comes to. -/
inductive PropertyOutcome where
  | input (i : InferredInput)
  | warning (message : String)
  deriving DecidableEq, Repr

namespace PropertyOutcome

def input? : PropertyOutcome → Option InferredInput
  | input i => some i
  | warning _ => none

def warning? : PropertyOutcome → Option String
  | input _ => none
  | warning message => some message

/-- Judges a property when some names are taken. -/
def ofProperty (taken : List String) (property : String) (definition : Json) : PropertyOutcome :=
  match definition with
  | .obj fields =>
    let type := Fields.get fields "type"
    match type.text?.bind fun s => SourceType.options.lookup s with
    | none =>
      let shown := type.display
      warning s!"Property '{property}' of type {shown} is not supported"
    | some source =>
      let name := inputName property
      if !Naming.isIdentifier name then
        warning s!"Property '{property}' does not yield a valid identifier"
      else if taken.contains name then
        warning s!"Duplicate input '{name}' from property '{property}' ignored"
      else
        input { name, type := source.inputType
                default := some (inputDefault source (Fields.get fields "value"))
                sourceProperty := some property, sourceType := some source }
  | _ => warning s!"Property '{property}' has no definition"

/-- The name that an outcome takes. -/
def takenName (o : PropertyOutcome) : List String := (o.input?.map (·.name)).toList

/-- Judges properties one after another; a name belongs to the first that yields it. -/
def ofProperties (taken : List String) : Fields → List PropertyOutcome
  | [] => []
  | (property, definition) :: rest =>
    let outcome := ofProperty taken property definition
    outcome :: ofProperties (outcome.takenName ++ taken) rest

theorem length_ofProperties (taken : List String) (properties : Fields) :
    (ofProperties taken properties).length = properties.length := by
  induction properties generalizing taken with
  | nil => rfl
  | cons p rest ih => obtain ⟨name, definition⟩ := p; simp [ofProperties, ih]

end PropertyOutcome

def InferredInputs.nothing (warning : String) : InferredInputs := ⟨[], [], [warning]⟩

/-- The inputs for outcomes, with the bindings to a screen. -/
def InferredInputs.ofOutcomes (outcomes : List PropertyOutcome) (screenName : String) :
    InferredInputs :=
  let inputs := outcomes.filterMap (·.input?)
  ⟨inputs, inputs.flatMap (·.bindings (rootClass screenName)), outcomes.filterMap (·.warning?)⟩

/-- The inputs that a node's component properties give a screen. Problems become warnings. -/
def inferInputs (node : Json) (screenName : String) : InferredInputs :=
  match node with
  | .obj fields =>
    match Fields.get fields "componentProperties" with
    | .obj (first :: rest) =>
      .ofOutcomes (PropertyOutcome.ofProperties [] (first :: rest)) screenName
    | _ =>
      let name := ((Fields.get? fields "name").getD (.str "unknown")).display
      .nothing s!"No component properties found on node '{name}'"
  | _ => .nothing "No node descriptor provided"

end Wireframe
