import Wireframe.Inputs.Declaration
import Wireframe.Markup.Render
import Wireframe.Text.Lines

/-!
# Sample replies

`sampleReply` writes, without a backend, a reply in the form that a code backend is asked for: three
fenced files for a design and its inputs.
-/

namespace Wireframe.Sample

open Wireframe.Text

/-- Paragraphs with an empty line between them. -/
def paragraphs (parts : List (List Char)) : List Char := List.intercalate ['\n', '\n'] parts

/-- The inputs of the components that are inputs, in order, each member once. -/
def modelNames (components : List DesignComponent) : List String :=
  (components.filterMap fun
    | .input label _ => some (modelName label)
    | _ => none).eraseDups

/-- The line that declares the value of an input. -/
def modelLine (name : String) : List Char := "  ".toList ++ name.toList ++ " = '';".toList

/-- A text with its single quotes escaped. -/
def escapeQuotes (s : List Char) : List Char :=
  s.flatMap fun c => if c = '\'' then ['\\', '\''] else [c]

/-- The method that handles the click on a button. -/
def handlerMethod (handler text : String) : List Char :=
  joinLines [
    "  ".toList ++ handler.toList ++ "() \x7b".toList,
    "    console.log('".toList ++ escapeQuotes text.toList ++ " clicked');".toList,
    "  \x7d".toList]

/-- The handlers of buttons in order, each with the text of the first button that it belongs to. -/
def handlersAfter (taken : List String) : List DesignComponent → List (String × String)
  | [] => []
  | .button _ text :: rest =>
    let handler := handlerName text
    if taken.contains handler then handlersAfter taken rest
    else (handler, text) :: handlersAfter (handler :: taken) rest
  | _ :: rest => handlersAfter taken rest

/-- The handlers of the buttons among components. -/
def handlers (components : List DesignComponent) : List (String × String) :=
  handlersAfter [] components

/-- A part that stands only when there is something in it. -/
def partOf {α : Type} (items : List α) (text : List Char) : List (List Char) :=
  if items.isEmpty then [] else [text]

/-- The members of the class: inputs, values of input components, handlers of buttons. -/
def members (d : Design) (inferred : Option InferredInputs) : List Char :=
  let models := modelNames d.components
  let methods := handlers d.components
  paragraphs (
    (match inferred with
      | some i => [declarations memberIndent i.inputs]
      | none => []) ++
    partOf models (joinLines (models.map modelLine)) ++
    partOf methods (paragraphs (methods.map fun (handler, text) => handlerMethod handler text)))

def classFile (d : Design) (base : List Char) (inferred : Option InferredInputs) : List Char :=
  let core := if inferred.isSome then "Component, Input" else "Component"
  joinLines [
    "import \x7b ".toList ++ core.toList ++ " \x7d from '@angular/core';".toList,
    [],
    "@Component(\x7b".toList,
    "  selector: 'app-".toList ++ base ++ "',".toList,
    "  templateUrl: './".toList ++ base ++ ".component.html',".toList,
    "  styleUrls: ['./".toList ++ base ++ ".component.scss']".toList,
    "\x7d)".toList,
    "export class ".toList ++ d.screenName.toList ++ "Component \x7b".toList,
    members d inferred,
    "\x7d".toList]

/-- The attributes that bind variants to the class of the root container. -/
def variantAttributes (inferred : Option InferredInputs) : List Char :=
  match inferred with
  | none => []
  | some i =>
    (i.inputs.filter fun item => item.sourceType == some .variant).flatMap fun item =>
      " [ngClass]=\"".toList ++ (variantExpression item.name).toList ++ ['"']

def templateFile (d : Design) (base : List Char) (inferred : Option InferredInputs) : List Char :=
  joinLines (
    ["<div class=\"".toList ++ base ++ "-container\"".toList ++ variantAttributes inferred ++ ['>']] ++
    (d.components.map fun c => "  ".toList ++ renderMarkup c none inferred) ++
    ["</div>".toList])

/-- The styles that do not depend on a design. -/
def commonStyles : List String := [
  ".text-content \x7b",
  "  color: var(--text-color);",
  "  margin-bottom: var(--spacing-sm);",
  "\x7d",
  "",
  "p-inputText \x7b",
  "  width: 100%;",
  "  margin-bottom: var(--spacing-md);",
  "\x7d",
  "",
  "p-button \x7b",
  "  align-self: flex-start;",
  "\x7d"]

def styleFile (d : Design) (base : List Char) : List Char :=
  joinLines ([
    '.' :: base ++ "-container \x7b".toList,
    "  display: flex;".toList,
    "  flex-direction: column;".toList,
    "  gap: var(--spacing-".toList ++ d.tokens.spacing.toList ++ ");".toList,
    "  padding: var(--spacing-lg);".toList,
    "\x7d".toList,
    []] ++ commonStyles.map String.toList)

/-- Lines of a fenced file. -/
def fenced (label : String) (body : List Char) : List (List Char) :=
  ["```".toList ++ label.toList, body, "```".toList]

/-- Three files as a reply. -/
def replyOf (classText template styles : List Char) : List Char :=
  joinLines (["Here's the Angular component code:".toList, []] ++
    fenced "typescript" classText ++ [[]] ++ fenced "html" template ++ [[]] ++ fenced "scss" styles)

end Sample

/-- A reply with the three files of a design. Inputs count only when there are some. -/
def sampleReply (d : Design) (inferred : Option InferredInputs) : List Char :=
  let active := inferred.filter fun i => !i.isEmpty
  let base := Text.lower d.screenName.toList
  Sample.replyOf (Sample.classFile d base active) (Sample.templateFile d base active)
    (Sample.styleFile d base)

end Wireframe
