import Wireframe.Inputs.Check
import Wireframe.Inputs.Declaration
import Wireframe.Markup.Render
import Wireframe.Text.Lines

/-!
# The prompt for code

`codePrompt` writes what a backend is asked in order to get the source files of a design: the design,
the mapping table, the inputs, the constraints, and the markup of every component. Equal arguments
give equal prompts.
-/

namespace Wireframe.Prompt

open Wireframe.Text

/-- The extensions of the files asked for. -/
def fileExtensions : List String := ["ts", "html", "scss"]

/-- What a code backend is told about its task. -/
def codeInstructions : String :=
  "You are an Angular + PrimeNG code generator. Generate clean, production-ready code."

/-- Checks that a design has a name and components. -/
def checkDesign (d : Design) : Except Failure Unit :=
  if d.screenName = "" then Failure.throwFault (.told .prompt "Design IR missing screenName" [])
  else if d.components.isEmpty then
    Failure.throwFault (.told .prompt "Design IR must have at least one component" [])
  else .ok ()

/-- A line for a token and its variable. -/
def tokenLine (entry : String × String) : List Char :=
  entry.1.toList ++ ": ".toList ++ entry.2.toList ++ " → --".toList ++
    (Naming.kebabCase entry.1).toList ++ ": var(--".toList ++ entry.2.toList ++ [')']

/-- The lines for tokens, in order. -/
def tokenLines (t : DesignTokens) : List Char := joinLines (t.entries.map tokenLine)

/-- The line for the component at a position, counted from one. -/
def instructionLine (position : Nat) (c : DesignComponent) (entry : MappingEntry)
    (inferred : Option InferredInputs) : List Char :=
  (toString position).toList ++ ". ".toList ++ c.kind.title.toList ++ ": Use ".toList ++
    (c.element entry inferred).write

/-- The lines for components from a position on. -/
def instructionsFrom (table : MappingTable) (inferred : Option InferredInputs) :
    Nat → List DesignComponent → Except Failure (List (List Char))
  | _, [] => .ok []
  | position, c :: rest => do
    let entry ← table.entryFor c.kind.toJson
    let lines ← instructionsFrom table inferred (position + 1) rest
    .ok (instructionLine position c entry inferred :: lines)

/-- A line of markup for every component of a design. -/
def componentInstructions (d : Design) (inferred : Option InferredInputs) (table : MappingTable) :
    Except Failure (List Char) := do
  .ok (joinLines (← instructionsFrom table inferred 1 d.components))

/-- Inputs that may be declared: there are some, and nothing is wrong with them. -/
def usable (inferred : Option InferredInputs) : Option InferredInputs :=
  inferred.filter fun i => !i.isEmpty && i.isValid

/-- A truth value in a list of facts. -/
def truthText (b : Bool) : String := if b then "true" else "false"

/-- A line about a binding. -/
def bindingLine (b : TemplateBinding) : List Char :=
  "- ".toList ++ b.kind.text.toList ++ ": ".toList ++ b.target.toList ++ " = \"".toList ++
    b.expression.toList ++ ['"']

/-- The lines about bindings, or one that says there are none. -/
def bindingLines (bindings : List TemplateBinding) : List Char :=
  match joinLines (bindings.map bindingLine) with
  | [] => "- none".toList
  | text => text

/-- The lines about the warnings of an inference. -/
def warningLines (warnings : List String) : List (List Char) :=
  if warnings.isEmpty then [] else ["- Warnings: ".toList ++ (commaList warnings).toList]

def inputSection (i : InferredInputs) : List Char :=
  let s := i.summary
  joinLines ([
    [],
    "INFERRED INPUTS (MANDATORY):".toList,
    "Based on design signals from the host node, generate these EXACT @Input() properties:".toList,
    [],
    declarations memberIndent i.inputs,
    [],
    "TEMPLATE BINDING REQUIREMENTS:".toList,
    bindingLines i.bindings,
    [],
    "INFERENCE SUMMARY:".toList,
    s!"- Inputs detected: {s.count}".toList,
    "- Has label: ".toList ++ (truthText s.hasLabel).toList,
    "- Has variants: ".toList ++ (truthText s.hasVariants).toList,
    "- Has booleans: ".toList ++ (truthText s.hasBooleans).toList] ++
    warningLines s.warnings) ++ ['\n']

/-- The constraints that always hold. -/
def standingConstraints : List String := [
  "- Use Angular + PrimeNG ONLY",
  "- NO redesign or layout changes",
  "- Use CSS variables for design tokens",
  "- Generate exactly 3 files: .component.ts, .component.html, .component.scss",
  "- Clean, production-ready code",
  "- Follow Angular best practices",
  "- Use proper TypeScript types",
  "- MANDATORY: Always use styleUrls (plural) with array syntax: styleUrls: ['./component.scss']",
  "- NEVER use styleUrl (singular) - always use styleUrls: ['./file.scss']"]

/-- The constraint that inputs bring with them. -/
def inputConstraint : String :=
  "- MANDATORY: Include ALL inferred @Input() properties from the INFERRED INPUTS section above"

/-- The constraint that bindings bring with them. -/
def bindingConstraint : String :=
  "- MANDATORY: Apply ALL template bindings from the INFERRED INPUTS section above"

def constraints (inferred : Option InferredInputs) : List String :=
  standingConstraints ++
    match inferred with
    | none => []
    | some i => inputConstraint :: (if i.bindings.isEmpty then [] else [bindingConstraint])

/-- The name of a generated file. -/
def componentFile (base : List Char) (ext : String) : List Char :=
  base ++ ".component.".toList ++ ext.toList

/-- The numbered names of the files asked for. -/
def fileLines (base : List Char) : List Char :=
  joinLines ((List.range fileExtensions.length).zip fileExtensions |>.map fun (i, ext) =>
    (toString (i + 1)).toList ++ ". ".toList ++ componentFile base ext)

/-- The fence of an answer in the form asked for. -/
def fenceLines (label : String) (comment : List Char) (placeholder : String) : List (List Char) :=
  ["```".toList ++ label.toList, comment, placeholder.toList, "```".toList]

/-- The form of the answer asked for. -/
def answerForm (base : List Char) : List (List Char) :=
  fenceLines "typescript" ("// ".toList ++ componentFile base "ts") "[TypeScript component code]" ++
    [[]] ++
    fenceLines "html" ("<!-- ".toList ++ componentFile base "html" ++ " -->".toList)
      "[HTML template code]" ++
    [[]] ++
    fenceLines "scss" ("/* ".toList ++ componentFile base "scss" ++ " */".toList)
      "[SCSS styles code]"

/-- The modules of a design, or a word for none. -/
def importLine (imports : List String) : String :=
  if imports.isEmpty then "none" else commaList imports

def codePrompt (d : Design) (table : MappingTable) (inferred : Option InferredInputs) :
    Except Failure (List Char) := do
  checkDesign d
  let kinds := d.components.map (·.kind.toJson)
  table.checkAll kinds
  let base := lower d.screenName.toList
  let active := usable inferred
  let imports ← table.importsFor kinds
  let instructions ← componentInstructions d active table
  .ok (joinLines ([
    codeInstructions.toList,
    [],
    "DESIGN IR INPUT:".toList,
    Json.indentedAt 0 d.toJson,
    [],
    "COMPONENT MAPPING RULES:".toList,
    Json.indentedAt 0 table.toJson,
    (active.map inputSection).getD [],
    "CONSTRAINTS:".toList,
    joinLines ((constraints active).map String.toList),
    [],
    "REQUIRED IMPORTS:".toList,
    (importLine imports).toList,
    [],
    "DESIGN TOKENS TO CSS VARIABLES:".toList,
    tokenLines d.tokens,
    [],
    "COMPONENT INSTRUCTIONS:".toList,
    instructions,
    [],
    "GENERATE FILES:".toList,
    [],
    fileLines base,
    [],
    "OUTPUT FORMAT:".toList] ++
    answerForm base ++
    [[], "Generate the code now:".toList]))

end Wireframe.Prompt
