import Wireframe.Pipeline.CodeStages

/-!
# Generating code

`generateCode` runs the stages from a layout to source files and sums the run up.

* `CodeRun.payload` — what a client gets: the files, or the errors.
-/

namespace Wireframe

/-- What code is generated from. -/
structure CodeOrder where
  layout : Datum
  /-- The name of the screen; what does not count as given leaves it to the settings. -/
  screenName : Json
  /-- Whether a sample reply takes the backend's place. -/
  sample : Bool
  node : Json

/-- What a run for code came to. -/
structure CodeRun where
  success : Bool
  design : Option Design
  files : Option FileSet
  exports : List ExportFile
  summary : Option Json
  errors : List String
  warnings : List String
  inputs : Option InferredInputs
  stages : List String
  asked : List QuestionRecord
  deriving Repr

namespace Context

def design? (c : Context) : Option Design :=
  match c.get? "design_ir" with
  | some (.design d) => some d
  | _ => none

def files? (c : Context) : Option FileSet :=
  match c.get? "generated_files" with
  | some (.files s) => some s
  | _ => none

def inputs? (c : Context) : Option InferredInputs :=
  match c.get? "inferred_inputs" with
  | some (.inputs i) => some i
  | _ => none

/-- The files to be written of a context. -/
def exports (c : Context) : List ExportFile :=
  match c.get? "export_manifest" with
  | some (.exports es) => es
  | _ => []

end Context

/-- The name of an order's screen, the default one unless it is given. -/
def CodeOrder.nameOrDefault (o : CodeOrder) : Json :=
  o.screenName.orElse (.str Settings.standard.screenName)

/-- The context in which a run for code begins. -/
def CodeOrder.context (o : CodeOrder) : Context where
  data := [("layout_document", o.layout), ("screen_name", .given o.nameOrDefault),
    ("test_mode", .given (.bool o.sample)), ("source_node", .given o.node)]

/-- The sum of a run for code. -/
def CodeRun.ofEnding (c : Ending) : CodeRun where
  success := c.errors.isEmpty
  design := c.design?
  files := c.files?
  exports := c.exports
  summary := (c.get? "summary").map (·.toJson)
  errors := c.errors
  warnings := c.warnings
  inputs := c.inputs?
  stages := c.ran
  asked := c.asked

def generateCode (b : Backend) (o : CodeOrder) : CodeRun :=
  .ofEnding (run (CodeStage.all b) o.context)

namespace CodeRun

def designJson (r : CodeRun) : Json := (r.design.map (·.toJson)).getD .null

/-- What a client is told of a run. -/
def payload (r : CodeRun) : Json :=
  if r.success then
    .obj [("success", .bool true), ("designIR", r.designJson),
      ("files", (r.files.map fun s => Json.obj s.fileFields).getD .null),
      ("exportFiles", .arr (r.exports.map (·.toJson))), ("summary", r.summary.getD .null),
      ("inputInference", (r.inputs.map (·.toJson)).getD .null)]
  else
    .obj [("success", .bool false), ("errors", .ofTexts r.errors), ("designIR", r.designJson),
      ("summary", r.summary.getD .null)]

end CodeRun

end Wireframe
