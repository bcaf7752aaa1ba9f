import Wireframe.Design.Conversion
import Wireframe.Design.Decode
import Wireframe.Pipeline.Stage
import Wireframe.Prompt.Code
import Wireframe.Reply.Extraction
import Wireframe.Reply.Sample

/-!
# The stages from a layout to source files

1. `convertLayout` makes a design of the layout.
2. `checkDesign` checks the design.
3. `checkMapping` checks that every component has an entry in the mapping table.
4. `inferNodeInputs` infers inputs from a node, when one is given.
5. `compilePrompt` writes the prompt.
6. `generateCode` asks the backend, or writes a sample reply.
7. `parseReply` takes the files out of the reply; what is wrong with them stops nothing.
8. `exportFiles` lists the files to be written.
-/

namespace Wireframe.CodeStage

open Act

/-- Makes a design of the layout. -/
def convertLayout : Stage := .ofAct "ir_conversion" do
  let layout ← need "layout_document"
  let screenName ← need "screen_name"
  let d ← Design.ofLayout layout.toJson screenName.toJson
  put "design_ir" (.design d)
  return .obj [("components", .ofNat d.components.length)]

def checkDesign : Stage := .ofAct "ir_validation" do
  Design.checkShape (← need "design_ir").toJson
  return .obj [("valid", .bool true)]

/-- Checks that every component has an entry in the mapping table. -/
def checkMapping : Stage := .ofAct "mapping_validation" do
  let d ← (← need "design_ir").asDesign "components"
  MappingTable.standard.checkAll (d.components.map (·.kind.toJson))
  return .obj [("mappable", .bool true)]

/-- The node to infer inputs from, null when none is given. -/
def findNode : Act Json := do return ((← find? "source_node").map (·.toJson)).getD .null

/-- Infers inputs from the node, when one is given. -/
def inferNodeInputs : Stage := .ofAct "input_inference" do
  let node ← findNode
  if node.isTruthy then
    let d ← (← need "design_ir").asDesign "screen_name"
    let i := inferInputs node d.screenName
    put "inferred_inputs" (.inputs i)
    warn i.warnings
    return i.summary.toJson
  else
    return .obj [("skipped", .bool true), ("reason", .str "no_source_node")]

/-- Writes the prompt. -/
def compilePrompt : Stage := .ofAct "prompt_compilation" do
  let d ← (← need "design_ir").asDesign "screen_name"
  Prompt.checkDesign d
  let inferred ← Datum.asInputs "is_empty" (← find? "inferred_inputs")
  let prompt := String.ofList (← Prompt.codePrompt d .standard inferred)
  put "prompt" (.given (.str prompt))
  return .obj [("characters", .ofNat prompt.length)]

/-- Writes a sample reply. -/
def sampleCode : Act Json := do
  let design ← need "design_ir"
  let inferred ← Datum.asInputs "is_empty" (← find? "inferred_inputs")
  let d ← design.asDesign "screen_name"
  let reply := String.ofList (sampleReply d inferred)
  put "model_text" (.given (.str reply))
  return .obj [("mode", .str "mock"), ("characters", .ofNat reply.length)]

/-- Asks the backend with the prompt. -/
def askForCode (b : Backend) : Act Json := do
  let provider ← b.provider
  let prompt ← need "prompt"
  let answer ← ask provider ⟨[⟨.str "user", prompt.toJson⟩], Settings.standard.minResponseLength⟩
  put "model_text" (.given (.str answer.content))
  return .obj [("mode", .str "backend"), ("characters", .ofNat answer.content.length)]

/-- Asks the backend, or writes a sample reply. -/
def generateCode (b : Backend) : Stage := .ofAct "code_generation" do
  if (← need "test_mode").toJson.isTruthy then sampleCode else askForCode b

/-- Takes the files out of the reply. -/
def parseReply : Stage := .ofAct "response_parsing" do
  let reply ← need "model_text"
  let d ← (← need "design_ir").asDesign "screen_name"
  let files ← Reply.parse (reply.toJson.text?.getD "").toList d.screenName.toList
    Settings.standard.minMarkupLength
  put "generated_files" (.files files)
  put "summary" (.given files.summary)
  addErrors files.errors
  warn files.warnings
  return .obj [("artifacts", .ofNat files.present.length), ("errors", .ofNat files.errors.length)]

/-- Lists the files to be written. -/
def exportFiles : Stage := .ofAct "export" do
  let files ← (← need "generated_files").asFiles "present_artifacts"
  let exports := files.exports Settings.standard.outputDir
  put "export_manifest" (.exports exports)
  return .obj [("files", .ofNat exports.length)]

def all (b : Backend) : List Stage :=
  [convertLayout, checkDesign, checkMapping, inferNodeInputs, compilePrompt, generateCode b,
    parseReply, exportFiles]

end Wireframe.CodeStage
