import Wireframe.Layout.Archetype
import Wireframe.Layout.Decode
import Wireframe.Layout.Enhancement
import Wireframe.Layout.Validation
import Wireframe.Pipeline.Stage
import Wireframe.Prompt.Layout

/-!
# The stages from a description to an enhanced layout

1. `buildPrompt` writes the prompt.
2. `callBackend` asks the backend.
3. `extractLayout` finds the layout object in the answer.
4. `validateSchema` judges it; a layout that is not valid goes no further.
5. `enhanceLayout` derives roles, priorities and metadata.
6. `resolveArchetype` looks the archetype up and supplies a missing canvas.
7. `flattenLayout` lists the components of all sections.
-/

namespace Wireframe.LayoutStage

open Act

/-- Writes the prompt for the described screen. -/
def buildPrompt : Stage := .ofAct "prompt_build" do
  match (← need "user_prompt").toJson with
  | .str description =>
    let prompt := Prompt.layoutPrompt description
    put "messages" (.messages [.ofTexts "system" prompt.system, .ofTexts "user" prompt.user])
    return .obj [("characters", .ofNat (prompt.system.length + prompt.user.length))]
  | v => throw (.noMember v.typeName "strip")

/-- Asks the backend with the messages. -/
def callBackend (b : Backend) : Stage := .ofAct "backend_call" do
  let provider ← b.provider
  let messages ← (← need "messages").asMessages
  let answer ← ask provider ⟨messages, 0⟩
  put "llm_response" (.answer answer)
  return .obj [("characters", .ofNat answer.content.length), ("tokens", .null)]

/-- The fault of an answer without a layout object. -/
def extractionFault (message : String) (details : Fields) : Failure :=
  .fault (.generation message details)

/-- The layout object of an answer. -/
def layoutOf (a : Answer) : Except Failure Fields :=
  let invalid (reason : Json) := extractionFault "Invalid JSON from AI response"
    [("rawJSON", .ofText? a.candidate?), ("parseError", reason)]
  match a.found.value, a.candidate? with
  | none, none =>
    .error (extractionFault "No valid JSON found in AI response" [("rawResponse", .str a.content)])
  | none, some _ => .error (invalid (.ofText? a.faultMessage?))
  | some (.obj fields), _ => .ok fields
  | some v, _ => .error (invalid (.str s!"Expected a JSON object, got {v.typeName}"))

/-- Finds the layout object in the answer. -/
def extractLayout : Stage := .ofAct "json_extraction" do
  let answer ← (← need "llm_response").asAnswer "is_valid_json"
  let fields ← layoutOf answer
  put "raw_layout" (.given (.obj fields))
  return .obj [("keys", .ofTexts (sortTexts (Fields.keys fields)))]

/-- Judges the layout. The warnings are kept also when the layout is not valid. -/
def validateSchema : Stage := .ofAct "schema_validation" do
  let raw := (← need "raw_layout").toJson
  let judged ← validateLayout raw
  warn judged.warnings
  if judged.valid then
    put "validation_valid" (.given (.bool true))
    put "layout" (.layout (← LayoutDocument.ofWire raw))
    return .obj [("warnings", .ofNat judged.warnings.length)]
  else
    throw (.fault (.schema "Layout JSON failed schema validation" judged.errors judged.warnings raw))

/-- Derives roles, priorities and metadata. -/
def enhanceLayout : Stage := .ofAct "enhancement" do
  let l ← (← (← need "layout").asLayout "sections").enhance
  put "enhanced" (.enhanced l)
  return .obj [("complexity", .ofNat l.metadata.complexity)]

/-- A layout with a canvas: its own, or the archetype's with a warning. -/
def withCanvasOf (config : ArchetypeConfig) (l : EnhancedLayout) : Act EnhancedLayout :=
  match l.canvas with
  | some _ => return l
  | none => do
    let canvas := config.canvasType.size
    let placed ← l.onCanvas canvas
    warn [s!"canvas_size missing, using {config.canvasType.text} default {canvas.text}"]
    return placed

/-- Looks the archetype up and supplies a missing canvas. -/
def resolveArchetype : Stage := .ofAct "archetype_resolution" do
  let l ← (← need "enhanced").asEnhanced "application_type"
  let expected := expectedArchetype l.applicationType l.screenType.text
  let config ← requireConfig (.str l.archetype) (.str expected)
  let l ← withCanvasOf config l
  warn l.plain.fitWarnings
  put "enhanced" (.enhanced l)
  put "archetype_config" (.given config.toJson)
  return .obj [("archetype", .str config.name), ("expected", .str expected)]

/-- Lists the components of all sections. -/
def flattenLayout : Stage := .ofAct "flatten" do
  let l ← (← need "enhanced").asEnhanced "iter_components"
  put "components" (.components l.flattened)
  return .obj [("components", .ofNat l.flattened.length)]

def all (b : Backend) : List Stage :=
  [buildPrompt, callBackend b, extractLayout, validateSchema, enhanceLayout, resolveArchetype,
    flattenLayout]

end Wireframe.LayoutStage
