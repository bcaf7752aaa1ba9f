import Wireframe.Pipeline.LayoutStages

/-!
# Generating layouts

`generateLayout` runs the stages from a description to an enhanced layout and sums the run up.

* `LayoutRun.payload` — what a client gets: the layout, or why there is none.
-/

namespace Wireframe

/-- What a run for a layout came to. -/
structure LayoutRun where
  success : Bool
  layout : Option EnhancedLayout
  archetype : Option Json
  components : List FlatComponent
  valid : Bool
  warnings : List String
  errors : List String
  detail : Option Fields
  stages : List String
  asked : List QuestionRecord
  deriving Repr

def Context.enhanced? (c : Context) : Option EnhancedLayout :=
  match c.get? "enhanced" with
  | some (.enhanced l) => some l
  | _ => none

def Context.components (c : Context) : List FlatComponent :=
  match c.get? "components" with
  | some (.components cs) => cs
  | _ => []

/-- The sum of a run for a layout. -/
def LayoutRun.ofEnding (c : Ending) : LayoutRun where
  success := c.errors.isEmpty
  layout := if c.errors.isEmpty then c.enhanced? else none
  archetype := (c.get? "archetype_config").map (·.toJson)
  components := c.components
  valid := (c.get? "validation_valid").isSome
  warnings := c.warnings
  errors := c.errors
  detail := c.errorDetail
  stages := c.ran
  asked := c.asked

/-- Generates the layout of a described screen. A description that is no text fails the first stage. -/
def generateLayout (b : Backend) (description : Json) : LayoutRun :=
  .ofEnding (run (LayoutStage.all b) (.ofFields [("user_prompt", description)]))

namespace LayoutRun

/-- What a client is told of a run that failed: its message and errors, and the detail of the
failure, which may replace both. -/
def failurePayload (r : LayoutRun) : Fields :=
  let detail : Fields := r.detail.getD []
  let fallback := r.errors.headD "Layout generation failed"
  let message := (Fields.get detail "message").orElse (.str fallback)
  Fields.update [("error", message), ("errors", .ofTexts r.errors)]
    ((Fields.erase detail "type").erase "message")

/-- What a client is told of a layout. -/
def layoutPayload (r : LayoutRun) (l : EnhancedLayout) : Fields :=
  let wire : Fields := l.wireFields
  [("screenType", wire.get "screenType"), ("application_type", wire.get "application_type"),
    ("layout_archetype", wire.get "layout_archetype"), ("canvas_size", wire.get "canvas_size"),
    ("archetype_config", r.archetype.getD .null), ("layout_metadata", wire.get "layout_metadata"),
    ("sections", wire.get "sections"), ("components", .arr (r.components.map (·.toJson))),
    ("validation_result", .obj [("valid", .bool r.valid), ("warnings", .ofTexts r.warnings),
      ("enhanced", .bool true)])]

/-- What a client is told of a run. -/
def payload (r : LayoutRun) : Json :=
  match r.layout with
  | some l => .obj (if r.success then r.layoutPayload l else r.failurePayload)
  | none => .obj r.failurePayload

end LayoutRun

end Wireframe
