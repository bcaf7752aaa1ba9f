import Wireframe.Catalog
import Wireframe.Schema.Decode

/-!
# Layout documents

A layout document is a list of named sections, each a list of component instances. Sections do not
nest. An enhanced layout adds a role and a priority to every component and metadata to the whole.

* `LayoutDocument.toWire`, `EnhancedLayout.toWire` — the documents as JSON, absent values left out.
-/

namespace Wireframe

/-- What a screen is shown on. -/
inductive ScreenType where
  | web
  | mobile
  deriving DecidableEq, Repr

/-- How the components of a section are laid out. -/
inductive Direction where
  | vertical
  | horizontal
  | grid
  deriving DecidableEq, Repr

/-- How prominent a component is. -/
inductive Priority where
  | high
  | medium
  | low
  deriving DecidableEq, Repr

/-- What a user mainly does on a screen. -/
inductive UserFlow where
  | input
  | browse
  | read
  | action
  deriving DecidableEq, Repr

/-- How densely a screen is filled. -/
inductive Density where
  | low
  | medium
  | high
  deriving DecidableEq, Repr

def ScreenType.text : ScreenType → String
  | web => "web"
  | mobile => "mobile"

def Direction.text : Direction → String
  | vertical => "vertical"
  | horizontal => "horizontal"
  | grid => "grid"

def Priority.text : Priority → String
  | high => "high"
  | medium => "medium"
  | low => "low"

def UserFlow.text : UserFlow → String
  | input => "input"
  | browse => "browse"
  | read => "read"
  | action => "action"

def Density.text : Density → String
  | low => "low"
  | medium => "medium"
  | high => "high"

def ScreenType.options : List (String × ScreenType) := [("web", .web), ("mobile", .mobile)]

def Direction.options : List (String × Direction) :=
  [("vertical", .vertical), ("horizontal", .horizontal), ("grid", .grid)]

/-- The size of the frame that a layout is drawn on; both sides are positive. -/
structure CanvasSize where
  width : Nat
  height : Nat
  width_pos : 0 < width := by decide
  height_pos : 0 < height := by decide
  deriving DecidableEq, Repr

def CanvasSize.area (c : CanvasSize) : Nat := c.width * c.height

/-- The size of a canvas in running text. -/
def CanvasSize.text (c : CanvasSize) : String := s!"{c.width}x{c.height}"

structure LayoutComponent where
  key : String
  text : Option String
  deriving DecidableEq, Repr

/-- A named group of components. -/
structure LayoutSection where
  name : String
  direction : Direction
  components : List LayoutComponent
  deriving DecidableEq, Repr

structure LayoutDocument where
  screenType : ScreenType
  applicationType : String
  archetype : String
  canvas : Option CanvasSize
  sections : List LayoutSection
  deriving DecidableEq, Repr

/-- A component with its role and priority. -/
structure EnhancedComponent extends LayoutComponent where
  role : Role
  priority : Priority
  deriving DecidableEq, Repr

/-- A group of enhanced components. -/
structure EnhancedSection where
  name : String
  direction : Direction
  components : List EnhancedComponent
  deriving DecidableEq, Repr

/-- What is derived from a whole document. -/
structure LayoutMetadata where
  complexity : Nat
  flow : UserFlow
  density : Density
  sectionCount : Nat
  totalComponents : Nat
  deriving DecidableEq, Repr

/-- A layout document with what is derived from it. -/
structure EnhancedLayout where
  screenType : ScreenType
  applicationType : String
  archetype : String
  canvas : Option CanvasSize
  sections : List EnhancedSection
  metadata : LayoutMetadata
  deriving DecidableEq, Repr

namespace LayoutDocument

def components (d : LayoutDocument) : List LayoutComponent := d.sections.flatMap (·.components)

def componentCount (d : LayoutDocument) : Nat :=
  d.sections.foldr (fun s count => s.components.length + count) 0

/-- The document on another canvas. -/
def withCanvas (d : LayoutDocument) (c : CanvasSize) : LayoutDocument := { d with canvas := some c }

theorem length_components (d : LayoutDocument) : d.components.length = d.componentCount := by
  unfold components componentCount
  induction d.sections with
  | nil => rfl
  | cons s rest ih => rw [List.flatMap_cons, List.length_append, ih, List.foldr_cons]

end LayoutDocument

/-- An enhanced section without what was derived for its components. -/
def EnhancedSection.plain (s : EnhancedSection) : LayoutSection :=
  ⟨s.name, s.direction, s.components.map (·.toLayoutComponent)⟩

/-- An enhanced layout without what was derived. -/
def EnhancedLayout.plain (l : EnhancedLayout) : LayoutDocument :=
  ⟨l.screenType, l.applicationType, l.archetype, l.canvas, l.sections.map (·.plain)⟩

/-- A component flattened out of its section. -/
structure FlatComponent where
  key : String
  text : Option String
  sectionName : String
  direction : Direction
  role : Role
  priority : Priority
  deriving DecidableEq, Repr

/-- The components of all sections in order, each with its section's name and direction. -/
def EnhancedLayout.flattened (l : EnhancedLayout) : List FlatComponent :=
  l.sections.flatMap fun s => s.components.map fun c =>
    ⟨c.key, c.text, s.name, s.direction, c.role, c.priority⟩

/-! ## Documents as JSON -/

/-- A field that is left out when it is absent. -/
def Fields.ofOption (key : String) (value : Option Json) : Fields :=
  match value with
  | some v => [(key, v)]
  | none => []

def CanvasSize.toJson (c : CanvasSize) : Json :=
  .obj [("width", .ofNat c.width), ("height", .ofNat c.height)]

def LayoutComponent.fields (c : LayoutComponent) : Fields :=
  ("componentKey", .str c.key) :: Fields.ofOption "text" (c.text.map .str)

def EnhancedComponent.fields (c : EnhancedComponent) : Fields :=
  c.toLayoutComponent.fields ++
    [("component_role", .str c.role.text), ("layout_priority", .str c.priority.text)]

def sectionJson (name : String) (direction : Direction) (components : List Json) : Json :=
  .obj [("section_name", .str name), ("layout_direction", .str direction.text),
    ("components", .arr components)]

def LayoutMetadata.toJson (m : LayoutMetadata) : Json :=
  .obj [("complexity_score", .ofNat m.complexity), ("primary_user_flow", .str m.flow.text),
    ("content_density", .str m.density.text), ("section_count", .ofNat m.sectionCount),
    ("total_components", .ofNat m.totalComponents)]

/-- The fields of a document ahead of its sections. -/
def headFields (screenType : ScreenType) (applicationType archetype : String)
    (canvas : Option CanvasSize) : Fields :=
  [("screenType", .str screenType.text), ("application_type", .str applicationType),
    ("layout_archetype", .str archetype)] ++ Fields.ofOption "canvas_size" (canvas.map (·.toJson))

def LayoutDocument.wireFields (d : LayoutDocument) : Fields :=
  headFields d.screenType d.applicationType d.archetype d.canvas ++
    [("sections", .arr (d.sections.map fun s =>
      sectionJson s.name s.direction (s.components.map fun c => .obj c.fields)))]

def LayoutDocument.toWire (d : LayoutDocument) : Json := .obj d.wireFields

def EnhancedLayout.wireFields (l : EnhancedLayout) : Fields :=
  headFields l.screenType l.applicationType l.archetype l.canvas ++
    [("sections", .arr (l.sections.map fun s =>
      sectionJson s.name s.direction (s.components.map fun c => .obj c.fields))),
      ("layout_metadata", l.metadata.toJson)]

def EnhancedLayout.toWire (l : EnhancedLayout) : Json := .obj l.wireFields

def FlatComponent.toJson (c : FlatComponent) : Json :=
  .obj (("componentKey", .str c.key) :: (Fields.ofOption "text" (c.text.map .str) ++
    [("section", .str c.sectionName), ("layout_direction", .str c.direction.text),
      ("component_role", .str c.role.text), ("layout_priority", .str c.priority.text)]))

end Wireframe
