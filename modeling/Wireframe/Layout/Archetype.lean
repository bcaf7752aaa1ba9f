import Wireframe.Failure
import Wireframe.Layout.Basic

/-!
# Layout archetypes

An archetype is the structural pattern of one kind of screen: its sections in order, and for each
the direction and the components it may hold.

* `expectedArchetype` — the archetype for an application and a screen type.
* `requireConfig` — the configuration of an archetype, or a fault that lists those there are.
* `LayoutDocument.fitWarnings` — how a document departs from the archetype it declares.
-/

namespace Wireframe

/-- The frames that screens are drawn on. -/
inductive CanvasType where
  | desktop
  | mobile
  | centered
  deriving DecidableEq, Repr

def CanvasType.text : CanvasType → String
  | desktop => "desktop"
  | mobile => "mobile"
  | centered => "centered"

def CanvasType.size : CanvasType → CanvasSize
  | desktop => { width := 1200, height := 800 }
  | mobile => { width := 375, height := 812 }
  | centered => { width := 400, height := 600 }

def CanvasType.all : List CanvasType := [.desktop, .mobile, .centered]

/-- The size of the frame with a name; the desktop's for unknown names. -/
def canvasSizeFor (name : String) : CanvasSize :=
  ((CanvasType.all.find? (·.text == name)).getD .desktop).size

/-- What a section of an archetype looks like. -/
structure SectionRule where
  direction : Direction
  allowed : List String
  deriving DecidableEq, Repr

/-- A structural pattern. -/
structure ArchetypeConfig where
  name : String
  canvasType : CanvasType
  sections : List String
  typicalComponents : List String
  layoutDirection : String
  rules : List (String × SectionRule)
  responsiveBehavior : String
  deriving DecidableEq, Repr

namespace ArchetypeConfig

def ruleFor? (c : ArchetypeConfig) (sectionName : String) : Option SectionRule :=
  c.rules.lookup sectionName

def ruleJson (r : SectionRule) : Json :=
  .obj [("direction", .str r.direction.text), ("components", .ofTexts r.allowed)]

def toJson (c : ArchetypeConfig) : Json :=
  .obj [("name", .str c.name), ("canvas_type", .str c.canvasType.text),
    ("sections", .ofTexts c.sections), ("typical_components", .ofTexts c.typicalComponents),
    ("layout_direction", .str c.layoutDirection),
    ("section_rules", .obj (c.rules.map fun (s, r) => (s, ruleJson r))),
    ("responsive_behavior", .str c.responsiveBehavior)]

end ArchetypeConfig

/-- The archetypes: six for the web, three for mobile screens. -/
def archetypes : List ArchetypeConfig := [
  { name := "dashboard_web"
    canvasType := .desktop
    sections := ["header", "main_content", "sidebar"]
    typicalComponents :=
      ["heading", "card_container", "description", "primary_button", "secondary_button"]
    layoutDirection := "multi_column"
    rules := [
      ("header", ⟨.horizontal, ["heading", "primary_button"]⟩),
      ("main_content", ⟨.grid, ["card_container", "description"]⟩),
      ("sidebar", ⟨.vertical, ["card_container", "secondary_button"]⟩)]
    responsiveBehavior := "collapse_sidebar_on_mobile" },
  { name := "landing_web"
    canvasType := .desktop
    sections := ["hero", "content_sections", "cta"]
    typicalComponents :=
      ["heading", "description", "wrapped_description", "primary_button", "secondary_button"]
    layoutDirection := "vertical_sections"
    rules := [
      ("hero", ⟨.vertical, ["heading", "description", "primary_button"]⟩),
      ("content_sections", ⟨.vertical, ["heading", "wrapped_description"]⟩),
      ("cta", ⟨.horizontal, ["primary_button", "secondary_button"]⟩)]
    responsiveBehavior := "stack_sections_on_mobile" },
  { name := "ecommerce_web"
    canvasType := .desktop
    sections := ["header", "product_grid", "sidebar_filters"]
    typicalComponents := ["heading", "card_container", "primary_button", "text_input"]
    layoutDirection := "multi_column"
    rules := [
      ("header", ⟨.horizontal, ["heading", "text_input"]⟩),
      ("product_grid", ⟨.grid, ["card_container", "primary_button"]⟩),
      ("sidebar_filters", ⟨.vertical, ["heading", "text_input", "secondary_button"]⟩)]
    responsiveBehavior := "collapse_sidebar_on_mobile" },
  { name := "healthcare_web"
    canvasType := .desktop
    sections := ["header", "patient_info", "main_content", "actions"]
    typicalComponents :=
      ["heading", "description", "card_container", "primary_button", "text_input"]
    layoutDirection := "multi_column"
    rules := [
      ("header", ⟨.horizontal, ["heading", "primary_button"]⟩),
      ("patient_info", ⟨.vertical, ["card_container", "description"]⟩),
      ("main_content", ⟨.grid, ["card_container", "text_input"]⟩),
      ("actions", ⟨.horizontal, ["primary_button", "secondary_button"]⟩)]
    responsiveBehavior := "stack_sections_on_mobile" },
  { name := "auth_flow"
    canvasType := .centered
    sections := ["centered_form"]
    typicalComponents :=
      ["heading", "description", "text_input", "primary_button", "secondary_button"]
    layoutDirection := "vertical_form"
    rules := [
      ("centered_form", ⟨.vertical,
        ["heading", "description", "text_input", "primary_button", "secondary_button"]⟩)]
    responsiveBehavior := "maintain_center_on_all_sizes" },
  { name := "content_page"
    canvasType := .desktop
    sections := ["header", "main_content"]
    typicalComponents := ["heading", "description", "wrapped_description", "secondary_button"]
    layoutDirection := "single_column"
    rules := [
      ("header", ⟨.horizontal, ["heading", "secondary_button"]⟩),
      ("main_content", ⟨.vertical, ["heading", "wrapped_description"]⟩)]
    responsiveBehavior := "maintain_single_column" },
  { name := "mobile_stacked"
    canvasType := .mobile
    sections := ["stacked_content"]
    typicalComponents := ["heading", "description", "card_container", "primary_button"]
    layoutDirection := "vertical_only"
    rules := [
      ("stacked_content", ⟨.vertical,
        ["heading", "description", "card_container", "primary_button"]⟩)]
    responsiveBehavior := "maintain_vertical_stack" },
  { name := "mobile_dashboard"
    canvasType := .mobile
    sections := ["header", "cards_stack", "bottom_actions"]
    typicalComponents := ["heading", "card_container", "primary_button", "secondary_button"]
    layoutDirection := "vertical_only"
    rules := [
      ("header", ⟨.vertical, ["heading"]⟩),
      ("cards_stack", ⟨.vertical, ["card_container"]⟩),
      ("bottom_actions", ⟨.horizontal, ["primary_button", "secondary_button"]⟩)]
    responsiveBehavior := "maintain_vertical_stack" },
  { name := "mobile_form"
    canvasType := .mobile
    sections := ["form_stack"]
    typicalComponents := ["heading", "description", "text_input", "primary_button"]
    layoutDirection := "vertical_only"
    rules := [
      ("form_stack", ⟨.vertical, ["heading", "description", "text_input", "primary_button"]⟩)]
    responsiveBehavior := "maintain_vertical_stack" }]

/-- The archetypes expected of an application: one on the web, one on mobile screens. -/
structure ArchetypeRow where
  application : String
  web : String
  mobile : String
  deriving DecidableEq, Repr

/-- The row for applications that no other row names. -/
def defaultRow : ArchetypeRow := ⟨"default", "content_page", "mobile_stacked"⟩

def knownRows : List ArchetypeRow := [
  ⟨"dashboard", "dashboard_web", "mobile_dashboard"⟩,
  ⟨"ecommerce", "ecommerce_web", "mobile_stacked"⟩,
  ⟨"healthcare", "healthcare_web", "mobile_dashboard"⟩,
  ⟨"education", "content_page", "mobile_stacked"⟩,
  ⟨"saas", "dashboard_web", "mobile_dashboard"⟩,
  ⟨"landing_page", "landing_web", "mobile_stacked"⟩,
  ⟨"auth", "auth_flow", "mobile_form"⟩,
  ⟨"profile", "content_page", "mobile_form"⟩,
  ⟨"settings", "content_page", "mobile_form"⟩]

/-- Whether an application type has a row of its own. -/
def isKnownApplication (applicationType : String) : Bool :=
  knownRows.any (·.application == applicationType)

/-- The archetype for an application and a screen type. Unknown applications use the default row,
unknown screen types the row's web entry. -/
def expectedArchetype (applicationType screenType : String) : String :=
  let row := (knownRows.find? (·.application == applicationType)).getD defaultRow
  if screenType == "mobile" then row.mobile else row.web

def configFor? (name : String) : Option ArchetypeConfig := archetypes.find? (·.name == name)

def archetypeNames : List String := archetypes.map (·.name)

/-- The configuration of an archetype; a fault with the names there are when there is none. -/
def requireConfig (key expected : Json) : Except Failure ArchetypeConfig := do
  match (← key.asKey).bind configFor? with
  | some config => .ok config
  | none => .error (.fault (.archetype key expected archetypeNames))

/-- The canvas of a document, or the frame of its archetype when it has none. -/
def LayoutDocument.canvasOr (d : LayoutDocument) (config : ArchetypeConfig) : CanvasSize :=
  d.canvas.getD config.canvasType.size

def sectionFitWarnings (config : ArchetypeConfig) (s : LayoutSection) : List String :=
  match config.ruleFor? s.name with
  | none => [s!"Section '{s.name}' is not part of archetype '{config.name}'"]
  | some rule =>
    let turned :=
      if s.direction = rule.direction then []
      else
        [s!"Section '{s.name}' uses {s.direction.text} direction, archetype expects {rule.direction.text}"]
    let foreign := sortedDistinct
      ((s.components.map (·.key)).filter fun key => !rule.allowed.contains key)
    let strangers :=
      if foreign.isEmpty then []
      else
        [s!"Section '{s.name}' contains components outside archetype rule: {commaList foreign}"]
    turned ++ strangers

/-- How a document departs from the archetype it declares: first whether another was expected, then
section by section. -/
def LayoutDocument.fitWarnings (d : LayoutDocument) : List String :=
  let expected := expectedArchetype d.applicationType d.screenType.text
  let mismatch :=
    if d.archetype = expected then []
    else
      [s!"Layout archetype '{d.archetype}' differs from expected '{expected}' for {d.applicationType}/{d.screenType.text}"]
  mismatch ++
    match configFor? d.archetype with
    | none => []
    | some config => d.sections.flatMap (sectionFitWarnings config)

/-- The archetypes, the rows and the frames as the fields of a JSON object. -/
def archetypeTables : Fields := [
  ("archetypes", .obj (archetypes.map fun c => (c.name, c.toJson))),
  ("applicationArchetypeMap", .obj ((knownRows ++ [defaultRow]).map fun row =>
    (row.application, .obj [("web", .str row.web), ("mobile", .str row.mobile)]))),
  ("canvasSizes", .obj (CanvasType.all.map fun t => (t.text, t.size.toJson)))]

end Wireframe
