import Wireframe.Layout.Archetype
import Wireframe.Layout.Decode

/-!
# Validating layout documents

`validateLayout` judges any JSON value as a layout document. Errors make it invalid; warnings are
advice. The findings of a document are those of its top level, of its canvas and of its sections, in
that order, and each part is judged on its own.
-/

namespace Wireframe

/-- Errors and warnings about a part of a document. -/
structure Findings where
  errors : List String
  warnings : List String
  deriving DecidableEq, Repr

namespace Findings

/-- Nothing found. -/
def none : Findings := ⟨[], []⟩

def error (message : String) : Findings := ⟨[message], []⟩

def warning (message : String) : Findings := ⟨[], [message]⟩

/-- Findings one after another. -/
protected def append (a b : Findings) : Findings := ⟨a.errors ++ b.errors, a.warnings ++ b.warnings⟩

instance : Append Findings := ⟨Findings.append⟩

def join (parts : List Findings) : Findings :=
  ⟨parts.flatMap (·.errors), parts.flatMap (·.warnings)⟩

/-- Findings under a condition. -/
def when (condition : Bool) (f : Findings) : Findings := if condition then f else none

@[simp] theorem errors_append (a b : Findings) : (a ++ b).errors = a.errors ++ b.errors := rfl

@[simp] theorem warnings_append (a b : Findings) : (a ++ b).warnings = a.warnings ++ b.warnings := rfl

end Findings

structure ValidationResult where
  valid : Bool
  errors : List String
  warnings : List String
  deriving DecidableEq, Repr

def requiredFields : List String := ["screenType", "application_type", "layout_archetype", "sections"]

/-- The keys that would nest one collection in another. -/
def nestedKeys : List String := ["components", "sections"]

namespace Validation

/-- Whether a value is one of the texts. -/
def isOneOf (texts : List String) : Json → Bool
  | .str s => texts.contains s
  | _ => false

def missingFindings (fields : Fields) : Findings :=
  .join (requiredFields.map fun name =>
    .when (fields.get name).isNull (.error s!"Missing required field: {name}"))

def screenTypeFindings (v : Json) : Findings :=
  .when (!v.isNull && !isOneOf (ScreenType.options.map (·.1)) v)
    (.error s!"Invalid screenType '{v.display}', expected one of: web, mobile")

def applicationFindings : Json → Findings
  | .null => .none
  | .str s =>
    .when (!isKnownApplication s)
      (.warning s!"Unknown application_type '{s}', default archetype mapping applies")
  | _ => .error "Field 'application_type' must be a string"

def archetypeFindings : Json → Findings
  | .null | .str _ => .none
  | _ => .error "Field 'layout_archetype' must be a string"

/-- Findings about the fields ahead of the sections. -/
def topLevelFindings (fields : Fields) : Findings :=
  missingFindings fields ++ screenTypeFindings (fields.get "screenType") ++
    applicationFindings (fields.get "application_type") ++
    archetypeFindings (fields.get "layout_archetype")

/-- Findings about the canvas: advice only. -/
def canvasFindings (v : Json) : Except Failure Findings :=
  match v with
  | .null => .ok (.warning "Missing canvas_size, archetype default will be used")
  | _ => do
    match ← CanvasSize.ofWire? v with
    | some _ => .ok .none
    | none => .ok (.warning "Invalid canvas_size, archetype default will be used")

/-- Findings about a component's key. -/
def keyFindings (place : String) (key : Json) : Findings :=
  match key with
  | .null => .error s!"{place} missing componentKey"
  | _ =>
    .when (!Catalog.allowsValue key)
      (.error (s!"{place} has invalid componentKey '{key.display}'. " ++
        s!"Allowed: {commaList Catalog.keys}"))

/-- Findings about a component's text. -/
def textFindings (place : String) : Json → Findings
  | .null | .str _ => .none
  | _ => .error s!"{place} has non-string text"

/-- Findings about collections inside a component. -/
def nestingFindings (place : String) (fields : Fields) : Findings :=
  let key := Fields.get fields "componentKey"
  .join (nestedKeys.map fun nested =>
    .when (fields.has nested)
      (.error s!"{place} ({key.display}) cannot contain nested {nested}"))

/-- The attributes of a component that nothing reads, in order. -/
def unknownAttributes (fields : Fields) : List String :=
  sortTexts (fields.keys.filter fun key =>
    !(Catalog.knownAttributes.contains key || nestedKeys.contains key))

/-- Findings about attributes that nothing reads. -/
def attributeFindings (place : String) (fields : Fields) : Findings :=
  let extra := unknownAttributes fields
  .when (!extra.isEmpty)
    (.warning s!"{place} has unknown attributes: {commaList extra}")

def componentFindings (place : String) : Json → Findings
  | .obj fields =>
    keyFindings place (Fields.get fields "componentKey") ++ textFindings place (Fields.get fields "text") ++
      nestingFindings place fields ++ attributeFindings place fields
  | _ => .error s!"{place} must be an object"

/-- Findings about the components of a section, from a position on. -/
def componentsFrom (place : String) : Nat → List Json → Findings
  | _, [] => .none
  | i, v :: rest => componentFindings s!"{place} component {i}" v ++ componentsFrom place (i + 1) rest

/-- The name of a section: a text that is not empty. -/
def sectionName? : Json → Option String
  | .str s => if s = "" then none else some s
  | _ => none

def directionFindings (isMobile : Bool) (place : String) (direction : Json) : Findings :=
  if isOneOf (Direction.options.map (·.1)) direction then
    .when (isMobile && !isOneOf ["vertical"] direction)
      (.warning s!"{place} uses {direction.display} layout on a mobile screen")
  else .error s!"{place} has invalid layout_direction '{direction.display}'"

def componentsFindings (place : String) : Json → Findings
  | .arr items =>
    .when items.isEmpty (.warning s!"{place} has no components") ++ componentsFrom place 0 items
  | _ => .error s!"{place} has invalid components array"

def sectionFindings (isMobile : Bool) (index : Nat) : Json → Findings
  | .obj fields =>
    let name? := sectionName? (Fields.get fields "section_name")
    let name := name?.getD s!"#{index}"
    let place := s!"Section {index} ({name})"
    .when name?.isNone (.error s!"Section {index} missing section_name") ++
      .when (Fields.has fields "sections") (.error s!"{place} must not contain nested sections") ++
      directionFindings isMobile place ((Fields.get? fields "layout_direction").getD (.str "vertical")) ++
      componentsFindings place (Fields.get fields "components")
  | _ => .error s!"Section {index} must be an object"

def sectionsFrom (isMobile : Bool) : Nat → List Json → Findings
  | _, [] => .none
  | i, v :: rest => sectionFindings isMobile i v ++ sectionsFrom isMobile (i + 1) rest

/-- Findings about the sections of a document. -/
def sectionsFindings (fields : Fields) : Findings :=
  match fields.get? "sections" with
  | none => .none
  | some (.arr items) => sectionsFrom (isOneOf ["mobile"] (fields.get "screenType")) 0 items
  | some _ => .error "Field 'sections' must be an array"

/-- Findings about a whole value. -/
def documentFindings : Json → Except Failure Findings
  | .obj fields => do
    let canvas ← canvasFindings (Fields.get fields "canvas_size")
    .ok (topLevelFindings fields ++ canvas ++ sectionsFindings fields)
  | v => .ok (.error s!"Layout document must be a JSON object, got {v.typeName}")

end Validation

/-- Judges a value as a layout document. Only a canvas whose sides are out of range can stop it. -/
def validateLayout (raw : Json) : Except Failure ValidationResult := do
  let f ← Validation.documentFindings raw
  .ok ⟨f.errors.isEmpty, f.errors, f.warnings⟩

end Wireframe
