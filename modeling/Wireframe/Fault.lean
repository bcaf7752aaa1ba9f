import Wireframe.Json.Display

/-!
# Faults of the service

Each constructor is a cause; `Fault.message` words it and `Fault.report` is the object in which it is
handed to a client. `FaultKind.ancestors` gives the families a kind belongs to.
-/

namespace Wireframe

inductive FaultKind where
  | general
  | schema
  | archetype
  | ir
  | invalidInput
  | missingField
  | missingComponentType
  | mapping
  | unmappedKind
  | prompt
  | generation
  | extraction
  | structural
  deriving DecidableEq, Repr

namespace FaultKind

/-- The name of a family in reports. -/
def name : FaultKind → String
  | general => "LayoutForgeError"
  | schema => "SchemaError"
  | archetype => "ArchetypeError"
  | ir => "IRError"
  | invalidInput => "InvalidInput"
  | missingField => "MissingField"
  | missingComponentType => "MissingComponentType"
  | mapping => "MappingError"
  | unmappedKind => "UnmappedComponentKind"
  | prompt => "PromptError"
  | generation => "GenerationError"
  | extraction => "ExtractionError"
  | structural => "StructuralValidationError"

def all : List FaultKind :=
  [general, schema, archetype, ir, invalidInput, missingField, missingComponentType, mapping,
    unmappedKind, prompt, generation, extraction, structural]

def ofName? (s : String) : Option FaultKind := all.find? (·.name == s)

/-- A family and those that contain it, nearest first. -/
def ancestors : FaultKind → List FaultKind
  | general => [general]
  | invalidInput => [invalidInput, ir, general]
  | missingField => [missingField, ir, general]
  | missingComponentType => [missingComponentType, ir, general]
  | unmappedKind => [unmappedKind, mapping, general]
  | k => [k, general]

/-- The category of the issues that a family stands for. -/
def category? : FaultKind → Option String
  | extraction => some "extraction"
  | structural => some "structure"
  | _ => none

end FaultKind

/-- A component kind without a mapping entry, with its place in the list when it has one. -/
structure UnmappedKind where
  index : Option Json
  kind : Json
  deriving Repr

/-- What went wrong. -/
inductive Fault where
  /-- A fault told by its message, with details for the report. -/
  | told (kind : FaultKind) (message : String) (details : Fields)
  /-- A layout document with structural errors. -/
  | schema (message : String) (errors warnings : List String) (received : Json)
  /-- An archetype that is not in the table; `expected` is null when no other is suggested. -/
  | archetype (key expected : Json) (available : List String)
  /-- A design without one of its fields. -/
  | missingField (field : String)
  /-- A component without a kind. -/
  | missingComponentType (index : Json)
  /-- Component kinds that no mapping entry covers. -/
  | unmapped (entries : List UnmappedKind)
  deriving Repr

/-- An entry as it is listed in a message. -/
def UnmappedKind.listed (e : UnmappedKind) : String :=
  match e.index with
  | none | some .null => e.kind.display
  | some i => s!"#{i.display}:{e.kind.display}"

/-- An entry in a report. -/
def UnmappedKind.toJson (e : UnmappedKind) : Json :=
  .obj ((match e.index with | some i => [("index", i)] | none => []) ++ [("kind", e.kind)])

namespace Fault

def kind : Fault → FaultKind
  | told k _ _ => k
  | schema .. => .schema
  | archetype .. => .archetype
  | missingField _ => .missingField
  | missingComponentType _ => .missingComponentType
  | unmapped _ => .unmappedKind

def message : Fault → String
  | told _ m _ => m
  | schema m _ _ _ => m
  | archetype key _ _ => s!"Invalid layout archetype: {key.quotedText}"
  | missingField field => s!"Missing required field: {field}"
  | missingComponentType index => s!"Component at index {index.display} missing type field"
  | unmapped entries =>
    s!"Unmapped component kinds: {commaList (entries.map UnmappedKind.listed)}"

/-- What a fault of structure adds to its report. -/
def schemaDetails (errors warnings received : Json) : Fields :=
  [("validationErrors", errors), ("validationWarnings", warnings), ("received", received)]

/-- What a fault of an archetype adds to its report. -/
def archetypeDetails (key expected available : Json) : Fields :=
  [("received", key), ("expected", expected), ("availableArchetypes", available)]

/-- What a fault adds to its report. -/
def details : Fault → Fields
  | told _ _ d => d
  | schema _ errors warnings received =>
    schemaDetails (.ofTexts errors) (.ofTexts warnings) received
  | archetype key expected available =>
    archetypeDetails key expected (.ofTexts available)
  | missingField _ | missingComponentType _ => []
  | unmapped entries => [("unmapped", .arr (entries.map UnmappedKind.toJson))]

/-- The report of a fault: its family and message, then its details, which may replace both. -/
def report (f : Fault) : Fields :=
  Fields.update [("type", .str f.kind.name), ("message", .str f.message)] f.details

end Fault

end Wireframe
