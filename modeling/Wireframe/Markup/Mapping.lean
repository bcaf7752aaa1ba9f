import Wireframe.Design.Basic
import Wireframe.Failure
import Wireframe.Json.Writer
import Wireframe.Schema.Decode

/-!
# The mapping table

A table maps kinds of components to the tags that show them and the modules these need. The attribute
templates of an entry describe it; the markup of a component is built by type, not from them.

* `MappingTable.entryFor` — the entry of a kind, or a fault that names the kind.
* `MappingTable.checkAll` — whether all components have entries; the fault names every one that has
  none.
* `MappingTable.importsFor` — the modules that components need.
-/

namespace Wireframe

/-- How a kind of component is shown. -/
structure MappingEntry where
  kind : String
  tag : String
  attributes : List (String × String)
  content : Option String
  /-- The modules needed, in order, each once. -/
  imports : List String
  deriving DecidableEq, Repr

/-- Entries by kind. -/
abbrev MappingTable := List (String × MappingEntry)

def MappingEntry.toJson (e : MappingEntry) : Json :=
  .obj [("tag", .str e.tag), ("attributes", .obj (e.attributes.map fun (k, v) => (k, .str v))),
    ("content", .ofText? e.content), ("imports", .ofTexts e.imports)]

/-- The entry of a kind in the standard table. -/
def MappingEntry.standard : Kind → MappingEntry
  | .heading => {
      kind := "heading"
      tag := "h1"
      attributes := []
      content := some "\x7b\x7btext\x7d\x7d"
      imports := [] }
  | .text => {
      kind := "text"
      tag := "p"
      attributes := [("class", "text-content")]
      content := some "\x7b\x7btext\x7d\x7d"
      imports := [] }
  | .input => {
      kind := "input"
      tag := "p-inputText"
      attributes := [
        ("type", "\x7b\x7binputType\x7d\x7d"),
        ("placeholder", "\x7b\x7blabel\x7d\x7d"),
        ("[(ngModel)]", "\x7b\x7bcamelCase(label)\x7d\x7dValue")]
      content := none
      imports := ["FormsModule", "InputTextModule"] }
  | .button => {
      kind := "button"
      tag := "p-button"
      attributes := [
        ("label", "\x7b\x7btext\x7d\x7d"),
        ("severity", "\x7b\x7bmapButtonVariant(variant)\x7d\x7d"),
        ("(click)", "on\x7b\x7bpascalCase(text)\x7d\x7dClick()")]
      content := none
      imports := ["ButtonModule"] }
  | .container => {
      kind := "container"
      tag := "div"
      attributes := [("class", "\x7b\x7bmapContainerVariant(variant)\x7d\x7d")]
      content := some "<!-- Container content -->"
      imports := [] }

namespace MappingTable

def standard : MappingTable := Kind.all.map fun k => (k.tag, .standard k)

def find? (table : MappingTable) (kind : String) : Option MappingEntry := table.lookup kind

/-- The entry of a kind given as a value; only texts are kinds. -/
def findValue? (table : MappingTable) (kind : Json) : Option MappingEntry := kind.text?.bind table.find?

/-- The entry of a kind, or a fault that names it. -/
def entryFor (table : MappingTable) (kind : Json) : Except Failure MappingEntry :=
  match table.findValue? kind with
  | some entry => .ok entry
  | none => Failure.throwFault (.unmapped [⟨some .null, kind⟩])

/-- The kinds without an entry, with their places, from a position on. -/
def unmappedFrom (table : MappingTable) : Nat → List Json → List UnmappedKind
  | _, [] => []
  | i, kind :: rest =>
    if (table.findValue? kind).isSome then table.unmappedFrom (i + 1) rest
    else ⟨some (.ofNat i), kind⟩ :: table.unmappedFrom (i + 1) rest

def checkAll (table : MappingTable) (kinds : List Json) : Except Failure Unit :=
  match table.unmappedFrom 0 kinds with
  | [] => .ok ()
  | entries => Failure.throwFault (.unmapped entries)

/-- The modules that kinds need, in order, each once. -/
def importsFor (table : MappingTable) (kinds : List Json) : Except Failure (List String) := do
  let entries ← kinds.mapM table.entryFor
  .ok (sortedDistinct (entries.flatMap (·.imports)))

/-- A table as JSON, in the order of its kinds. -/
def toJson (table : MappingTable) : Json :=
  Json.sortKeys (.obj (table.map fun (kind, entry) => (kind, entry.toJson)))

end MappingTable

/-- The kind that a value claims to be of: its tag, or null for what is no object. -/
def kindOf : Json → Json
  | .obj fields => Fields.get fields "type"
  | _ => .null

/-- The kind of a component as a value. -/
def Kind.toJson (k : Kind) : Json := .str k.tag

/-! ## Reading entries -/

/-- Reads the value of an attribute template. -/
def readTemplate (field : String × Json) : Schema.Checked (String × String) :=
  (Schema.under (.field field.1) (Schema.text field.2)).map fun s => (field.1, s)

/-- Reads attribute templates in order. -/
def readTemplates : Fields → Schema.Checked (List (String × String))
  | [] => .ok []
  | field :: rest => (Schema.both (readTemplate field) (readTemplates rest)).map fun (t, ts) => t :: ts

def MappingEntry.read : Schema.Reader MappingEntry := fun v => do
  let fields ← Schema.fieldsOr (.notModel "ComponentMappingEntry") v
  let (kind, tag, attributes, content, imports) ← Schema.both
    (Schema.required fields ["kind"] Schema.text)
    (Schema.both
      (Schema.required fields ["targetTag", "target_tag"] Schema.text)
      (Schema.both
        (Schema.optional fields ["attributeTemplates", "attribute_templates"] [] fun w => do
          readTemplates (← Schema.fieldsOr .notObject w))
        (Schema.both
          (Schema.optional fields ["contentTemplate", "content_template"] none
            (Schema.nullable Schema.text))
          (Schema.optional fields ["requiredImports", "required_imports"] []
            (Schema.listOf .notSet Schema.text)))))
  .ok { kind, tag, attributes, content, imports := sortedDistinct imports }

end Wireframe
