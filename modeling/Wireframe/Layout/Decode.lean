import Wireframe.Failure
import Wireframe.Layout.Basic

/-!
# Reading layout documents

* `CanvasSize.ofWire?` — a canvas from a well-formed object; anything else counts as no canvas.
* `LayoutDocument.ofWire` — a document from an object whose schema has been validated.

A key is looked up under the name used on the wire before the name with underscores; unknown keys
are passed over.
-/

namespace Wireframe

namespace CanvasSize

/-- A canvas with two positive sides, or the issues of the sides that are not. -/
def ofSides (width height : Schema.Checked Int) : Schema.Checked CanvasSize := do
  let (w, h) ← Schema.both width height
  if hw : 0 < w.toNat then
    if hh : 0 < h.toNat then .ok ⟨w.toNat, h.toNat, hw, hh⟩
    else Schema.issue (.notGreater 0) (.int h)
  else Schema.issue (.notGreater 0) (.int w)

/-- The sides of a canvas as typed arguments. -/
def read : Schema.Reader CanvasSize := fun v => do
  let fields ← Schema.fieldsOr (.notModel "CanvasSize") v
  ofSides (Schema.required fields ["width"] (Schema.intAbove 0))
    (Schema.required fields ["height"] (Schema.intAbove 0))

/-- A number as a side: positive, and neither a truth value nor of another type. -/
def isSide : Json → Bool
  | .int n => 0 < n
  | .float x => !x.le (Binary64.zero false)
  | _ => false

/-- The integer part of a side. -/
def wholeSide : Json → Except Failure Int
  | .int n => .ok n
  | .float x =>
    match x.trunc? with
    | some n => .ok n
    | none => .error (match x with | .nan => .nanToInteger | _ => .infinityToInteger)
  | v => .error (.noMember v.typeName "__int__")

/-- The canvas that a value describes, if it is an object with two positive sides. Fractions are cut
off; sides that are no number at all, infinite or below one stop the reading. -/
def ofWire? (v : Json) : Except Failure (Option CanvasSize) :=
  match v with
  | .obj fields =>
    let width := Fields.get fields "width"
    let height := Fields.get fields "height"
    if isSide width && isSide height then do
      let w ← wholeSide width
      let h ← wholeSide height
      let side (name : String) (n : Int) : Schema.Checked Int :=
        Schema.under (.field name) (Schema.intAbove 0 (.int n))
      match Schema.forModel "CanvasSize" (ofSides (side "width" w) (side "height" h)) with
      | .ok canvas => .ok (some canvas)
      | .error r => .error (.rejected r)
    else .ok none
  | _ => .ok none

end CanvasSize

def LayoutComponent.read : Schema.Reader LayoutComponent := fun v => do
  let fields ← Schema.fieldsOr (.notModel "LayoutComponent") v
  let (key, text) ← Schema.both
    (Schema.required fields ["componentKey", "component_key"] Schema.text)
    (Schema.optional fields ["text"] none (Schema.nullable Schema.text))
  .ok ⟨key, text⟩

/-- Reads a section; the direction is vertical and there are no components unless given. -/
def LayoutSection.read : Schema.Reader LayoutSection := fun v => do
  let fields ← Schema.fieldsOr (.notModel "LayoutSection") v
  let (name, direction, components) ← Schema.both
    (Schema.required fields ["section_name"] Schema.text)
    (Schema.both
      (Schema.optional fields ["layout_direction"] .vertical (Schema.oneOf Direction.options))
      (Schema.optional fields ["components"] [] (Schema.listOf .notTuple LayoutComponent.read)))
  .ok ⟨name, direction, components⟩

namespace LayoutDocument

/-- Reads the fields of a document whose canvas is known. -/
def readFields (fields : Fields) (canvas : Option CanvasSize) : Schema.Checked LayoutDocument := do
  let (screenType, applicationType, archetype, sections) ← Schema.both
    (Schema.required fields ["screenType", "screen_type"] (Schema.oneOf ScreenType.options))
    (Schema.both
      (Schema.required fields ["application_type"] Schema.text)
      (Schema.both
        (Schema.required fields ["layout_archetype"] Schema.text)
        (Schema.optional fields ["sections"] [] (Schema.listOf .notTuple LayoutSection.read))))
  .ok ⟨screenType, applicationType, archetype, canvas, sections⟩

/-- The document that a validated object describes. A canvas that is no canvas is dropped. -/
def ofFields (fields : Fields) : Except Failure LayoutDocument := do
  let canvas ← CanvasSize.ofWire? (fields.get "canvas_size")
  match Schema.forModel "LayoutDocument" (readFields fields canvas) with
  | .ok d => .ok d
  | .error r => .error (.rejected r)

/-- `ofFields` of an object; of other values, only the attempt to read fields is made. -/
def ofWire (v : Json) : Except Failure LayoutDocument :=
  match v with
  | .obj fields => ofFields fields
  | _ => do
    let _ ← v.asMapping
    .error (.noMember v.typeName "get")

end LayoutDocument

end Wireframe
