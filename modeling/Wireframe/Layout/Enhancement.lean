import Wireframe.Failure
import Wireframe.Layout.Basic
import Wireframe.Naming
import Wireframe.Text.Search

/-!
# Enhancing layouts

* `LayoutDocument.complexity` — from one to ten, by the number of sections and components.
* `LayoutDocument.userFlow` — what a user mainly does on the screen.
* `LayoutDocument.density` — components per hundred thousand square pixels, in three classes.
* `LayoutDocument.enhance` — the document with these and with a role and priority per component.
-/

namespace Wireframe

/-- Names of sections that hold a form. -/
def formSectionNames : List String := ["form", "centered_form", "form_stack"]

/-- Parts of the names of sections that are browsed. -/
def browseMarkers : List String := ["grid", "cards", "product"]

/-- The area, in square pixels, to which densities refer. -/
def densityUnit : Nat := 100000

/-- Half the product of the number of sections and the average number of components, the average
being rounded to a double first. -/
def halfLoad (sections components : Nat) : Binary64 :=
  match Binary64.ofQuotient? components sections with
  | some average => ((Binary64.ofInt sections).mul average).div (Binary64.ofInt 2)
  | none => Binary64.zero false

namespace LayoutDocument

/-- How complex a document is, from one to ten. -/
def complexity (d : LayoutDocument) : Nat :=
  if d.sections.isEmpty then 1
  else
    let score := ((halfLoad d.sections.length d.componentCount).roundEven?).getD 0
    max 1 (min 10 score.toNat)

def keys (d : LayoutDocument) : List String := d.components.map (·.key)

/-- Whether a document is a form: it has two text inputs, or a section with a form's name. -/
def isForm (d : LayoutDocument) : Bool :=
  2 ≤ d.keys.count "text_input" ||
    d.sections.any fun s => formSectionNames.contains (Naming.lowerCase s.name)

/-- Whether a document is browsed: it has a grid, or a section named for one. -/
def isBrowsed (d : LayoutDocument) : Bool :=
  (d.sections.any fun s => s.direction == .grid) ||
    d.sections.any fun s => browseMarkers.any fun m =>
      Text.occursIn m.toList (Text.lower s.name.toList)

/-- What a user mainly does on a screen. -/
def userFlow (d : LayoutDocument) : UserFlow :=
  if d.isForm then .input
  else if d.isBrowsed || d.keys.isEmpty then .browse
  else if d.keys.length < (d.keys.countP fun k => Catalog.textKeys.contains k) * 2 then .read
  else if d.keys.all fun k => Catalog.buttonKeys.contains k then .action
  else .browse

/-- The density of a number of components on a canvas. -/
def densityOn (components : Nat) (canvas : CanvasSize) : Except Failure Density :=
  match Binary64.ofQuotient? canvas.area densityUnit with
  | none => .error .quotientTooLarge
  | some units =>
    let perUnit := (Binary64.ofInt components).div units
    if perUnit.lt (Binary64.ofInt 1) then .ok .low
    else if perUnit.lt (Binary64.ofRatio false 5 2) then .ok .medium
    else .ok .high

/-- The density of a document on a canvas, its own unless another is given; medium without any. -/
def density (d : LayoutDocument) (canvas : Option CanvasSize) : Except Failure Density :=
  match canvas <|> d.canvas with
  | none => .ok .medium
  | some c => densityOn d.componentCount c

end LayoutDocument

def Role.priority : Role → Priority
  | primaryAction | title => .high
  | input | content => .medium
  | secondaryAction | placeholder | container => .low

/-- A component with its role, content unless the catalog has another, and its priority. -/
def LayoutComponent.enhance (c : LayoutComponent) : EnhancedComponent :=
  let role := (Catalog.role? c.key).getD .content
  { toLayoutComponent := c, role := role, priority := role.priority }

def LayoutSection.enhance (s : LayoutSection) : EnhancedSection :=
  ⟨s.name, s.direction, s.components.map (·.enhance)⟩

def LayoutDocument.metadata (d : LayoutDocument) : Except Failure LayoutMetadata := do
  let density ← d.density none
  .ok ⟨d.complexity, d.userFlow, density, d.sections.length, d.componentCount⟩

def LayoutDocument.enhance (d : LayoutDocument) : Except Failure EnhancedLayout := do
  let metadata ← d.metadata
  .ok ⟨d.screenType, d.applicationType, d.archetype, d.canvas, d.sections.map (·.enhance), metadata⟩

/-- A layout on a canvas, with the density that it has there. -/
def EnhancedLayout.onCanvas (l : EnhancedLayout) (canvas : CanvasSize) :
    Except Failure EnhancedLayout := do
  let density ← l.plain.density (some canvas)
  .ok { l with canvas := some canvas, metadata := { l.metadata with density := density } }

end Wireframe
