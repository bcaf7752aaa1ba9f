import Wireframe.Layout.Archetype
import Wireframe.Proofs.Layout.Mirror

/-!
# Layouts on a canvas

An enhanced layout without a canvas is put on the frame of its archetype. Its metadata are those of the
layout that it has become: the density is that on the frame, and nothing else depends on the canvas.

* `LayoutDocument.IsPlaced` — an enhanced layout on the canvas of its document or of its archetype.
* `LayoutDocument.isPlaced_of_canvas`, `LayoutDocument.isPlaced_onCanvas` — how there comes to be one.
-/

set_option autoImplicit false

namespace Wireframe

namespace LayoutDocument

variable {d : LayoutDocument} {l e : EnhancedLayout} {config : ArchetypeConfig}

/-- There is a density on every frame. -/
theorem densityOn_size (components : Nat) (t : CanvasType) :
    ∃ density, densityOn components t.size = .ok density := by
  have hunits : ∃ units, Binary64.ofQuotient? t.size.area densityUnit = some units := by
    rw [← Option.isSome_iff_exists]
    cases t <;> decide
  obtain ⟨units, hunits⟩ := hunits
  unfold densityOn
  rw [hunits]
  dsimp only
  split
  · exact ⟨_, rfl⟩
  · split <;> exact ⟨_, rfl⟩

/-- The metadata of a document are there when its density is. -/
theorem metadata_eq_ok {m : LayoutMetadata} : d.metadata = .ok m ↔ d.density none = .ok m.density ∧
    m = ⟨d.complexity, d.userFlow, m.density, d.sections.length, d.componentCount⟩ := by
  unfold metadata
  cases d.density none with
  | error f => exact iff_of_false nofun fun h => nomatch h.1
  | ok density =>
    constructor
    · intro h
      cases h
      exact ⟨rfl, rfl⟩
    · rintro ⟨h, hm⟩
      cases h
      rw [hm]
      rfl

theorem enhance_eq_ok : d.enhance = .ok l ↔ ∃ m, d.metadata = .ok m ∧
    l = ⟨d.screenType, d.applicationType, d.archetype, d.canvas, d.sections.map (·.enhance), m⟩ := by
  unfold enhance
  cases d.metadata with
  | error f => exact iff_of_false nofun fun ⟨_, h, _⟩ => nomatch h
  | ok m =>
    constructor
    · intro h
      cases h
      exact ⟨m, rfl, rfl⟩
    · rintro ⟨_, h, rfl⟩
      cases h
      rfl

/-- A layout that is the enhanced form of a document, but for its canvas, which is that of the document
or else the frame of an archetype, and for the density that it has there. -/
structure IsPlaced (d : LayoutDocument) (config : ArchetypeConfig) (l : EnhancedLayout) : Prop where
  enhanced : ∃ e, d.enhance = .ok e ∧
    l = { e with
      canvas := some (d.canvasOr config)
      metadata := { e.metadata with density := l.metadata.density } }
  metadata : l.plain.metadata = .ok l.metadata

/-- With a canvas of its own, the enhanced form of a document is in its place. -/
theorem isPlaced_of_canvas {canvas : CanvasSize} (he : d.enhance = .ok l)
    (hcanvas : d.canvas = some canvas) (config : ArchetypeConfig) : d.IsPlaced config l := by
  refine ⟨⟨l, he, ?_⟩, ?_⟩
  · obtain ⟨m, -, rfl⟩ := enhance_eq_ok.1 he
    rw [canvasOr, hcanvas, Option.getD_some]
  · rw [plain_of_enhance he]
    obtain ⟨m, hm, rfl⟩ := enhance_eq_ok.1 he
    exact hm

/-- Without one, it has a place on the frame of every archetype. -/
theorem isPlaced_onCanvas (he : d.enhance = .ok e) (hcanvas : d.canvas = none)
    (config : ArchetypeConfig) :
    ∃ l, e.onCanvas config.canvasType.size = .ok l ∧ d.IsPlaced config l := by
  obtain ⟨density, hdensity⟩ := densityOn_size e.plain.componentCount config.canvasType
  have hplaced : e.onCanvas config.canvasType.size = .ok
      { e with
        canvas := some config.canvasType.size
        metadata := { e.metadata with density := density } } := by
    unfold EnhancedLayout.onCanvas
    rw [show e.plain.density (some config.canvasType.size) = .ok density from hdensity]
    rfl
  refine ⟨_, hplaced, ⟨e, he, ?_⟩, ?_⟩
  · rw [canvasOr, hcanvas, Option.getD_none]
  · rw [plain_of_enhance he] at hdensity
    obtain ⟨m, hm, rfl⟩ := enhance_eq_ok.1 he
    have hplain : ∀ canvas m', EnhancedLayout.plain ⟨d.screenType, d.applicationType, d.archetype,
        some canvas, d.sections.map (·.enhance), m'⟩ = d.withCanvas canvas := by
      intro canvas m'
      exact congrArg (·.withCanvas canvas) (plain_of_enhance he)
    rw [hplain, metadata_eq_ok]
    exact ⟨hdensity, congrArg (fun m : LayoutMetadata => { m with density := density })
      (metadata_eq_ok.1 hm).2⟩

end LayoutDocument

end Wireframe
