import Wireframe.Proofs.Layout.Advice
import Wireframe.Proofs.Layout.Metadata

/-!
# Reading layouts back

The wire form of a document is read back as the document, and the wire form of its enhanced form, which
says more, is read back as the same document. Both are judged valid, with nothing left to remark upon but
what the document itself leaves open.

* `validateLayout_toWire`, `validateLayout_enhanced_toWire` — the judgement of both wire forms.
* `wire_forms_read_back` — the round trips of a valid value.
-/

set_option autoImplicit false

namespace Wireframe

open Validation

/-! ## The judgement of wire forms -/

theorem keys_fields_known (c : LayoutComponent) :
    ∀ key ∈ Fields.keys c.fields, key ∈ Catalog.knownAttributes := by
  obtain ⟨key, text?⟩ := c
  cases text? <;>
    simp [Fields.keys, LayoutComponent.fields, Fields.ofOption, Catalog.knownAttributes]

theorem keys_enhanced_fields_known (c : EnhancedComponent) :
    ∀ key ∈ Fields.keys c.fields, key ∈ Catalog.knownAttributes := by
  have hplain := keys_fields_known c.toLayoutComponent
  have hadded : ∀ key ∈ ["component_role", "layout_priority"], key ∈ Catalog.knownAttributes := by
    decide
  unfold EnhancedComponent.fields
  unfold Fields.keys at hplain ⊢
  rw [List.map_append, List.forall_mem_append]
  exact ⟨hplain, hadded⟩

theorem LayoutSection.isQuiet {s : LayoutSection} (h : s.IsAllowed) :
    (sectionJson s.name s.direction (s.components.map fun c => .obj c.fields)).IsObject
      (IsQuiet s) := by
  refine ⟨_, rfl, h.name, rfl, rfl, rfl, _, rfl, List.isEmpty_map, ?_⟩
  refine List.forall_mem_map.2 fun c hc place => ?_
  exact componentFindings_eq_none place (h.components c hc) c.mirrors_fields (keys_fields_known c)

theorem EnhancedSection.isQuiet {s : EnhancedSection} (h : s.plain.IsAllowed) :
    (sectionJson s.name s.direction (s.components.map fun c => .obj c.fields)).IsObject
      (IsQuiet s.plain) := by
  refine ⟨_, rfl, h.name, rfl, rfl, rfl, _, rfl, ?_, ?_⟩
  · rw [EnhancedSection.plain, List.isEmpty_map, List.isEmpty_map]
  · refine List.forall_mem_map.2 fun c hc place => ?_
    exact componentFindings_eq_none place (h.components _ (List.mem_map_of_mem hc))
      c.mirrors_fields (keys_enhanced_fields_known c)

variable {d : LayoutDocument} {l : EnhancedLayout}

/-- The wire form of an allowed document is judged valid, with its advice. -/
theorem validateLayout_toWire (h : d.IsAllowed) :
    validateLayout d.toWire = .ok ⟨true, [], d.advice⟩ := by
  refine validateLayout_of_mirrors d.mirrors_wireFields (fun hc => ?_) ?_
  · rw [LayoutDocument.wireFields, get_headFields_canvas _ _ _ _ _ rfl, hc]
    rfl
  · rw [LayoutDocument.wireFields, get_headFields_of_rest _ _ _ _ _ (by decide)]
    refine ⟨_, rfl, List.forall₂_map_left_iff.2 (List.forall₂_same.2 fun s hs => ?_)⟩
    exact LayoutSection.isQuiet (h s hs)

/-- So is that of an enhanced layout, with the advice about the document in it. -/
theorem validateLayout_enhanced_toWire (h : l.plain.IsAllowed) :
    validateLayout l.toWire = .ok ⟨true, [], l.plain.advice⟩ := by
  refine validateLayout_of_mirrors l.plain_mirrors_wireFields (fun hc => ?_) ?_
  · have hl : l.canvas = none := hc
    rw [EnhancedLayout.wireFields, get_headFields_canvas _ _ _ _ _ rfl, hl]
    rfl
  · rw [EnhancedLayout.wireFields, get_headFields_of_rest _ _ _ _ _ (by decide)]
    refine ⟨_, rfl, List.forall₂_map_left_iff.2 (List.forall₂_map_right_iff.2 ?_)⟩
    exact List.forall₂_same.2 fun s hs => EnhancedSection.isQuiet (h _ (List.mem_map_of_mem hs))

/-! ## The round trips -/

/-- The wire form of a document is read as the document. -/
theorem LayoutDocument.ofWire_toWire (d : LayoutDocument) : ofWire d.toWire = .ok d :=
  ofWire_of_mirrors ⟨_, rfl, d.mirrors_wireFields⟩

theorem CanvasSize.ofWire?_cut {x : Binary64} {c : CanvasSize} (side : isSide (.float x) = true)
    (trunc : x.trunc? = some (c.height : Int)) :
    ofWire? (.obj [("width", .int c.width), ("height", .float x)]) = .ok (some c) := by
  have hw : (0 : Int) < c.width := by exact_mod_cast c.width_pos
  have hh : (0 : Int) < c.height := by exact_mod_cast c.height_pos
  have sides : (isSide (.int c.width) && isSide (.float x)) = true := by
    rw [side, Bool.and_true, isSide, decide_eq_true_iff]
    exact hw
  refine (if_pos sides).trans ?_
  show (wholeSide (.float x)).bind (ofWhole c.width) = _
  unfold wholeSide
  dsimp only
  rw [trunc]
  exact ofWhole_pos hw hh

/-- The document in `annotatedLayout`: the fraction of its canvas is cut off. -/
def annotatedDocument : LayoutDocument where
  screenType := .mobile
  applicationType := "auth"
  archetype := "mobile_form"
  canvas := some CanvasType.mobile.size
  sections := [⟨"form_stack", .vertical, [⟨"heading", none⟩]⟩]

theorem annotatedLayout_canvas : CanvasSize.ofWire? (annotatedLayout.get "canvas_size") =
    .ok (some CanvasType.mobile.size) := by
  have ratio : (Binary64.ofRatio false 1625 2).toRatio? = some (1625 * 2 ^ 42, 2 ^ 43) := by decide
  have trunc : (Binary64.ofRatio false 1625 2).trunc? = some 812 := by decide
  exact CanvasSize.ofWire?_cut (c := CanvasType.mobile.size)
    ((CanvasSize.isSide_float ratio).2 (by decide)) trunc

theorem annotatedDocument_mirrors : annotatedDocument.Mirrors annotatedLayout where
  screenType := rfl
  applicationType := rfl
  archetype := rfl
  canvas := annotatedLayout_canvas
  sections := ⟨_, rfl, .cons ⟨_, rfl, rfl, rfl, _, rfl, .cons ⟨_, rfl, rfl, rfl⟩ .nil⟩ .nil⟩

/-- **The wire forms of a valid value are read back.** The document that it is read as is read back
from its own wire form and from that of its enhanced form. Both are judged valid, with no remark but
those that the document gives cause for, none of them about an attribute of a component; to enhance
what is read back from the latter changes nothing. -/
theorem wire_forms_read_back {raw : Json} {r : ValidationResult}
    (judged : validateLayout raw = .ok r) (valid : r.valid = true) :
    ∃ d, LayoutDocument.ofWire raw = .ok d ∧ LayoutDocument.ofWire d.toWire = .ok d ∧
      validateLayout d.toWire = .ok ⟨true, [], d.advice⟩ ∧
      ∀ l, d.enhance = .ok l →
        LayoutDocument.ofWire l.toWire = .ok d ∧
        validateLayout l.toWire = .ok ⟨true, [], d.advice⟩ ∧
        (∀ s ∈ l.sections, ∀ c ∈ s.components, ∀ place, attributeFindings place c.fields = .none) ∧
        (LayoutDocument.ofWire l.toWire).bind (·.enhance) = .ok l := by
  obtain ⟨fields, rfl, shape⟩ := (valid_iff_layoutShape judged).1 valid
  obtain ⟨canvas?, hc⟩ := canvas_of_validateLayout judged
  obtain ⟨d, hd⟩ := shape.exists_mirrors hc
  have hallowed : d.IsAllowed := shape.isAllowed hd
  refine ⟨d, ofWire_of_mirrors ⟨_, rfl, hd⟩, d.ofWire_toWire, validateLayout_toWire hallowed,
    fun l hl => ?_⟩
  have hplain : l.plain = d := LayoutDocument.plain_of_enhance hl
  have hread : LayoutDocument.ofWire l.toWire = .ok d := by
    rw [← hplain]
    exact ofWire_of_mirrors ⟨_, rfl, l.plain_mirrors_wireFields⟩
  refine ⟨hread, ?_, fun s hs c hc place => ?_, ?_⟩
  · rw [← hplain] at hallowed ⊢
    exact validateLayout_enhanced_toWire hallowed
  · unfold attributeFindings
    rw [unknownAttributes_eq_nil (keys_enhanced_fields_known c)]
    rfl
  · rw [hread]
    exact hl

theorem wire_forms_read_back_annotatedLayout :
    ∃ r l, validateLayout (.obj annotatedLayout) = .ok r ∧ r.valid = true ∧
      LayoutDocument.ofWire (.obj annotatedLayout) = .ok annotatedDocument ∧
      annotatedDocument.enhance = .ok l ∧
      LayoutDocument.ofWire l.toWire = .ok annotatedDocument ∧
      validateLayout l.toWire = .ok ⟨true, [], []⟩ ∧
      (LayoutDocument.ofWire l.toWire).bind (·.enhance) = .ok l := by
  obtain ⟨r, judged, valid⟩ := annotatedLayout_valid
  obtain ⟨d, hread, -, -, hback⟩ := wire_forms_read_back judged valid
  have hdocument : LayoutDocument.ofWire (.obj annotatedLayout) = .ok annotatedDocument :=
    ofWire_of_mirrors ⟨_, rfl, annotatedDocument_mirrors⟩
  rw [hdocument] at hread
  cases hread
  obtain ⟨l, hl⟩ : ∃ l, annotatedDocument.enhance = .ok l := by
    rw [LayoutDocument.exists_enhance_iff]
    exact LayoutDocument.densityOn_size annotatedDocument.componentCount .mobile
  have hadvice : annotatedDocument.advice = [] := by decide
  obtain ⟨hwire, hjudged, -, hagain⟩ := hback l hl
  rw [hadvice] at hjudged
  exact ⟨r, l, judged, valid, hdocument, hl, hwire, hjudged, hagain⟩

end Wireframe
