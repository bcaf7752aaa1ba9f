import Wireframe.Proofs.Layout.Grammar

/-!
# What validation promises

* `ofWire_mirrors_of_valid` — a value that is judged valid is read as a document that mirrors it.
* `canvas_advisory_unless_it_stops` — only a canvas without a whole side keeps a value from being
  judged, and no other canvas has a say in the errors.
-/

set_option autoImplicit false

namespace Wireframe

open Validation

/-! ## The end of validation -/

theorem documentFindings_of_validateLayout {raw : Json} {r : ValidationResult}
    (h : validateLayout raw = .ok r) :
    ∃ f, documentFindings raw = .ok f ∧ r = ⟨f.errors.isEmpty, f.errors, f.warnings⟩ := by
  unfold validateLayout at h
  cases hf : documentFindings raw with
  | error e => rw [hf] at h; cases h
  | ok f =>
    rw [hf] at h
    cases h
    exact ⟨f, rfl, rfl⟩

theorem valid_iff_layoutShape {raw : Json} {r : ValidationResult} (h : validateLayout raw = .ok r) :
    r.valid = true ↔ raw.IsObject LayoutShape := by
  obtain ⟨f, hf, rfl⟩ := documentFindings_of_validateLayout h
  rw [List.isEmpty_iff, documentFindings_errors hf]

theorem canvasFindings_error_iff {v : Json} :
    (∃ f, canvasFindings v = .error f) ↔ CanvasSize.Stops v := by
  rw [← CanvasSize.ofWire?_error_iff]
  cases hc : CanvasSize.ofWire? v with
  | error e =>
    refine iff_of_true ⟨e, ?_⟩ ⟨e, rfl⟩
    unfold canvasFindings
    split
    · cases hc
    · rw [hc]; rfl
  | ok canvas? =>
    refine iff_of_false ?_ nofun
    rintro ⟨f, hf⟩
    unfold canvasFindings at hf
    split at hf
    · cases hf
    · rw [hc] at hf
      cases canvas? <;> cases hf

theorem validateLayout_obj_error_iff {fields : Fields} :
    (∃ f, validateLayout (.obj fields) = .error f) ↔
      CanvasSize.Stops (fields.get "canvas_size") := by
  rw [← canvasFindings_error_iff]
  unfold validateLayout
  rw [documentFindings_obj]
  cases canvasFindings (fields.get "canvas_size") with
  | error e => exact iff_of_true ⟨e, rfl⟩ ⟨e, rfl⟩
  | ok canvas => exact iff_of_false nofun nofun

theorem validateLayout_error_iff {raw : Json} :
    (∃ f, validateLayout raw = .error f) ↔
      raw.IsObject fun fields => CanvasSize.Stops (fields.get "canvas_size") := by
  cases raw with
  | obj fields => rw [Json.isObject_obj, validateLayout_obj_error_iff]
  | _ =>
    refine iff_of_false nofun ?_
    rintro ⟨fields, h, _⟩
    cases h

/-- Only the canvas keeps an object from being judged. -/
theorem validateLayout_obj_ok {fields : Fields} (h : ¬CanvasSize.Stops (fields.get "canvas_size")) :
    ∃ r, validateLayout (.obj fields) = .ok r := by
  cases hv : validateLayout (.obj fields) with
  | ok r => exact ⟨r, rfl⟩
  | error f => exact absurd (validateLayout_obj_error_iff.1 ⟨f, hv⟩) h

/-! ## Judging and reading -/

/-- The canvas of an object that is judged can be read. -/
theorem canvas_of_validateLayout {fields : Fields} {r : ValidationResult}
    (h : validateLayout (.obj fields) = .ok r) :
    ∃ canvas?, CanvasSize.ofWire? (fields.get "canvas_size") = .ok canvas? := by
  cases hc : CanvasSize.ofWire? (fields.get "canvas_size") with
  | ok canvas? => exact ⟨canvas?, rfl⟩
  | error e =>
    obtain ⟨f, hf⟩ := validateLayout_obj_error_iff.2 (CanvasSize.ofWire?_error_iff.1 ⟨e, hc⟩)
    rw [h] at hf
    cases hf

theorem exists_mirrors_of_valid {raw : Json} {r : ValidationResult}
    (judged : validateLayout raw = .ok r) (valid : r.valid = true) :
    ∃ d : LayoutDocument, raw.IsObject d.Mirrors := by
  obtain ⟨fields, rfl, shape⟩ := (valid_iff_layoutShape judged).1 valid
  obtain ⟨canvas?, hc⟩ := canvas_of_validateLayout judged
  obtain ⟨d, hd⟩ := shape.exists_mirrors hc
  exact ⟨d, fields, rfl, hd⟩

theorem ofWire_of_mirrors {raw : Json} {d : LayoutDocument} (h : raw.IsObject d.Mirrors) :
    LayoutDocument.ofWire raw = .ok d := by
  obtain ⟨fields, rfl, hd⟩ := h
  exact LayoutDocument.ofFields_of_mirrors hd

/-- A layout with keys of its own at every level, among them a list of components at the top. -/
def annotatedLayout : Fields :=
  [("screen_type", .int 3), ("screenType", .str "mobile"), ("application_type", .str "auth"),
    ("layout_archetype", .str "mobile_form"),
    ("canvas_size", .obj [("width", .int 375), ("height", .float (.ofRatio false 1625 2))]),
    ("components", .arr []),
    ("sections", .arr [.obj
      [("section_name", .str "form_stack"), ("direction", .null),
        ("components", .arr [.obj
          [("component_key", .bool true), ("componentKey", .str "heading"), ("text", .null)]])]])]

theorem annotatedLayout_shape : LayoutShape annotatedLayout where
  screenType := ⟨.mobile, rfl⟩
  applicationType := ⟨"auth", rfl⟩
  archetype := ⟨"mobile_form", rfl⟩
  sections := by
    refine ⟨_, rfl, List.forall_mem_singleton.2 ⟨_, rfl, ⟨"form_stack", rfl, by decide⟩, rfl,
      ⟨.vertical, rfl⟩, _, rfl, List.forall_mem_singleton.2 ⟨_, rfl, ?_⟩⟩⟩
    exact ⟨⟨"heading", rfl, by decide⟩, ⟨none, rfl⟩, by decide⟩

theorem annotatedLayout_valid :
    ∃ r, validateLayout (.obj annotatedLayout) = .ok r ∧ r.valid = true := by
  obtain ⟨r, hr⟩ : ∃ r, validateLayout (.obj annotatedLayout) = .ok r := by
    apply validateLayout_obj_ok
    rintro ⟨_, h, -, -, hlacks⟩
    cases h
    revert hlacks
    decide
  exact ⟨r, hr, (valid_iff_layoutShape hr).2 ⟨_, rfl, annotatedLayout_shape⟩⟩

/-- **What is judged valid is read, as a document that says the same.** Keys that the wire format
does not know, also those with underscores for capitals, change nothing at any level. -/
theorem ofWire_mirrors_of_valid {raw : Json} {r : ValidationResult}
    (judged : validateLayout raw = .ok r) (valid : r.valid = true) :
    ∃ d : LayoutDocument, LayoutDocument.ofWire raw = .ok d ∧ raw.IsObject d.Mirrors := by
  obtain ⟨d, hd⟩ := exists_mirrors_of_valid judged valid
  exact ⟨d, ofWire_of_mirrors hd, hd⟩

theorem ofWire_mirrors_annotatedLayout :
    ∃ r, validateLayout (.obj annotatedLayout) = .ok r ∧ r.valid = true ∧
      ∃ d : LayoutDocument, LayoutDocument.ofWire (.obj annotatedLayout) = .ok d ∧
        (Json.obj annotatedLayout).IsObject d.Mirrors := by
  obtain ⟨r, judged, valid⟩ := annotatedLayout_valid
  exact ⟨r, judged, valid, ofWire_mirrors_of_valid judged valid⟩

/-! ## The canvas as advice -/

/-- The errors that an object has, whatever its canvas. -/
def structuralErrors (fields : Fields) : List String :=
  (topLevelFindings fields).errors ++ (sectionsFindings fields).errors

/-- Validation that comes to an end finds the structural errors. -/
theorem validateLayout_obj_eq_ok {fields : Fields} {r : ValidationResult}
    (h : validateLayout (.obj fields) = .ok r) :
    r.valid = (structuralErrors fields).isEmpty ∧ r.errors = structuralErrors fields := by
  obtain ⟨f, hf, rfl⟩ := documentFindings_of_validateLayout h
  unfold structuralErrors
  rw [← errors_of_documentFindings hf]
  exact ⟨rfl, rfl⟩

theorem structuralErrors_congr {a b : Fields}
    (h : ∀ key, key ≠ "canvas_size" → a.get? key = b.get? key) :
    structuralErrors a = structuralErrors b := by
  have hget : ∀ key, key ≠ "canvas_size" → a.get key = b.get key := by
    intro key hkey
    unfold Fields.get
    rw [h key hkey]
  have hmissing : missingFindings a = missingFindings b := by
    unfold missingFindings
    congr 1
    apply List.map_congr_left
    intro name hname
    rw [hget name]
    rintro rfl
    exact absurd hname (by decide)
  unfold structuralErrors topLevelFindings sectionsFindings
  rw [hmissing, hget "screenType" (by decide), hget "application_type" (by decide),
    hget "layout_archetype" (by decide), h "sections" (by decide)]

/-- **The canvas is advice, unless it stops the judgement.** A value is left without a judgement
exactly when it is an object whose canvas has two positive sides of which one has no whole part;
with any other canvas, and without one, the verdict and the errors are the same. -/
theorem canvas_advisory_unless_it_stops (raw : Json) :
    ((∃ f, validateLayout raw = .error f) ↔
      raw.IsObject fun fields => CanvasSize.Stops (fields.get "canvas_size")) ∧
    ∀ fields : Fields, raw = .obj fields →
      ∃ judged, validateLayout (.obj (fields.erase "canvas_size")) = .ok judged ∧
        (∀ r, validateLayout raw = .ok r → r.valid = judged.valid ∧ r.errors = judged.errors) ∧
        ∀ v, (CanvasSize.Stops v →
            ∃ f, validateLayout (.obj (fields.set "canvas_size" v)) = .error f) ∧
          (¬CanvasSize.Stops v →
            ∃ r, validateLayout (.obj (fields.set "canvas_size" v)) = .ok r ∧
              r.valid = judged.valid ∧ r.errors = judged.errors) := by
  refine ⟨validateLayout_error_iff, ?_⟩
  rintro fields rfl
  have herased : (fields.erase "canvas_size").get "canvas_size" = .null :=
    Fields.get_of_get?_none (Fields.get?_erase_self fields "canvas_size")
  obtain ⟨judged, hjudged⟩ : ∃ r, validateLayout (.obj (fields.erase "canvas_size")) = .ok r := by
    apply validateLayout_obj_ok
    rw [herased]
    rintro ⟨_, h, _⟩
    cases h
  obtain ⟨hvalid, herrors⟩ := validateLayout_obj_eq_ok hjudged
  have hsame : structuralErrors (fields.erase "canvas_size") = structuralErrors fields :=
    structuralErrors_congr fun key hkey => Fields.get?_erase_of_ne fields hkey
  rw [hsame] at hvalid herrors
  refine ⟨judged, hjudged, ?_, ?_⟩
  · intro r hr
    obtain ⟨hv, he⟩ := validateLayout_obj_eq_ok hr
    exact ⟨hv.trans hvalid.symm, he.trans herrors.symm⟩
  · intro v
    have hcanvas : (fields.set "canvas_size" v).get "canvas_size" = v :=
      Fields.get_of_get? (Fields.get?_set_self fields "canvas_size" v)
    have hset : structuralErrors (fields.set "canvas_size" v) = structuralErrors fields :=
      structuralErrors_congr fun key hkey => Fields.get?_set_of_ne fields v hkey
    constructor
    · intro hstops
      apply validateLayout_obj_error_iff.2
      rwa [hcanvas]
    · intro hpasses
      obtain ⟨r, hr⟩ := validateLayout_obj_ok (by rwa [hcanvas])
      obtain ⟨hv, he⟩ := validateLayout_obj_eq_ok hr
      rw [hset] at hv he
      exact ⟨r, hr, hv.trans hvalid.symm, he.trans herrors.symm⟩

/-- A layout 375 pixels wide and half a pixel high. -/
def thinCanvas : Json := .obj [("width", .int 375), ("height", .float (.ofRatio false 1 2))]

theorem thinCanvas_stops : CanvasSize.Stops thinCanvas := by
  have half : (Binary64.ofRatio false 1 2).toRatio? = some (2 ^ 52, 2 ^ 53) := by decide
  refine ⟨_, rfl, rfl, ?_, .inr (by decide)⟩
  exact (CanvasSize.isSide_float half).2 (by decide)

/-- A valid layout is left without a judgement when its canvas is half a pixel high. -/
theorem half_pixel_stops_validation :
    (∃ r, validateLayout (.obj annotatedLayout) = .ok r ∧ r.valid = true) ∧
      ∃ f, validateLayout (.obj (annotatedLayout.set "canvas_size" thinCanvas)) = .error f :=
  ⟨annotatedLayout_valid, validateLayout_obj_error_iff.2 thinCanvas_stops⟩

end Wireframe
