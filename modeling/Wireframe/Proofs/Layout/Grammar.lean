import Wireframe.Layout.Validation
import Wireframe.Proofs.Layout.Mirror

/-!
# The grammar of layout documents

`LayoutShape`, `SectionShape` and `ComponentShape` say which objects are layouts, sections and
components, without a word about findings. Validation finds no error exactly in those.

* `componentFindings_errors`, `sectionFindings_errors`, `documentFindings_errors` — a part has no
  errors exactly when it has its shape.
* `ComponentShape.exists_mirrors`, `SectionShape.exists_mirrors`, `LayoutShape.exists_mirrors` — what
  has the shape is mirrored by a typed value.
-/

set_option autoImplicit false

namespace Wireframe

/-- An object that is a component: an allowed key, a text or none, and no collection inside. -/
structure ComponentShape (fields : Fields) : Prop where
  key : ∃ key, fields.get "componentKey" = .str key ∧ Catalog.allows key = true
  text : ∃ text?, fields.get "text" = .ofText? text?
  flat : ∀ nested ∈ nestedKeys, fields.has nested = false

/-- An object that is a section: a name, a direction or none, and a list of components. -/
structure SectionShape (fields : Fields) : Prop where
  name : ∃ name, fields.get "section_name" = .str name ∧ name ≠ ""
  flat : fields.has "sections" = false
  direction : ∃ d : Direction,
    (fields.get? "layout_direction").getD (.str "vertical") = .str d.text
  components : (fields.get "components").IsArray fun items =>
    ∀ v ∈ items, v.IsObject ComponentShape

/-- An object that is a layout: a screen type, an application, an archetype, a list of sections. -/
structure LayoutShape (fields : Fields) : Prop where
  screenType : ∃ t : ScreenType, fields.get "screenType" = .str t.text
  applicationType : ∃ name, fields.get "application_type" = .str name
  archetype : ∃ name, fields.get "layout_archetype" = .str name
  sections : (fields.get "sections").IsArray fun items => ∀ v ∈ items, v.IsObject SectionShape

/-! ## Findings of parts -/

namespace Findings

@[simp] theorem errors_none : none.errors = [] := rfl

@[simp] theorem errors_error (message : String) : (error message).errors = [message] := rfl

@[simp] theorem errors_warning (message : String) : (warning message).errors = [] := rfl

theorem errors_when_warning (b : Bool) (message : String) :
    (when b (warning message)).errors = [] := by
  cases b <;> rfl

theorem errors_when_error {b : Bool} {message : String} :
    (when b (error message)).errors = [] ↔ b = false := by
  cases b <;> simp [when]

theorem errors_join_eq_nil {parts : List Findings} :
    (join parts).errors = [] ↔ ∀ f ∈ parts, f.errors = [] := by
  simp [join]

theorem errors_append_eq_nil {a b : Findings} :
    (a ++ b).errors = [] ↔ a.errors = [] ∧ b.errors = [] := by
  rw [errors_append, List.append_eq_nil_iff]

end Findings

namespace Validation

open Findings

theorem isOneOf_iff {texts : List String} {v : Json} :
    isOneOf texts v = true ↔ ∃ s ∈ texts, v = .str s := by
  cases v <;> simp [isOneOf]

theorem isOneOf_screenTypes {v : Json} :
    isOneOf (ScreenType.options.map (·.1)) v = true ↔ ∃ t : ScreenType, v = .str t.text := by
  rw [isOneOf_iff]
  constructor
  · rintro ⟨s, hs, rfl⟩
    simp only [ScreenType.options, List.map_cons, List.map_nil, List.mem_cons, List.not_mem_nil,
      or_false] at hs
    rcases hs with rfl | rfl
    · exact ⟨.web, rfl⟩
    · exact ⟨.mobile, rfl⟩
  · rintro ⟨t, rfl⟩
    exact ⟨t.text, by cases t <;> decide, rfl⟩

theorem isOneOf_directions {v : Json} :
    isOneOf (Direction.options.map (·.1)) v = true ↔ ∃ d : Direction, v = .str d.text := by
  rw [isOneOf_iff]
  constructor
  · rintro ⟨s, hs, rfl⟩
    simp only [Direction.options, List.map_cons, List.map_nil, List.mem_cons, List.not_mem_nil,
      or_false] at hs
    rcases hs with rfl | rfl | rfl
    · exact ⟨.vertical, rfl⟩
    · exact ⟨.horizontal, rfl⟩
    · exact ⟨.grid, rfl⟩
  · rintro ⟨d, rfl⟩
    exact ⟨d.text, by cases d <;> decide, rfl⟩

theorem keyFindings_errors {place : String} {v : Json} :
    (keyFindings place v).errors = [] ↔ ∃ key, v = .str key ∧ Catalog.allows key = true := by
  cases v <;> simp [keyFindings, errors_when_error, Catalog.allowsValue]

theorem textFindings_errors {place : String} {v : Json} :
    (textFindings place v).errors = [] ↔ ∃ text?, v = .ofText? text? := by
  constructor
  · intro h
    cases v with
    | null => exact ⟨none, rfl⟩
    | str s => exact ⟨some s, rfl⟩
    | _ => cases h
  · rintro ⟨text?, rfl⟩
    cases text? <;> rfl

theorem nestingFindings_errors {place : String} {fields : Fields} :
    (nestingFindings place fields).errors = [] ↔
      ∀ nested ∈ nestedKeys, fields.has nested = false := by
  unfold nestingFindings
  simp only [errors_join_eq_nil, List.forall_mem_map, errors_when_error]

theorem attributeFindings_errors (place : String) (fields : Fields) :
    (attributeFindings place fields).errors = [] := by
  unfold attributeFindings
  exact errors_when_warning _ _

theorem componentFindings_errors {place : String} {v : Json} :
    (componentFindings place v).errors = [] ↔ v.IsObject ComponentShape := by
  cases v with
  | obj fields =>
    rw [Json.isObject_obj, componentFindings, errors_append_eq_nil, errors_append_eq_nil,
      errors_append_eq_nil, keyFindings_errors, textFindings_errors, nestingFindings_errors]
    constructor
    · rintro ⟨⟨⟨hkey, htext⟩, hflat⟩, _⟩
      exact ⟨hkey, htext, hflat⟩
    · rintro ⟨hkey, htext, hflat⟩
      exact ⟨⟨⟨hkey, htext⟩, hflat⟩, attributeFindings_errors place fields⟩
  | _ => simp [componentFindings, Json.IsObject]

theorem componentsFrom_errors {place : String} {i : Nat} {items : List Json} :
    (componentsFrom place i items).errors = [] ↔ ∀ v ∈ items, v.IsObject ComponentShape := by
  induction items generalizing i with
  | nil => simp [componentsFrom]
  | cons v rest ih =>
    rw [componentsFrom, errors_append_eq_nil, componentFindings_errors, ih, List.forall_mem_cons]

theorem componentsFindings_errors {place : String} {v : Json} :
    (componentsFindings place v).errors = [] ↔
      v.IsArray fun items => ∀ v ∈ items, v.IsObject ComponentShape := by
  cases v with
  | arr items =>
    rw [Json.isArray_arr, componentsFindings, errors_append_eq_nil, componentsFrom_errors]
    exact and_iff_right (errors_when_warning _ _)
  | _ => simp [componentsFindings, Json.IsArray]

theorem sectionName?_isNone_eq_false {v : Json} :
    (sectionName? v).isNone = false ↔ ∃ name, v = .str name ∧ name ≠ "" := by
  cases v with
  | str s =>
    by_cases h : s = "" <;> simp [sectionName?, h]
  | _ => simp [sectionName?]

theorem directionFindings_errors {isMobile : Bool} {place : String} {v : Json} :
    (directionFindings isMobile place v).errors = [] ↔ ∃ d : Direction, v = .str d.text := by
  rw [← isOneOf_directions]
  unfold directionFindings
  split
  · rename_i h
    exact iff_of_true (errors_when_warning _ _) h
  · rename_i h
    exact iff_of_false (List.cons_ne_nil _ _) h

theorem sectionFindings_errors {isMobile : Bool} {index : Nat} {v : Json} :
    (sectionFindings isMobile index v).errors = [] ↔ v.IsObject SectionShape := by
  cases v with
  | obj fields =>
    simp only [Json.isObject_obj, sectionFindings, errors_append_eq_nil, errors_when_error,
      sectionName?_isNone_eq_false, directionFindings_errors, componentsFindings_errors]
    constructor
    · rintro ⟨⟨⟨hname, hflat⟩, hdirection⟩, hcomponents⟩
      exact ⟨hname, hflat, hdirection, hcomponents⟩
    · rintro ⟨hname, hflat, hdirection, hcomponents⟩
      exact ⟨⟨⟨hname, hflat⟩, hdirection⟩, hcomponents⟩
  | _ => simp [sectionFindings, Json.IsObject]

theorem sectionsFrom_errors {isMobile : Bool} {i : Nat} {items : List Json} :
    (sectionsFrom isMobile i items).errors = [] ↔ ∀ v ∈ items, v.IsObject SectionShape := by
  induction items generalizing i with
  | nil => simp [sectionsFrom]
  | cons v rest ih =>
    rw [sectionsFrom, errors_append_eq_nil, sectionFindings_errors, ih, List.forall_mem_cons]

/-! ## Findings of a whole document -/

theorem missingFindings_errors {fields : Fields} :
    (missingFindings fields).errors = [] ↔
      ∀ name ∈ requiredFields, (fields.get name).isNull = false := by
  unfold missingFindings
  simp only [errors_join_eq_nil, List.forall_mem_map, errors_when_error]

theorem screenTypeFindings_errors {v : Json} :
    (screenTypeFindings v).errors = [] ↔ v.isNull = true ∨ ∃ t : ScreenType, v = .str t.text := by
  rw [← isOneOf_screenTypes]
  unfold screenTypeFindings
  rw [errors_when_error]
  cases v.isNull <;> simp

theorem applicationFindings_errors {v : Json} :
    (applicationFindings v).errors = [] ↔ v.isNull = true ∨ ∃ name, v = .str name := by
  cases v <;> simp [applicationFindings, Json.isNull, errors_when_warning]

theorem archetypeFindings_errors {v : Json} :
    (archetypeFindings v).errors = [] ↔ v.isNull = true ∨ ∃ name, v = .str name := by
  cases v <;> simp [archetypeFindings, Json.isNull]

theorem sectionsFindings_errors {fields : Fields} (h : (fields.get "sections").isNull = false) :
    (sectionsFindings fields).errors = [] ↔
      (fields.get "sections").IsArray fun items => ∀ v ∈ items, v.IsObject SectionShape := by
  unfold sectionsFindings
  cases hg : fields.get? "sections" with
  | none => rw [Fields.get_of_get?_none hg] at h; cases h
  | some v =>
    rw [Fields.get_of_get? hg]
    cases v with
    | arr items => rw [Json.isArray_arr, sectionsFrom_errors]
    | _ => simp [Json.IsArray]

theorem topLevelFindings_errors {fields : Fields} :
    (topLevelFindings fields).errors = [] ↔
      (∃ t : ScreenType, fields.get "screenType" = .str t.text) ∧
        (∃ name, fields.get "application_type" = .str name) ∧
        (∃ name, fields.get "layout_archetype" = .str name) ∧
        (fields.get "sections").isNull = false := by
  rw [topLevelFindings, errors_append_eq_nil, errors_append_eq_nil, errors_append_eq_nil,
    missingFindings_errors, screenTypeFindings_errors, applicationFindings_errors,
    archetypeFindings_errors]
  simp only [requiredFields, List.forall_mem_cons, List.not_mem_nil, false_implies, implies_true,
    and_true]
  constructor
  · rintro ⟨⟨⟨⟨hs, ha, hl, hsec⟩, hscreen⟩, happ⟩, harch⟩
    exact ⟨hscreen.resolve_left (by simp [hs]), happ.resolve_left (by simp [ha]),
      harch.resolve_left (by simp [hl]), hsec⟩
  · rintro ⟨⟨t, ht⟩, ⟨a, ha⟩, ⟨l, hl⟩, hsec⟩
    refine ⟨⟨⟨⟨?_, ?_, ?_, hsec⟩, .inr ⟨t, ht⟩⟩, .inr ⟨a, ha⟩⟩, .inr ⟨l, hl⟩⟩
    · rw [ht]; rfl
    · rw [ha]; rfl
    · rw [hl]; rfl

theorem canvasFindings_errors {v : Json} {f : Findings} (h : canvasFindings v = .ok f) :
    f.errors = [] := by
  unfold canvasFindings at h
  split at h
  · cases h; rfl
  · cases hc : CanvasSize.ofWire? v with
    | error e => rw [hc] at h; cases h
    | ok canvas? =>
      rw [hc] at h
      cases canvas? <;> cases h <;> rfl

theorem documentFindings_obj (fields : Fields) :
    documentFindings (.obj fields) =
      (canvasFindings (fields.get "canvas_size")).bind fun canvas =>
        .ok (topLevelFindings fields ++ canvas ++ sectionsFindings fields) := rfl

/-- The errors about an object are those about its top level and its sections. -/
theorem errors_of_documentFindings {fields : Fields} {f : Findings}
    (h : documentFindings (.obj fields) = .ok f) :
    f.errors = (topLevelFindings fields).errors ++ (sectionsFindings fields).errors := by
  rw [documentFindings_obj] at h
  cases hc : canvasFindings (fields.get "canvas_size") with
  | error e => rw [hc] at h; cases h
  | ok canvas =>
    rw [hc] at h
    cases h
    rw [errors_append, errors_append, canvasFindings_errors hc, List.append_nil]

theorem layoutShape_iff {fields : Fields} :
    (topLevelFindings fields).errors = [] ∧ (sectionsFindings fields).errors = [] ↔
      LayoutShape fields := by
  rw [topLevelFindings_errors]
  constructor
  · rintro ⟨⟨hscreen, happ, harch, hsec⟩, hsections⟩
    exact ⟨hscreen, happ, harch, (sectionsFindings_errors hsec).1 hsections⟩
  · rintro ⟨hscreen, happ, harch, hsections⟩
    have hsec : (fields.get "sections").isNull = false := by
      obtain ⟨items, hitems, _⟩ := hsections
      rw [hitems]; rfl
    exact ⟨⟨hscreen, happ, harch, hsec⟩, (sectionsFindings_errors hsec).2 hsections⟩

/-- **A document without errors is a layout, and every layout is free of errors.** -/
theorem documentFindings_errors {raw : Json} {f : Findings} (h : documentFindings raw = .ok f) :
    f.errors = [] ↔ raw.IsObject LayoutShape := by
  cases raw with
  | obj fields =>
    rw [Json.isObject_obj, errors_of_documentFindings h, List.append_eq_nil_iff, layoutShape_iff]
  | _ =>
    cases h
    simp [Json.IsObject]

end Validation

/-! ## Shapes are mirrored -/

/-- Items that are each related to something are related to a list, one by one. -/
theorem exists_forall₂ {α β : Type} {r : α → β → Prop} {items : List α}
    (h : ∀ v ∈ items, ∃ x, r v x) : ∃ xs, List.Forall₂ r items xs := by
  induction items with
  | nil => exact ⟨[], .nil⟩
  | cons v rest ih =>
    obtain ⟨x, hx⟩ := h v List.mem_cons_self
    obtain ⟨xs, hxs⟩ := ih fun w hw => h w (List.mem_cons_of_mem v hw)
    exact ⟨x :: xs, .cons hx hxs⟩

theorem ComponentShape.exists_mirrors {v : Json} (h : v.IsObject ComponentShape) :
    ∃ c : LayoutComponent, v.IsObject c.Mirrors := by
  obtain ⟨fields, rfl, ⟨key, hkey, _⟩, ⟨text?, htext⟩, _⟩ := h
  exact ⟨⟨key, text?⟩, fields, rfl, hkey, htext⟩

theorem SectionShape.exists_mirrors {v : Json} (h : v.IsObject SectionShape) :
    ∃ s : LayoutSection, v.IsObject s.Mirrors := by
  obtain ⟨fields, rfl, ⟨name, hname, _⟩, _, ⟨direction, hdirection⟩, items, hitems, hall⟩ := h
  obtain ⟨components, hcomponents⟩ :=
    exists_forall₂ fun v hv => ComponentShape.exists_mirrors (hall v hv)
  exact ⟨⟨name, direction, components⟩, fields, rfl, hname, hdirection, items, hitems, hcomponents⟩

/-- A layout whose canvas can be read is mirrored by a document on that canvas. -/
theorem LayoutShape.exists_mirrors {fields : Fields} {canvas? : Option CanvasSize}
    (h : LayoutShape fields) (hc : CanvasSize.ofWire? (fields.get "canvas_size") = .ok canvas?) :
    ∃ d : LayoutDocument, d.Mirrors fields := by
  obtain ⟨⟨screenType, hscreen⟩, ⟨application, happ⟩, ⟨archetype, harch⟩, items, hitems, hall⟩ := h
  obtain ⟨sections, hsections⟩ :=
    exists_forall₂ fun v hv => SectionShape.exists_mirrors (hall v hv)
  exact ⟨⟨screenType, application, archetype, canvas?, sections⟩, hscreen, happ, harch, hc, items,
    hitems, hsections⟩

end Wireframe
