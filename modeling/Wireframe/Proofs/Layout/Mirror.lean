import Wireframe.Layout.Enhancement
import Wireframe.Proofs.Layout.Canvas

/-!
# Documents and the objects they mirror

A typed document mirrors an object when both say the same: the same texts, one section to each item
of the list of sections and one component to each item of a section's list, in the same order. Keys
under which the wire format keeps nothing do not count.

* `LayoutDocument.ofFields_of_mirrors` — an object is read as the document that mirrors it.
* `LayoutDocument.mirrors_wireFields`, `EnhancedLayout.plain_mirrors_wireFields` — a document mirrors
  its wire form; the wire form of an enhanced layout is mirrored by the plain document.
-/

set_option autoImplicit false

namespace Wireframe

/-- A component says what an object says: the key, and the text unless that is null or absent. -/
structure LayoutComponent.Mirrors (c : LayoutComponent) (fields : Fields) : Prop where
  key : fields.get "componentKey" = .str c.key
  text : fields.get "text" = .ofText? c.text

/-- A section says what an object says; an absent direction is vertical. -/
structure LayoutSection.Mirrors (s : LayoutSection) (fields : Fields) : Prop where
  name : fields.get "section_name" = .str s.name
  direction : (fields.get? "layout_direction").getD (.str "vertical") = .str s.direction.text
  components : (fields.get "components").IsArray fun items =>
    List.Forall₂ (fun v c => v.IsObject (LayoutComponent.Mirrors c)) items s.components

/-- A document says what an object says; its canvas is the one that the object describes, if any. -/
structure LayoutDocument.Mirrors (d : LayoutDocument) (fields : Fields) : Prop where
  screenType : fields.get "screenType" = .str d.screenType.text
  applicationType : fields.get "application_type" = .str d.applicationType
  archetype : fields.get "layout_archetype" = .str d.archetype
  canvas : CanvasSize.ofWire? (fields.get "canvas_size") = .ok d.canvas
  sections : (fields.get "sections").IsArray fun items =>
    List.Forall₂ (fun v s => v.IsObject (LayoutSection.Mirrors s)) items d.sections

/-! ## Reading what is mirrored -/

theorem ScreenType.lookup_text (t : ScreenType) : ScreenType.options.lookup t.text = some t := by
  cases t <;> decide

theorem Direction.lookup_text (d : Direction) : Direction.options.lookup d.text = some d := by
  cases d <;> decide

theorem LayoutComponent.read_of_mirrors {c : LayoutComponent} {v : Json}
    (h : v.IsObject c.Mirrors) : LayoutComponent.read v = .ok c := by
  obtain ⟨fields, rfl, h⟩ := h
  have key : Schema.required fields ["componentKey", "component_key"] Schema.text = .ok c.key :=
    Schema.required_eq_ok (Fields.get?_of_get h.key nofun) (Schema.text_str c.key)
  have text : Schema.optional fields ["text"] none (Schema.nullable Schema.text) = .ok c.text := by
    refine Schema.optional_get (Schema.nullable_text none) ?_
    rw [h.text]
    exact Schema.nullable_text c.text
  simp only [LayoutComponent.read, Schema.fieldsOr, key, text, Schema.both_ok, bind, Except.bind]

theorem LayoutSection.read_direction {fields : Fields} {d : Direction}
    (h : (fields.get? "layout_direction").getD (.str "vertical") = .str d.text) :
    Schema.optional fields ["layout_direction"] .vertical (Schema.oneOf Direction.options) =
      .ok d := by
  cases hg : fields.get? "layout_direction" with
  | none =>
    rw [hg] at h
    have hd : d = .vertical := by
      cases d
      · rfl
      · exact absurd (Json.str.inj h) (by decide)
      · exact absurd (Json.str.inj h) (by decide)
    rw [hd]
    exact Schema.optional_absent hg
  | some v =>
    rw [hg] at h
    have hv : v = .str d.text := h
    subst hv
    exact Schema.optional_eq_ok hg (Schema.oneOf_eq_ok d.lookup_text)

theorem LayoutSection.read_of_mirrors {s : LayoutSection} {v : Json} (h : v.IsObject s.Mirrors) :
    LayoutSection.read v = .ok s := by
  obtain ⟨fields, rfl, h⟩ := h
  obtain ⟨items, hitems, hall⟩ := h.components
  have name : Schema.required fields ["section_name"] Schema.text = .ok s.name :=
    Schema.required_eq_ok (Fields.get?_of_get h.name nofun) (Schema.text_str s.name)
  have direction := LayoutSection.read_direction h.direction
  have components : Schema.optional fields ["components"] []
      (Schema.listOf .notTuple LayoutComponent.read) = .ok s.components :=
    Schema.optional_eq_ok (Fields.get?_of_get hitems nofun)
      (Schema.listOf_eq_ok (hall.imp fun _ _ hv => LayoutComponent.read_of_mirrors hv))
  simp only [LayoutSection.read, Schema.fieldsOr, name, direction, components, Schema.both_ok, bind,
    Except.bind]

namespace LayoutDocument

/-- Each field has one value that decides it, so the document that an object is mirrored by is the
one that is read, whatever else the object carries. -/
theorem ofFields_of_mirrors {d : LayoutDocument} {fields : Fields} (h : d.Mirrors fields) :
    ofFields fields = .ok d := by
  obtain ⟨items, hitems, hall⟩ := h.sections
  have screenType : Schema.required fields ["screenType", "screen_type"]
      (Schema.oneOf ScreenType.options) = .ok d.screenType :=
    Schema.required_eq_ok (Fields.get?_of_get h.screenType nofun)
      (Schema.oneOf_eq_ok d.screenType.lookup_text)
  have application : Schema.required fields ["application_type"] Schema.text =
      .ok d.applicationType :=
    Schema.required_eq_ok (Fields.get?_of_get h.applicationType nofun) (Schema.text_str _)
  have archetype : Schema.required fields ["layout_archetype"] Schema.text = .ok d.archetype :=
    Schema.required_eq_ok (Fields.get?_of_get h.archetype nofun) (Schema.text_str _)
  have sections : Schema.optional fields ["sections"] []
      (Schema.listOf .notTuple LayoutSection.read) = .ok d.sections :=
    Schema.optional_eq_ok (Fields.get?_of_get hitems nofun)
      (Schema.listOf_eq_ok (hall.imp fun _ _ hv => LayoutSection.read_of_mirrors hv))
  have read : readFields fields d.canvas = .ok d := by
    simp only [readFields, screenType, application, archetype, sections, Schema.both_ok, bind,
      Except.bind]
  simp only [ofFields, h.canvas, Schema.forModel_eq_ok read, bind, Except.bind]

end LayoutDocument

/-! ## Wire forms -/

theorem LayoutComponent.mirrors_fields (c : LayoutComponent) : c.Mirrors c.fields := by
  obtain ⟨key, text?⟩ := c
  refine ⟨rfl, ?_⟩
  cases text? <;> rfl

theorem EnhancedComponent.mirrors_fields (c : EnhancedComponent) :
    c.toLayoutComponent.Mirrors c.fields := by
  obtain ⟨⟨key, text?⟩, role, priority⟩ := c
  refine ⟨rfl, ?_⟩
  cases text? <;> rfl

/-- A section mirrors its wire form when its components mirror theirs. -/
theorem LayoutSection.mirrors_sectionJson {s : LayoutSection} {items : List Json}
    (h : List.Forall₂ (fun v c => v.IsObject (LayoutComponent.Mirrors c)) items s.components) :
    (sectionJson s.name s.direction items).IsObject s.Mirrors :=
  ⟨_, rfl, rfl, rfl, items, rfl, h⟩

/-- The wire form of a canvas, null for none, is read as that canvas or none. -/
theorem CanvasSize.ofWire?_wire (canvas? : Option CanvasSize) :
    CanvasSize.ofWire? ((canvas?.map CanvasSize.toJson).getD .null) = .ok canvas? := by
  cases canvas? with
  | none => rfl
  | some c => exact c.ofWire?_toJson

section Head

variable (t : ScreenType) (application archetype : String) (canvas? : Option CanvasSize)
  (rest : Fields)

theorem get_headFields_canvas (h : rest.get "canvas_size" = .null) :
    Fields.get (headFields t application archetype canvas? ++ rest) "canvas_size" =
      (canvas?.map CanvasSize.toJson).getD .null := by
  cases canvas? with
  | none => exact h
  | some c => rfl

theorem get_headFields_of_rest {key : String}
    (h : key ∉ ["screenType", "application_type", "layout_archetype", "canvas_size"]) :
    Fields.get (headFields t application archetype canvas? ++ rest) key = rest.get key := by
  simp only [List.mem_cons, List.not_mem_nil, or_false, not_or] at h
  obtain ⟨h1, h2, h3, h4⟩ := h
  unfold Fields.get headFields
  cases canvas? <;>
    simp only [Option.map_none, Option.map_some, Fields.ofOption, List.cons_append, List.nil_append,
      Fields.get?_cons, if_neg h1, if_neg h2, if_neg h3, if_neg h4]

/-- A document mirrors its wire form, in front of whatever follows that is not its own. -/
theorem LayoutDocument.mirrors_headFields {sections : List LayoutSection} {items : List Json}
    (hcanvas : rest.get "canvas_size" = .null) (hsections : rest.get "sections" = .arr items)
    (h : List.Forall₂ (fun v s => v.IsObject (LayoutSection.Mirrors s)) items sections) :
    LayoutDocument.Mirrors ⟨t, application, archetype, canvas?, sections⟩
      (headFields t application archetype canvas? ++ rest) where
  screenType := rfl
  applicationType := rfl
  archetype := rfl
  canvas := by
    rw [get_headFields_canvas _ _ _ _ _ hcanvas]
    exact CanvasSize.ofWire?_wire canvas?
  sections := by
    rw [get_headFields_of_rest _ _ _ _ _ (by decide), hsections, Json.isArray_arr]
    exact h

end Head

/-- **A document mirrors its wire form.** -/
theorem LayoutDocument.mirrors_wireFields (d : LayoutDocument) : d.Mirrors d.wireFields := by
  refine mirrors_headFields _ _ _ _ _ rfl rfl ?_
  refine List.forall₂_map_left_iff.2 (List.forall₂_same.2 fun s _ => ?_)
  apply LayoutSection.mirrors_sectionJson
  exact List.forall₂_map_left_iff.2
    (List.forall₂_same.2 fun c _ => ⟨c.fields, rfl, c.mirrors_fields⟩)

/-- **The plain document mirrors the wire form of the enhanced layout.** What enhancement adds stands
under keys that the plain form does not have. -/
theorem EnhancedLayout.plain_mirrors_wireFields (l : EnhancedLayout) :
    l.plain.Mirrors l.wireFields := by
  refine LayoutDocument.mirrors_headFields _ _ _ _ _ rfl rfl ?_
  refine List.forall₂_map_left_iff.2 (List.forall₂_map_right_iff.2 ?_)
  refine List.forall₂_same.2 fun s _ => ?_
  apply LayoutSection.mirrors_sectionJson (s := s.plain)
  exact List.forall₂_map_left_iff.2 (List.forall₂_map_right_iff.2
    (List.forall₂_same.2 fun c _ => ⟨c.fields, rfl, c.mirrors_fields⟩))

theorem LayoutSection.plain_enhance (s : LayoutSection) : s.enhance.plain = s := by
  obtain ⟨name, direction, components⟩ := s
  have h : (components.map (·.enhance)).map (·.toLayoutComponent) = components := by
    rw [List.map_map]
    exact List.map_id'' (fun _ => rfl) components
  simp only [LayoutSection.enhance, EnhancedSection.plain, h]

/-- Enhancing leaves the document as it was. -/
theorem LayoutDocument.plain_of_enhance {d : LayoutDocument} {l : EnhancedLayout}
    (h : d.enhance = .ok l) : l.plain = d := by
  unfold LayoutDocument.enhance at h
  cases hm : d.metadata with
  | error f => rw [hm] at h; cases h
  | ok metadata =>
    rw [hm] at h
    cases h
    have hs : (d.sections.map (·.enhance)).map (·.plain) = d.sections := by
      rw [List.map_map]
      exact List.map_id'' (fun s => s.plain_enhance) d.sections
    simp only [EnhancedLayout.plain, hs]

end Wireframe
