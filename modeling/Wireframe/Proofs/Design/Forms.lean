import Wireframe.Proofs.Design.Conversion
import Wireframe.Proofs.Layout.Validation

/-!
# The forms of a layout and their designs

A layout becomes a design from an object as it came, from the wire form of the document read from
it, or from that of its enhanced form. `Design.ofDocument` is the design of the typed document, without
the detour over JSON, and each form is compared with it.

* `Design.ofLayout_of_mirrors` — an object without a list of components at its top level becomes the
  design of the document that mirrors it.
* `Design.ofLayout_of_flat` — with such a list, only the components differ: they are the list's.
* `Design.forms_agree_unless_flat` — the forms of a valid layout compared.
-/

set_option autoImplicit false

namespace Wireframe

/-- The design component for a typed component. -/
def DesignComponent.ofComponent (c : LayoutComponent) : DesignComponent :=
  ofKey (.str c.key) (c.text.getD "")

/-- A text that is left out counts as the empty text. -/
theorem givenText_ofText? (text? : Option String) : givenText (.ofText? text?) = text?.getD "" := by
  cases text? with
  | none => rfl
  | some s =>
    by_cases h : s = ""
    · subst h
      rfl
    · simp [givenText, Json.ofText?, Json.isTruthy, Json.display, h]

theorem DesignComponent.ofLayout_of_mirrors {c : LayoutComponent} {fields : Fields}
    (h : c.Mirrors fields) : DesignComponent.ofLayout fields = ofComponent c := by
  unfold DesignComponent.ofLayout ofComponent
  rw [h.key, h.text, givenText_ofText?]

namespace Design

/-- The design for a document and the name of its screen. -/
def ofDocument (d : LayoutDocument) (screenName : Json) : Except Failure Design :=
  (screenNameOf screenName).map fun name =>
    { screenName := name
      flow := .ofScreenType (.str d.screenType.text)
      components := d.components.map .ofComponent
      tokens := .ofScreenType (.str d.screenType.text) }

/-! ## Components -/

theorem ofLayout_objects {items : List Json} {components : List LayoutComponent}
    (h : List.Forall₂ (fun v c => v.IsObject (LayoutComponent.Mirrors c)) items components) :
    (objects items).map DesignComponent.ofLayout = components.map .ofComponent := by
  induction h with
  | nil => rfl
  | cons hv _ ih =>
    obtain ⟨fields, rfl, hc⟩ := hv
    simp only [objects, List.filterMap_cons, Json.fields?, List.map_cons] at ih ⊢
    rw [ih, DesignComponent.ofLayout_of_mirrors hc]

theorem ofLayout_sectionComponents {s : LayoutSection} {fields : Fields} (h : s.Mirrors fields) :
    (sectionComponents fields).map DesignComponent.ofLayout = s.components.map .ofComponent := by
  obtain ⟨items, hitems, hall⟩ := h.components
  unfold sectionComponents
  rw [hitems]
  exact ofLayout_objects hall

/-- Section by section, an object has the components that the document has. -/
theorem ofLayout_sections {items : List Json} {sections : List LayoutSection}
    (h : List.Forall₂ (fun v s => v.IsObject (LayoutSection.Mirrors s)) items sections) :
    ((objects items).flatMap sectionComponents).map DesignComponent.ofLayout =
      (sections.flatMap (·.components)).map .ofComponent := by
  induction h with
  | nil => rfl
  | cons hv _ ih =>
    obtain ⟨fields, rfl, hs⟩ := hv
    simp only [objects, List.filterMap_cons, Json.fields?, List.flatMap_cons,
      List.map_append] at ih ⊢
    rw [ih, ofLayout_sectionComponents hs]

theorem componentsOf?_flat {fields : Fields} {items : List Json}
    (h : fields.get "components" = .arr items) : componentsOf? fields = some (objects items) := by
  unfold componentsOf?
  rw [h]

theorem componentsOf?_sections {fields : Fields} {items : List Json}
    (hflat : ∀ flat, fields.get "components" ≠ .arr flat) (h : fields.get "sections" = .arr items) :
    componentsOf? fields = some ((objects items).flatMap sectionComponents) := by
  unfold componentsOf?
  rw [h]
  cases hc : fields.get "components" with
  | arr flat => exact absurd hc (hflat flat)
  | _ => rfl

/-! ## Designs -/

theorem ofLayout_of_mirrors {fields : Fields} {d : LayoutDocument} (h : d.Mirrors fields)
    (hflat : ∀ flat, fields.get "components" ≠ .arr flat) (screenName : Json) :
    ofLayout (.obj fields) screenName = ofDocument d screenName := by
  obtain ⟨items, hitems, hall⟩ := h.sections
  rw [ofLayout_of_components (componentsOf?_sections hflat hitems), h.screenType,
    ofLayout_sections hall]
  rfl

/-- A list of components at the top level is taken in place of the sections. -/
theorem ofLayout_of_flat {fields : Fields} {d : LayoutDocument} {flat : List Json}
    (h : d.Mirrors fields) (hflat : fields.get "components" = .arr flat) (screenName : Json) :
    ofLayout (.obj fields) screenName =
      (ofDocument d screenName).map fun design =>
        { design with components := (objects flat).map .ofLayout } := by
  rw [ofLayout_of_components (componentsOf?_flat hflat), h.screenType]
  unfold ofDocument
  cases screenNameOf screenName <;> rfl

theorem ofLayout_toWire (d : LayoutDocument) (screenName : Json) :
    ofLayout d.toWire screenName = ofDocument d screenName := by
  refine ofLayout_of_mirrors d.mirrors_wireFields ?_ screenName
  unfold LayoutDocument.wireFields
  rw [get_headFields_of_rest _ _ _ _ _ (by decide)]
  exact nofun

theorem ofLayout_enhanced_toWire (l : EnhancedLayout) (screenName : Json) :
    ofLayout l.toWire screenName = ofDocument l.plain screenName := by
  refine ofLayout_of_mirrors l.plain_mirrors_wireFields ?_ screenName
  unfold EnhancedLayout.wireFields
  rw [get_headFields_of_rest _ _ _ _ _ (by decide)]
  exact nofun

/-- **The forms of a valid layout have one design, up to a list of components at its top level.**
The document and its enhanced form always agree. The object as it came agrees with them when it has no
such list; otherwise the objects of the list stand in place of the components of the sections. -/
theorem forms_agree_unless_flat {raw : Json} {r : ValidationResult}
    (judged : validateLayout raw = .ok r) (valid : r.valid = true) (screenName : Json) :
    ∃ d, LayoutDocument.ofWire raw = .ok d ∧
      (∀ l, d.enhance = .ok l → ofLayout l.toWire screenName = ofLayout d.toWire screenName) ∧
      ((∀ flat, raw.field? "components" ≠ some (.arr flat)) →
        ofLayout raw screenName = ofLayout d.toWire screenName) ∧
      ∀ flat, raw.field? "components" = some (.arr flat) →
        ofLayout raw screenName = (ofLayout d.toWire screenName).map fun design =>
          { design with components := (objects flat).map .ofLayout } := by
  obtain ⟨d, hd⟩ := exists_mirrors_of_valid judged valid
  refine ⟨d, ofWire_of_mirrors hd, ?_, ?_, ?_⟩
  · intro l hl
    rw [ofLayout_enhanced_toWire, ofLayout_toWire, LayoutDocument.plain_of_enhance hl]
  · intro hflat
    obtain ⟨fields, rfl, hm⟩ := hd
    rw [ofLayout_toWire]
    refine ofLayout_of_mirrors hm ?_ screenName
    intro flat hc
    exact hflat flat (Fields.get?_of_get hc nofun)
  · intro flat hflat
    obtain ⟨fields, rfl, hm⟩ := hd
    rw [ofLayout_toWire]
    exact ofLayout_of_flat hm (Fields.get_of_get? hflat) screenName

theorem forms_agree_annotatedLayout :
    ∃ r, validateLayout (.obj annotatedLayout) = .ok r ∧ r.valid = true ∧
      ∃ d, LayoutDocument.ofWire (.obj annotatedLayout) = .ok d ∧
        (∀ l, d.enhance = .ok l →
          ofLayout l.toWire (.str "Login") = ofLayout d.toWire (.str "Login")) ∧
        ofLayout (.obj annotatedLayout) (.str "Login") =
          (ofLayout d.toWire (.str "Login")).map fun design =>
            { design with components := [] } := by
  obtain ⟨r, judged, valid⟩ := annotatedLayout_valid
  obtain ⟨d, hd, henhanced, -, hflat⟩ := forms_agree_unless_flat judged valid (.str "Login")
  exact ⟨r, judged, valid, d, hd, henhanced, hflat [] rfl⟩

/-- A valid layout whose own design differs from that of the document read from it: the empty list
of components at its top level hides the heading of its section. -/
theorem flat_list_hides_sections :
    (∃ r, validateLayout (.obj annotatedLayout) = .ok r ∧ r.valid = true) ∧
      ∃ d, LayoutDocument.ofWire (.obj annotatedLayout) = .ok d ∧
        ofLayout (.obj annotatedLayout) (.str "Login") ≠ ofLayout d.toWire (.str "Login") := by
  obtain ⟨r, judged, valid⟩ := annotatedLayout_valid
  obtain ⟨d, hmirrors⟩ := exists_mirrors_of_valid judged valid
  have hd : d.Mirrors annotatedLayout := Json.isObject_obj.1 hmirrors
  refine ⟨⟨r, judged, valid⟩, d, ofWire_of_mirrors hmirrors, ?_⟩
  have hcut : d.Mirrors (annotatedLayout.erase "components") :=
    ⟨hd.screenType, hd.applicationType, hd.archetype, hd.canvas, hd.sections⟩
  rw [ofLayout_toWire, ← ofLayout_of_mirrors hcut nofun]
  intro h
  have hcounts := congrArg (fun made => made.toOption.map (·.components.length)) h
  exact absurd hcounts (by decide)

end Design

end Wireframe
