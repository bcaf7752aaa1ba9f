import Wireframe.Design.Conversion
import Wireframe.Design.Decode
import Wireframe.Proofs.Json.Fields

/-!
# Which values have a design

* `Design.ofLayout_of_no_collection`, `Design.ofLayout_of_collection` — for a named screen a value has
  a design exactly when it is an object with a list of components or of sections, and the design has
  components exactly when there is an object among those of the layout.
* `Design.checkShape_toJson` — every design of a named screen passes the check of its JSON form.
-/

set_option autoImplicit false

namespace Wireframe.Design

/-- There is an object among the items of a list. -/
def ListsObject (v : Json) : Prop := v.IsArray fun items => ∃ fields, Json.obj fields ∈ items

/-- A layout with a list of components or of sections. -/
def HasCollection (layout : Fields) : Prop :=
  (layout.get "components").IsArray (fun _ => True) ∨ (layout.get "sections").IsArray fun _ => True

/-- There is a component: in the layout's own list or, when it has no such list, in a section. -/
def HasComponent (layout : Fields) : Prop :=
  ListsObject (layout.get "components") ∨
    ¬(layout.get "components").IsArray (fun _ => True) ∧
      (layout.get "sections").IsArray fun sections =>
        ∃ s, Json.obj s ∈ sections ∧ ListsObject (Fields.get s "components")

/-! ## The components of a layout -/

theorem mem_objects {items : List Json} {fields : Fields} :
    fields ∈ objects items ↔ .obj fields ∈ items := by
  unfold objects
  rw [List.mem_filterMap]
  constructor
  · rintro ⟨v, hv, hfields⟩
    cases v with
    | obj other => cases hfields; exact hv
    | _ => cases hfields
  · exact fun h => ⟨_, h, rfl⟩

theorem objects_ne_nil {items : List Json} : objects items ≠ [] ↔ ListsObject (.arr items) := by
  rw [ListsObject, Json.isArray_arr]
  constructor
  · intro h
    obtain ⟨fields, hfields⟩ := List.exists_mem_of_ne_nil _ h
    exact ⟨fields, mem_objects.1 hfields⟩
  · rintro ⟨fields, hfields⟩
    exact List.ne_nil_of_mem (mem_objects.2 hfields)

theorem sectionComponents_ne_nil {s : Fields} :
    sectionComponents s ≠ [] ↔ ListsObject (s.get "components") := by
  unfold sectionComponents
  cases hitems : s.get "components" with
  | arr items => exact objects_ne_nil
  | _ =>
    refine iff_of_false (fun h => h rfl) ?_
    rintro ⟨_, h, _⟩
    cases h

theorem flatMap_sectionComponents_ne_nil {sections : List Json} :
    (objects sections).flatMap sectionComponents ≠ [] ↔
      ∃ s, Json.obj s ∈ sections ∧ ListsObject (Fields.get s "components") := by
  constructor
  · intro h
    obtain ⟨fields, hfields⟩ := List.exists_mem_of_ne_nil _ h
    obtain ⟨s, hs, hmem⟩ := List.mem_flatMap.1 hfields
    exact ⟨s, mem_objects.1 hs, sectionComponents_ne_nil.1 (List.ne_nil_of_mem hmem)⟩
  · rintro ⟨s, hs, hlists⟩ h
    exact sectionComponents_ne_nil.2 hlists (List.flatMap_eq_nil_iff.1 h s (mem_objects.2 hs))

theorem componentsOf?_eq_none {layout : Fields} :
    componentsOf? layout = none ↔ ¬HasCollection layout := by
  unfold componentsOf? HasCollection
  constructor
  · intro h
    split at h
    · cases h
    · cases h
    · rename_i hcomponents hsections
      rintro (⟨items, hitems, -⟩ | ⟨items, hitems, -⟩)
      · exact hcomponents items hitems
      · exact hsections items hitems
  · intro h
    split
    · rename_i items hitems
      exact absurd (.inl ⟨items, hitems, trivial⟩) h
    · rename_i items hitems _
      exact absurd (.inr ⟨items, hitems, trivial⟩) h
    · rfl

theorem ne_nil_of_componentsOf? {layout : Fields} {components : List Fields}
    (h : componentsOf? layout = some components) : components ≠ [] ↔ HasComponent layout := by
  unfold componentsOf? at h
  unfold HasComponent
  split at h
  · rename_i items hitems
    cases h
    rw [hitems, objects_ne_nil]
    refine (or_iff_left ?_).symm
    rintro ⟨hnone, -⟩
    exact hnone ⟨items, rfl, trivial⟩
  · rename_i sections hsections hnone
    cases h
    have hlist : ¬(layout.get "components").IsArray fun _ => True := by
      rintro ⟨items, hitems, -⟩
      exact hnone items hitems
    have hobject : ¬ListsObject (layout.get "components") := by
      rintro ⟨items, hitems, -⟩
      exact hlist ⟨items, hitems, trivial⟩
    rw [or_iff_right hobject, and_iff_right hlist, hsections, Json.isArray_arr,
      flatMap_sectionComponents_ne_nil]
  · cases h

/-! ## Designs -/

theorem screenNameOf_text {name : String} (h : name ≠ "") : screenNameOf (.str name) = .ok name := by
  unfold screenNameOf
  rw [if_pos (by simpa [Json.isTruthy] using h)]
  rfl

/-- Whatever counts as given and names a screen is the text of its name. -/
theorem eq_text_of_screenNameOf {v : Json} {name : String} (hgiven : v.isTruthy = true)
    (h : screenNameOf v = .ok name) : v = .str name := by
  unfold screenNameOf at h
  rw [if_pos hgiven] at h
  cases v with
  | str s =>
    cases h
    rfl
  | _ => cases h

/-- A layout with components has a design for every screen that can be named. -/
theorem ofLayout_of_components {layout : Fields} {components : List Fields}
    (h : componentsOf? layout = some components) (screenName : Json) :
    ofLayout (.obj layout) screenName =
      (screenNameOf screenName).map fun name =>
        { screenName := name
          flow := .ofScreenType (layout.get "screenType")
          components := components.map .ofLayout
          tokens := .ofScreenType (layout.get "screenType") } := by
  simp only [ofLayout, h]
  cases screenNameOf screenName <;> rfl

/-- A design carries the name of its screen. -/
theorem screenNameOf_of_ofLayout {layout screenName : Json} {d : Design}
    (h : ofLayout layout screenName = .ok d) : screenNameOf screenName = .ok d.screenName := by
  cases layout with
  | obj fields =>
    cases hc : componentsOf? fields with
    | none =>
      simp only [ofLayout, hc] at h
      cases h
    | some components =>
      rw [ofLayout_of_components hc] at h
      cases hname : screenNameOf screenName with
      | error f =>
        rw [hname] at h
        cases h
      | ok name =>
        rw [hname] at h
        cases h
        rfl
  | _ => cases h

/-- Without a list of components or of sections there is no design. -/
theorem ofLayout_of_no_collection {v : Json} (h : ¬v.IsObject HasCollection) (screenName : Json) :
    ∃ f, ofLayout v screenName = .error f := by
  cases v with
  | obj layout =>
    rw [Json.isObject_obj, ← componentsOf?_eq_none] at h
    simp only [ofLayout, h]
    exact ⟨_, rfl⟩
  | _ => exact ⟨_, rfl⟩

/-- With such a list there is one, and it has components when there is an object among those of the
layout. -/
theorem ofLayout_of_collection {v : Json} (h : v.IsObject HasCollection) {name : String}
    (hname : name ≠ "") :
    ∃ d, ofLayout v (.str name) = .ok d ∧ d.screenName = name ∧
      (d.components ≠ [] ↔ v.IsObject HasComponent) := by
  obtain ⟨layout, rfl, hcollection⟩ := h
  cases hc : componentsOf? layout with
  | none => exact absurd hcollection (componentsOf?_eq_none.1 hc)
  | some components =>
    refine ⟨_, by rw [ofLayout_of_components hc, screenNameOf_text hname]; rfl, rfl, ?_⟩
    rw [Json.isObject_obj, ← ne_nil_of_componentsOf? hc]
    exact not_congr List.map_eq_nil_iff

theorem HasComponent.hasCollection {layout : Fields} (h : HasComponent layout) :
    HasCollection layout := by
  rcases h with ⟨items, hitems, -⟩ | ⟨-, sections, hsections, -⟩
  · exact .inl ⟨items, hitems, trivial⟩
  · exact .inr ⟨sections, hsections, trivial⟩

/-! ## The check of a design -/

theorem checkTags_toJson (i : Nat) (components : List DesignComponent) :
    checkTags i (components.map (·.toJson)) = .ok () := by
  induction components generalizing i with
  | nil => rfl
  | cons c rest ih =>
    have htag : isTagged c.toJson = true := by cases c <;> rfl
    rw [List.map_cons, checkTags, if_pos htag, ih]

/-- A design of a screen with a name has every field that it needs, and tags on its components. -/
theorem checkShape_toJson {d : Design} (h : d.screenName ≠ "") : checkShape d.toJson = .ok () := by
  have hblank : (requiredFields.find? fun name => isBlankField (d.fields.get name)) = none := by
    rw [List.find?_eq_none]
    intro name hname
    simp only [requiredFields, List.mem_cons, List.not_mem_nil, or_false] at hname
    rcases hname with rfl | rfl | rfl | rfl
    · simpa [Design.fields, Fields.get, Fields.get?, isBlankField] using h
    · show ¬isBlankField (.str d.flow.text) = true
      cases d.flow <;> decide
    · exact Bool.false_ne_true
    · exact Bool.false_ne_true
  unfold checkShape Design.toJson
  simp only [Json.asMapping, bind, Except.bind, hblank]
  exact checkTags_toJson 0 d.components

end Wireframe.Design
