import Wireframe.Proofs.Layout.Validation

/-!
# What validation remarks

An object that says what a document says, and says it under known keys, is judged valid, with remarks
upon nothing but what the document itself leaves open or turns the wrong way.

* `LayoutDocument.IsAllowed` — what the sections of a valid value are known to hold.
* `LayoutDocument.advice` — everything that validation remarks about such an object.
* `validateLayout_of_mirrors` — the judgement.
-/

set_option autoImplicit false

namespace Wireframe

/-! ## What a valid value holds -/

/-- A section with a name whose components are all in the catalog. -/
structure LayoutSection.IsAllowed (s : LayoutSection) : Prop where
  name : s.name ≠ ""
  components : ∀ c ∈ s.components, Catalog.allows c.key = true

def LayoutDocument.IsAllowed (d : LayoutDocument) : Prop := ∀ s ∈ d.sections, s.IsAllowed

/-- What holds of everything that an item of a list can be related to holds of all of its partners. -/
theorem forall_of_forall₂ {α β : Type} {r : α → β → Prop} {p : β → Prop} {items : List α}
    {xs : List β} (h : List.Forall₂ r items xs) (hp : ∀ v ∈ items, ∀ x, r v x → p x) :
    ∀ x ∈ xs, p x := by
  induction h with
  | nil => exact nofun
  | cons hr _ ih =>
    rw [List.forall_mem_cons]
    exact ⟨hp _ List.mem_cons_self _ hr, ih fun v hv => hp v (List.mem_cons_of_mem _ hv)⟩

theorem ComponentShape.allows_key {c : LayoutComponent} {v : Json} (h : v.IsObject ComponentShape)
    (hc : v.IsObject c.Mirrors) : Catalog.allows c.key = true := by
  obtain ⟨fields, rfl, h⟩ := h
  obtain ⟨key, hkey, hallows⟩ := h.key
  rw [(Json.isObject_obj.1 hc).key] at hkey
  cases hkey
  exact hallows

theorem SectionShape.isAllowed {s : LayoutSection} {v : Json} (h : v.IsObject SectionShape)
    (hs : v.IsObject s.Mirrors) : s.IsAllowed := by
  obtain ⟨fields, rfl, h⟩ := h
  have hs := Json.isObject_obj.1 hs
  constructor
  · obtain ⟨name, hname, hne⟩ := h.name
    rw [hs.name] at hname
    cases hname
    exact hne
  · obtain ⟨items, -, hall, hmirrors⟩ := h.components.and hs.components
    exact forall_of_forall₂ hmirrors fun v hv c hc => ComponentShape.allows_key (hall v hv) hc

/-- The document that mirrors a layout is allowed. -/
theorem LayoutShape.isAllowed {d : LayoutDocument} {fields : Fields} (h : LayoutShape fields)
    (hd : d.Mirrors fields) : d.IsAllowed := by
  obtain ⟨items, -, hall, hmirrors⟩ := h.sections.and hd.sections
  exact forall_of_forall₂ hmirrors fun v hv s hs => SectionShape.isAllowed (hall v hv) hs

/-! ## Advice -/

/-- How remarks call a section at a position. -/
def LayoutSection.place (s : LayoutSection) (index : Nat) : String := s!"Section {index} ({s.name})"

/-- The remarks about a section at a position: a direction that does not suit a mobile screen, and
that there is nothing in it. -/
def LayoutSection.advice (isMobile : Bool) (s : LayoutSection) (index : Nat) : List String :=
  (if isMobile && s.direction != .vertical then
    [s!"{s.place index} uses {s.direction.text} layout on a mobile screen"] else []) ++
    if s.components.isEmpty then [s!"{s.place index} has no components"] else []

/-- The remarks about sections from a position on. -/
def LayoutSection.adviceFrom (isMobile : Bool) (index : Nat) (sections : List LayoutSection) :
    List String :=
  (sections.zipIdx index).flatMap fun (s, i) => s.advice isMobile i

/-- The remarks about a document: an application without archetypes of its own, the lack of a canvas,
and those about its sections. None is about a component. -/
def LayoutDocument.advice (d : LayoutDocument) : List String :=
  (if !isKnownApplication d.applicationType then
    [s!"Unknown application_type '{d.applicationType}', default archetype mapping applies"] else []) ++
    (if d.canvas.isNone then ["Missing canvas_size, archetype default will be used"] else []) ++
    LayoutSection.adviceFrom (d.screenType == .mobile) 0 d.sections

namespace Findings

theorem append_none (f : Findings) : f ++ none = f := by
  obtain ⟨errors, warnings⟩ := f
  exact congrArg₂ Findings.mk (List.append_nil errors) (List.append_nil warnings)

theorem when_warning (b : Bool) (message : String) :
    when b (warning message) = ⟨[], if b then [message] else []⟩ := by
  cases b <;> rfl

theorem join_eq_none {parts : List Findings} (h : ∀ f ∈ parts, f = none) : join parts = none := by
  induction parts with
  | nil => rfl
  | cons f rest ih =>
    rw [List.forall_mem_cons] at h
    have hrest := ih h.2
    unfold join at hrest ⊢
    rw [List.flatMap_cons, List.flatMap_cons, h.1]
    exact hrest

end Findings

namespace Validation

open Findings

/-! ## Components -/

theorem unknownAttributes_eq_nil {fields : Fields}
    (h : ∀ key ∈ fields.keys, key ∈ Catalog.knownAttributes) : unknownAttributes fields = [] := by
  have hnone : (fields.keys.filter fun key =>
      !(Catalog.knownAttributes.contains key || nestedKeys.contains key)) = [] := by
    rw [List.filter_eq_nil_iff]
    intro key hkey
    simp [h key hkey]
  unfold unknownAttributes sortTexts
  rw [hnone, List.mergeSort_nil]

theorem nestingFindings_eq_none (place : String) {fields : Fields}
    (h : ∀ key ∈ fields.keys, key ∈ Catalog.knownAttributes) :
    nestingFindings place fields = .none := by
  refine join_eq_none (List.forall_mem_map.2 fun nested hnested => ?_)
  have habsent : nested ∉ fields.keys := by
    intro hkey
    have hdisjoint : ∀ key ∈ nestedKeys, key ∉ Catalog.knownAttributes := by decide
    exact hdisjoint nested hnested (h nested hkey)
  rw [Fields.has_eq_false_iff.2 habsent]
  rfl

/-- There is nothing to say about an object that says what an allowed component says, and that under
known attributes. -/
theorem componentFindings_eq_none (place : String) {c : LayoutComponent} {fields : Fields}
    (allowed : Catalog.allows c.key = true) (mirrors : c.Mirrors fields)
    (known : ∀ key ∈ fields.keys, key ∈ Catalog.knownAttributes) :
    componentFindings place (.obj fields) = .none := by
  have key : keyFindings place (.str c.key) = .none := by
    simp only [keyFindings, Catalog.allowsValue, allowed]
    rfl
  have text : textFindings place (.ofText? c.text) = .none := by
    cases c.text <;> rfl
  have attributes : attributeFindings place fields = .none := by
    unfold attributeFindings
    rw [unknownAttributes_eq_nil known]
    rfl
  rw [componentFindings, mirrors.key, mirrors.text, key, text, nestingFindings_eq_none place known,
    attributes]
  rfl

theorem componentsFrom_eq_none {place : String} {items : List Json}
    (h : ∀ v ∈ items, ∀ place, componentFindings place v = .none) (i : Nat) :
    componentsFrom place i items = .none := by
  induction items generalizing i with
  | nil => rfl
  | cons v rest ih =>
    rw [List.forall_mem_cons] at h
    rw [componentsFrom, h.1, ih h.2]
    rfl

/-! ## Sections -/

theorem directionFindings_text (isMobile : Bool) (place : String) (d : Direction) :
    directionFindings isMobile place (.str d.text) =
      ⟨[], if isMobile && d != .vertical then
        [s!"{place} uses {d.text} layout on a mobile screen"] else []⟩ := by
  cases d <;> exact when_warning _ _

/-- An object that says what a section says, with nothing to remark upon in its components. -/
structure IsQuiet (s : LayoutSection) (fields : Fields) : Prop where
  named : s.name ≠ ""
  name : fields.get "section_name" = .str s.name
  flat : fields.has "sections" = false
  direction : (fields.get? "layout_direction").getD (.str "vertical") = .str s.direction.text
  components : (fields.get "components").IsArray fun items =>
    items.isEmpty = s.components.isEmpty ∧ ∀ v ∈ items, ∀ place, componentFindings place v = .none

theorem sectionFindings_of_isQuiet {isMobile : Bool} {v : Json} {s : LayoutSection}
    (h : v.IsObject (IsQuiet s)) (index : Nat) :
    sectionFindings isMobile index v = ⟨[], s.advice isMobile index⟩ := by
  obtain ⟨fields, rfl, h⟩ := h
  obtain ⟨items, hitems, hempty, hquiet⟩ := h.components
  have hname : sectionName? (.str s.name) = some s.name := if_neg h.named
  simp only [sectionFindings, h.name, hname, h.flat, h.direction, directionFindings_text, hitems,
    componentsFindings, componentsFrom_eq_none hquiet, append_none, when_warning, hempty]
  rfl

theorem sectionsFrom_of_isQuiet {isMobile : Bool} {items : List Json}
    {sections : List LayoutSection}
    (h : List.Forall₂ (fun v s => v.IsObject (IsQuiet s)) items sections) (i : Nat) :
    sectionsFrom isMobile i items = ⟨[], LayoutSection.adviceFrom isMobile i sections⟩ := by
  induction h generalizing i with
  | nil => rfl
  | cons hv _ ih =>
    rw [sectionsFrom, sectionFindings_of_isQuiet hv, ih]
    rfl

/-! ## Whole documents -/

theorem applicationFindings_str (application : String) : applicationFindings (.str application) =
    ⟨[], if !isKnownApplication application then
      [s!"Unknown application_type '{application}', default archetype mapping applies"] else []⟩ :=
  when_warning _ _

theorem screenTypeFindings_text (t : ScreenType) : screenTypeFindings (.str t.text) = .none := by
  cases t <;> rfl

/-- A canvas that is read, or that is not there at all, calls at most for the remark that it is not. -/
theorem canvasFindings_of_ofWire? {v : Json} {canvas? : Option CanvasSize}
    (read : CanvasSize.ofWire? v = .ok canvas?) (absent : canvas? = .none → v = .null) :
    canvasFindings v =
      .ok ⟨[], if canvas?.isNone then ["Missing canvas_size, archetype default will be used"]
        else []⟩ := by
  cases canvas? with
  | none => rw [absent rfl]; rfl
  | some c =>
    unfold canvasFindings
    split
    · cases read
    · show (CanvasSize.ofWire? v).bind _ = _
      rw [read]
      rfl

section Mirrors

variable {d : LayoutDocument} {fields : Fields}

theorem missingFindings_of_mirrors (h : d.Mirrors fields) : missingFindings fields = .none := by
  obtain ⟨items, hitems, -⟩ := h.sections
  refine join_eq_none (List.forall_mem_map.2 ?_)
  simp only [requiredFields, List.forall_mem_cons, h.screenType, h.applicationType, h.archetype,
    hitems, List.not_mem_nil, false_implies, implies_true, and_true]
  exact ⟨rfl, rfl, rfl, rfl⟩

theorem topLevelFindings_of_mirrors (h : d.Mirrors fields) :
    topLevelFindings fields = applicationFindings (.str d.applicationType) := by
  rw [topLevelFindings, missingFindings_of_mirrors h, h.screenType, h.applicationType, h.archetype,
    screenTypeFindings_text]
  exact append_none _

theorem sectionsFindings_of_mirrors (h : d.Mirrors fields)
    (quiet : (fields.get "sections").IsArray fun items =>
      List.Forall₂ (fun v s => v.IsObject (IsQuiet s)) items d.sections) :
    sectionsFindings fields =
      ⟨[], LayoutSection.adviceFrom (d.screenType == .mobile) 0 d.sections⟩ := by
  obtain ⟨items, hitems, hquiet⟩ := quiet
  have hmobile : isOneOf ["mobile"] (.str d.screenType.text) = (d.screenType == .mobile) := by
    cases d.screenType <;> rfl
  unfold sectionsFindings
  rw [Fields.get?_of_get hitems nofun, h.screenType, hmobile]
  exact sectionsFrom_of_isQuiet hquiet 0

/-- **What an allowed document says is judged valid, with the advice about the document.** The object
may say it in any order and among keys of its own; what it says of a canvas is read or absent. -/
theorem validateLayout_of_mirrors (h : d.Mirrors fields)
    (absent : d.canvas = .none → fields.get "canvas_size" = .null)
    (quiet : (fields.get "sections").IsArray fun items =>
      List.Forall₂ (fun v s => v.IsObject (IsQuiet s)) items d.sections) :
    validateLayout (.obj fields) = .ok ⟨true, [], d.advice⟩ := by
  unfold validateLayout
  rw [documentFindings_obj, canvasFindings_of_ofWire? h.canvas absent, topLevelFindings_of_mirrors h,
    applicationFindings_str, sectionsFindings_of_mirrors h quiet]
  rfl

end Mirrors

end Validation

end Wireframe
