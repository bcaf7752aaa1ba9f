import Mathlib.Data.List.Perm.Basic
import Wireframe.Proofs.Layout.Placement

/-!
# Layouts in another order

What is derived from a document counts its parts and asks whether some or all of them are of a kind.
None of it depends on the order in which sections come, or components in a section.

* `Arrangement` — an order for the sections of a document and for the components in each of them.
* `LayoutDocument.Shuffles` — documents with the same parts in another order.
* `LayoutDocument.enhance_arranged` — to arrange a document and to enhance it commute.
* `LayoutDocument.Shuffles.metadata` — the metadata are the same in every order.
* `enhanced_alike_in_any_order` — the two together, for every order there is.
-/

set_option autoImplicit false

namespace Wireframe

/-! ## Items by their positions -/

section Positions

variable {α β : Type}

/-- The items of a list at given positions, in the order of the positions. -/
def itemsAt (positions : List Nat) (items : List α) : List α := positions.filterMap (items[·]?)

theorem itemsAt_map (f : α → β) (positions : List Nat) (items : List α) :
    itemsAt positions (items.map f) = (itemsAt positions items).map f := by
  simp only [itemsAt, List.getElem?_map, List.map_filterMap]

theorem itemsAt_range (items : List α) : itemsAt (List.range items.length) items = items := by
  induction items with
  | nil => rfl
  | cons a rest ih =>
    rw [itemsAt, List.length_cons, List.range_succ_eq_map, List.filterMap_cons,
      List.getElem?_cons_zero, List.filterMap_map]
    exact congrArg (a :: ·) ih

/-- Items at all positions are all items. -/
theorem perm_itemsAt {positions : List Nat} {items : List α}
    (h : positions.Perm (List.range items.length)) : items.Perm (itemsAt positions items) := by
  have hitems := (h.filterMap (items[·]?)).symm
  rwa [show (List.range items.length).filterMap (items[·]?) = items from itemsAt_range items] at hitems

/-- A permutation of a list comes with the positions that its items had. -/
theorem exists_zipIdx_of_perm {items others : List α} (h : items.Perm others) :
    ∃ placed : List (α × Nat), placed.map (·.1) = others ∧
      (placed.map (·.2)).Perm (List.range items.length) ∧
      ∀ p ∈ placed, items[p.2]? = some p.1 := by
  have hlisted : List.Forall₂ (fun a (p : α × Nat) => a = p.1) items items.zipIdx := by
    rw [← List.forall₂_map_right_iff, List.zipIdx_map_fst, List.forall₂_eq_eq_eq]
  obtain ⟨placed, hothers, hperm⟩ := List.perm_comp_forall₂ h.symm hlisted
  rw [← List.forall₂_map_right_iff, List.forall₂_eq_eq_eq] at hothers
  refine ⟨placed, hothers.symm, ?_, fun p hp => ?_⟩
  · have hpositions := hperm.map (·.2)
    rwa [List.zipIdx_map_snd, ← List.range_eq_range'] at hpositions
  · exact List.mem_zipIdx_iff_getElem?.1 (hperm.mem_iff.1 hp)

/-- Every permutation of a list is an order of its positions. -/
theorem exists_itemsAt_of_perm {items others : List α} (h : items.Perm others) :
    ∃ positions : List Nat, positions.Perm (List.range items.length) ∧
      itemsAt positions items = others := by
  obtain ⟨placed, hothers, hpositions, hplaced⟩ := exists_zipIdx_of_perm h
  refine ⟨placed.map (·.2), hpositions, ?_⟩
  rw [← hothers, itemsAt, List.filterMap_map, ← List.filterMap_eq_map]
  exact List.filterMap_congr hplaced

end Positions

/-! ## Arranging -/

/-- An order for the parts of a document: the positions of the sections as they are to come, each with
those of its components. -/
abbrev Arrangement := List (Nat × List Nat)

/-- A section with its components in another order. -/
def LayoutSection.arranged (s : LayoutSection) (positions : List Nat) : LayoutSection :=
  { s with components := itemsAt positions s.components }

/-- An enhanced section with its components in another order. -/
def EnhancedSection.arranged (s : EnhancedSection) (positions : List Nat) : EnhancedSection :=
  { s with components := itemsAt positions s.components }

/-- A document with its parts in another order. -/
def LayoutDocument.arranged (d : LayoutDocument) (order : Arrangement) : LayoutDocument :=
  { d with sections := order.filterMap fun e => d.sections[e.1]?.map (·.arranged e.2) }

/-- An enhanced layout with its parts in another order, and with the metadata that it has. -/
def EnhancedLayout.arranged (l : EnhancedLayout) (order : Arrangement) : EnhancedLayout :=
  { l with sections := order.filterMap fun e => l.sections[e.1]?.map (·.arranged e.2) }

/-- An order that names every section of a document once, and with it each of its components once. -/
structure Arrangement.Suits (order : Arrangement) (d : LayoutDocument) : Prop where
  sections : (order.map (·.1)).Perm (List.range d.sections.length)
  components : ∀ e ∈ order, ∀ s, d.sections[e.1]? = some s →
    e.2.Perm (List.range s.components.length)

theorem LayoutSection.enhance_arranged (s : LayoutSection) (positions : List Nat) :
    (s.arranged positions).enhance = s.enhance.arranged positions := by
  simp only [enhance, arranged, EnhancedSection.arranged, itemsAt_map]

/-- Sections are enhanced one by one, wherever they stand. -/
theorem map_enhance_arranged (sections : List LayoutSection) (order : Arrangement) :
    (order.filterMap fun e => sections[e.1]?.map (·.arranged e.2)).map (·.enhance) =
      order.filterMap fun e => (sections.map (·.enhance))[e.1]?.map (·.arranged e.2) := by
  simp only [List.map_filterMap, List.getElem?_map, Option.map_map, Function.comp_def,
    LayoutSection.enhance_arranged]

/-! ## Shuffled documents -/

/-- Two sections with the same components in another order. -/
structure LayoutSection.Shuffles (s t : LayoutSection) : Prop where
  name : t.name = s.name
  direction : t.direction = s.direction
  components : s.components.Perm t.components

/-- Two documents with the same sections in another order, with components in another order each. -/
structure LayoutDocument.Shuffles (d e : LayoutDocument) : Prop where
  screenType : e.screenType = d.screenType
  applicationType : e.applicationType = d.applicationType
  archetype : e.archetype = d.archetype
  canvas : e.canvas = d.canvas
  sections : ∃ moved, d.sections.Perm moved ∧ List.Forall₂ LayoutSection.Shuffles moved e.sections

section Arranged

variable {d e : LayoutDocument} {order : Arrangement}

theorem Arrangement.Suits.shuffles (h : order.Suits d) : d.Shuffles (d.arranged order) where
  screenType := rfl
  applicationType := rfl
  archetype := rfl
  canvas := rfl
  sections := by
    refine ⟨itemsAt (order.map (·.1)) d.sections, perm_itemsAt h.sections, ?_⟩
    rw [itemsAt, List.filterMap_map]
    have hall := h.components
    clear h
    induction order with
    | nil => exact .nil
    | cons entry rest ih =>
      obtain ⟨hentry, hrest⟩ := List.forall_mem_cons.1 hall
      simp only [LayoutDocument.arranged, List.filterMap_cons, Function.comp_apply]
      cases hs : d.sections[entry.1]? with
      | none => exact ih hrest
      | some s => exact .cons ⟨rfl, rfl, perm_itemsAt (hentry s hs)⟩ (ih hrest)

/-- Sections whose components are shuffled, each wherever it was placed, come from some order. -/
theorem exists_arrangement {sections others : List LayoutSection}
    {placed : List (LayoutSection × Nat)} (hplaced : ∀ p ∈ placed, sections[p.2]? = some p.1)
    (h : List.Forall₂ (fun p t => p.1.Shuffles t) placed others) :
    ∃ order : Arrangement, order.map (·.1) = placed.map (·.2) ∧
      (∀ entry ∈ order, ∀ s, sections[entry.1]? = some s →
        entry.2.Perm (List.range s.components.length)) ∧
      order.filterMap (fun entry => sections[entry.1]?.map (·.arranged entry.2)) = others := by
  induction h with
  | nil => exact ⟨[], rfl, nofun, rfl⟩
  | @cons p t rest others hshuffle _ ih =>
    obtain ⟨hp, hrest⟩ := List.forall_mem_cons.1 hplaced
    obtain ⟨order, hnames, hsuits, hordered⟩ := ih hrest
    obtain ⟨positions, hpositions, hcomponents⟩ := exists_itemsAt_of_perm hshuffle.components
    refine ⟨(p.2, positions) :: order, ?_, List.forall_mem_cons.2 ⟨fun s hs => ?_, hsuits⟩, ?_⟩
    · rw [List.map_cons, List.map_cons, hnames]
    · obtain rfl : p.1 = s := Option.some.inj (hp.symm.trans hs)
      exact hpositions
    · have harranged : p.1.arranged positions = t := by
        rw [LayoutSection.arranged, hcomponents, ← hshuffle.name, ← hshuffle.direction]
      rw [List.filterMap_cons, hp, hordered, Option.map_some, harranged]

/-- Every shuffled document is the document in some order. -/
theorem LayoutDocument.Shuffles.exists_arranged (h : d.Shuffles e) :
    ∃ order : Arrangement, order.Suits d ∧ d.arranged order = e := by
  obtain ⟨moved, hmoved, hsections⟩ := h.sections
  obtain ⟨placed, rfl, hpositions, hplaced⟩ := exists_zipIdx_of_perm hmoved
  rw [List.forall₂_map_left_iff] at hsections
  obtain ⟨order, hnames, hsuits, hordered⟩ := exists_arrangement hplaced hsections
  refine ⟨order, ⟨hnames ▸ hpositions, hsuits⟩, ?_⟩
  rw [LayoutDocument.arranged, hordered, ← h.screenType, ← h.applicationType, ← h.archetype,
    ← h.canvas]

/-! ## What is derived from shuffled documents -/

/-- Shuffled sections hold the same components, section by section. -/
theorem perm_components_of_forall₂ {sections others : List LayoutSection}
    (h : List.Forall₂ LayoutSection.Shuffles sections others) :
    (sections.flatMap (·.components)).Perm (others.flatMap (·.components)) := by
  induction h with
  | nil => exact .nil
  | cons hshuffle _ ih => exact hshuffle.components.append ih

/-- What is asked of the name and the direction of some section has the same answer. -/
theorem any_eq_of_forall₂ {sections others : List LayoutSection} {p : LayoutSection → Bool}
    (hp : ∀ s t : LayoutSection, t.name = s.name → t.direction = s.direction → p t = p s)
    (h : List.Forall₂ LayoutSection.Shuffles sections others) : others.any p = sections.any p := by
  induction h with
  | nil => rfl
  | cons hshuffle _ ih =>
    rw [List.any_cons, List.any_cons, hp _ _ hshuffle.name hshuffle.direction, ih]

namespace LayoutDocument.Shuffles

variable (h : d.Shuffles e)

include h

theorem length_sections : e.sections.length = d.sections.length := by
  obtain ⟨moved, hmoved, hsections⟩ := h.sections
  rw [← hsections.length_eq, hmoved.length_eq]

theorem components : d.components.Perm e.components := by
  obtain ⟨moved, hmoved, hsections⟩ := h.sections
  exact (hmoved.flatMap_right _).trans (perm_components_of_forall₂ hsections)

theorem componentCount : e.componentCount = d.componentCount := by
  rw [← e.length_components, ← d.length_components, h.components.length_eq]

theorem keys : d.keys.Perm e.keys := h.components.map _

/-- What is asked of the name and the direction of some section has the same answer. -/
theorem any_sections {p : LayoutSection → Bool}
    (hp : ∀ s t : LayoutSection, t.name = s.name → t.direction = s.direction → p t = p s) :
    e.sections.any p = d.sections.any p := by
  obtain ⟨moved, hmoved, hsections⟩ := h.sections
  rw [any_eq_of_forall₂ hp hsections, hmoved.any_eq]

theorem isForm : e.isForm = d.isForm := by
  unfold LayoutDocument.isForm
  rw [h.keys.count_eq, h.any_sections fun s t hname _ => by rw [hname]]

theorem isBrowsed : e.isBrowsed = d.isBrowsed := by
  unfold LayoutDocument.isBrowsed
  rw [h.any_sections fun s t _ hdirection => by rw [hdirection],
    h.any_sections fun s t hname _ => by rw [hname]]

theorem userFlow : e.userFlow = d.userFlow := by
  unfold LayoutDocument.userFlow
  rw [h.isForm, h.isBrowsed, h.keys.symm.isEmpty_eq, h.keys.length_eq, h.keys.countP_eq,
    h.keys.all_eq]

theorem complexity : e.complexity = d.complexity := by
  unfold LayoutDocument.complexity
  have hempty : e.sections.isEmpty = d.sections.isEmpty := by
    rw [Bool.eq_iff_iff, List.isEmpty_iff_length_eq_zero, List.isEmpty_iff_length_eq_zero,
      h.length_sections]
  rw [hempty, h.length_sections, h.componentCount]

theorem density (canvas : Option CanvasSize) : e.density canvas = d.density canvas := by
  unfold LayoutDocument.density
  rw [h.canvas, h.componentCount]

/-- **The metadata are the same in every order**, and where there are none, for the same reason. -/
theorem metadata : e.metadata = d.metadata := by
  unfold LayoutDocument.metadata
  rw [h.density, h.complexity, h.userFlow, h.length_sections, h.componentCount]

end LayoutDocument.Shuffles

/-- To arrange a document and to enhance it commute. -/
theorem LayoutDocument.enhance_arranged (h : order.Suits d) :
    (d.arranged order).enhance = d.enhance.map (·.arranged order) := by
  unfold LayoutDocument.enhance
  rw [h.shuffles.metadata]
  cases d.metadata with
  | error f => rfl
  | ok m =>
    show Except.ok _ = Except.ok _
    rw [LayoutDocument.arranged, map_enhance_arranged]
    rfl

/-- **A layout is enhanced alike in every order.** Of a document with the same sections and components
in another order, the enhanced layout has the same metadata. And whatever order takes the document
to the other takes its enhanced layout to that of the other: the components go where they went, each
with its role and its priority. -/
theorem enhanced_alike_in_any_order {l : EnhancedLayout} (enhanced : d.enhance = .ok l)
    (shuffled : d.Shuffles e) :
    ∃ m, e.enhance = .ok m ∧ m.metadata = l.metadata ∧
      (∃ order : Arrangement, order.Suits d ∧ d.arranged order = e) ∧
      ∀ order : Arrangement, order.Suits d → d.arranged order = e → l.arranged order = m := by
  obtain ⟨order, hsuits, rfl⟩ := shuffled.exists_arranged
  have hm : (d.arranged order).enhance = .ok (l.arranged order) := by
    rw [LayoutDocument.enhance_arranged hsuits, enhanced]
    rfl
  refine ⟨l.arranged order, hm, rfl, ⟨order, hsuits, rfl⟩, fun other hother hsame => ?_⟩
  have hagain : (d.arranged other).enhance = .ok (l.arranged other) := by
    rw [LayoutDocument.enhance_arranged hother, enhanced]
    rfl
  rw [hsame, hm] at hagain
  exact (Except.ok.inj hagain).symm

/-- A form below a header. -/
def headedForm : LayoutDocument where
  screenType := .mobile
  applicationType := "auth"
  archetype := "mobile_form"
  canvas := some CanvasType.mobile.size
  sections := [
    ⟨"header", .vertical, [⟨"heading", some "Sign in"⟩, ⟨"description", none⟩]⟩,
    ⟨"form_stack", .vertical,
      [⟨"text_input", some "Email"⟩, ⟨"text_input", some "Password"⟩, ⟨"primary_button", some "Go"⟩]⟩]

/-- The form first, and in it the button. -/
def buttonFirst : Arrangement := [(1, [2, 0, 1]), (0, [1, 0])]

theorem suits_buttonFirst : buttonFirst.Suits headedForm where
  sections := by decide
  components := by
    have hform : [2, 0, 1].Perm (List.range 3) := by decide
    have hheader : [1, 0].Perm (List.range 2) := by decide
    rintro entry hentry s hs
    rcases List.mem_cons.1 hentry with rfl | hentry
    · cases hs
      exact hform
    · cases List.mem_singleton.1 hentry
      cases hs
      exact hheader

theorem enhanced_alike_in_any_order_buttonFirst :
    ∃ l m, headedForm.enhance = .ok l ∧ headedForm.Shuffles (headedForm.arranged buttonFirst) ∧
      (headedForm.arranged buttonFirst).enhance = .ok m ∧ m.metadata = l.metadata ∧
      l.arranged buttonFirst = m ∧
      m.sections.map (fun s => s.components.map (·.role)) =
        [[.primaryAction, .input, .input], [.content, .title]] := by
  have hshuffled := suits_buttonFirst.shuffles
  obtain ⟨l, hl⟩ : ∃ l, headedForm.enhance = .ok l := by
    obtain ⟨density, hdensity⟩ :=
      LayoutDocument.densityOn_size headedForm.componentCount CanvasType.mobile
    have hmetadata : headedForm.metadata =
        .ok ⟨headedForm.complexity, headedForm.userFlow, density, 2, 5⟩ :=
      LayoutDocument.metadata_eq_ok.2 ⟨hdensity, rfl⟩
    exact ⟨_, LayoutDocument.enhance_eq_ok.2 ⟨_, hmetadata, rfl⟩⟩
  obtain ⟨m, hm, hmetadata, -, harranged⟩ := enhanced_alike_in_any_order hl hshuffled
  refine ⟨l, m, hl, hshuffled, hm, hmetadata, harranged _ suits_buttonFirst rfl, ?_⟩
  obtain ⟨_, -, rfl⟩ := LayoutDocument.enhance_eq_ok.1 hm
  rfl

end Arranged

end Wireframe
