import Wireframe.Proofs.Json.Order
import Wireframe.Proofs.Layout.RoundTrip

/-!
# Fitting the archetype and pleasing validation

Two advisers look at the direction of a section. `LayoutDocument.fitWarnings` compares it with the rule
that the archetype has for the section; `validateLayout` wants it vertical on a mobile screen, whatever
the archetype. They agree upon every section but one: the bottom actions of a mobile dashboard, which
are horizontal by the rule, although the archetype itself is to be vertical only.

* `LayoutDocument.Follows` — a document with sections as the rules of its archetype have them.
* `LayoutDocument.fitWarnings_eq_nil_iff` — a document fits when it follows the archetype expected of it.
* `direction_of_mobile_rule` — what directions the rules for mobile screens have.
* `fitting_layout_warnings` — what validation remarks about a layout that fits.
-/

set_option autoImplicit false

namespace Wireframe

open Validation

/-! ## Following an archetype -/

/-- A section in the direction of a rule, with no component that the rule does not allow. -/
structure LayoutSection.Follows (s : LayoutSection) (rule : SectionRule) : Prop where
  direction : s.direction = rule.direction
  components : ∀ c ∈ s.components, c.key ∈ rule.allowed

/-- A document each of whose sections has a rule in an archetype and follows it. -/
def LayoutDocument.Follows (d : LayoutDocument) (config : ArchetypeConfig) : Prop :=
  ∀ s ∈ d.sections, ∃ rule, config.ruleFor? s.name = some rule ∧ s.Follows rule

theorem sectionFitWarnings_eq_nil_iff {config : ArchetypeConfig} {s : LayoutSection} :
    sectionFitWarnings config s = [] ↔
      ∃ rule, config.ruleFor? s.name = some rule ∧ s.Follows rule := by
  unfold sectionFitWarnings
  cases config.ruleFor? s.name with
  | none => exact iff_of_false (List.cons_ne_nil _ _) nofun
  | some rule =>
    have foreign : ((s.components.map (·.key)).filter fun key => !rule.allowed.contains key) = [] ↔
        ∀ c ∈ s.components, c.key ∈ rule.allowed := by
      simp [List.filter_eq_nil_iff]
    simp only [List.append_eq_nil_iff, ite_eq_left_iff, List.cons_ne_nil, imp_false, not_not,
      List.isEmpty_iff, sortedDistinct_eq_nil_iff, foreign, Option.some.injEq, exists_eq_left']
    exact ⟨fun h => ⟨h.1, h.2⟩, fun h => ⟨h.1, h.2⟩⟩

/-! ## The archetypes that are expected -/

theorem expectedArchetype_mem (application : String) (t : ScreenType) :
    ∃ row ∈ defaultRow :: knownRows, expectedArchetype application t.text =
      match t with
      | .web => row.web
      | .mobile => row.mobile := by
  refine ⟨(knownRows.find? (·.application == application)).getD defaultRow, ?_, by cases t <;> rfl⟩
  cases hrow : knownRows.find? (·.application == application) with
  | none => exact List.mem_cons_self
  | some row => exact List.mem_cons_of_mem _ (List.mem_of_find?_eq_some hrow)

/-- There is an archetype of every name that is expected. -/
theorem exists_configFor?_expectedArchetype (application : String) (t : ScreenType) :
    ∃ config, configFor? (expectedArchetype application t.text) = some config := by
  have hrows : ∀ row ∈ defaultRow :: knownRows,
      (configFor? row.web).isSome ∧ (configFor? row.mobile).isSome := by decide
  obtain ⟨row, hrow, hexpected⟩ := expectedArchetype_mem application t
  rw [← Option.isSome_iff_exists, hexpected]
  cases t with
  | web => exact (hrows row hrow).1
  | mobile => exact (hrows row hrow).2

/-- **A document fits when it follows the archetype expected of it.** -/
theorem LayoutDocument.fitWarnings_eq_nil_iff {d : LayoutDocument} : d.fitWarnings = [] ↔
    d.archetype = expectedArchetype d.applicationType d.screenType.text ∧
      ∃ config, configFor? d.archetype = some config ∧ d.Follows config := by
  unfold fitWarnings
  rw [List.append_eq_nil_iff]
  simp only [ite_eq_left_iff, List.cons_ne_nil, imp_false, not_not]
  refine and_congr_right fun hexpected => ?_
  obtain ⟨config, hconfig⟩ := exists_configFor?_expectedArchetype d.applicationType d.screenType
  rw [hexpected, hconfig]
  simp only [List.flatMap_eq_nil_iff, sectionFitWarnings_eq_nil_iff, Option.some.injEq,
    exists_eq_left']
  rfl

/-- The rules of the archetypes for mobile screens are vertical, but for those of bottom actions. -/
theorem direction_of_mobile_rule {application name : String} {config : ArchetypeConfig}
    {rule : SectionRule}
    (hconfig : configFor? (expectedArchetype application ScreenType.mobile.text) = some config)
    (hrule : config.ruleFor? name = some rule) :
    rule.direction = if name = "bottom_actions" then .horizontal else .vertical := by
  have htable : ∀ row ∈ defaultRow :: knownRows, ∀ config ∈ (configFor? row.mobile).toList,
      ∀ entry ∈ config.rules,
        entry.2.direction = if entry.1 = "bottom_actions" then .horizontal else .vertical := by
    decide
  obtain ⟨row, hrow, hexpected⟩ := expectedArchetype_mem application .mobile
  rw [hexpected] at hconfig
  obtain ⟨before, after, hrules, -⟩ := List.lookup_eq_some_iff.1 hrule
  have hentry : (name, rule) ∈ config.rules := by
    rw [hrules]
    exact List.mem_append_right before List.mem_cons_self
  exact htable row hrow config (Option.mem_toList.2 hconfig) _ hentry

/-! ## Complete layouts -/

/-- A component object with none but known attributes. -/
def HasKnownAttributes (fields : Fields) : Prop := ∀ key ∈ fields.keys, key ∈ Catalog.knownAttributes

/-- A section object that is not empty and whose components have none but known attributes. -/
def IsFilled (fields : Fields) : Prop :=
  (fields.get "components").IsArray fun items =>
    items ≠ [] ∧ ∀ v ∈ items, v.IsObject HasKnownAttributes

/-- A layout object for a known application, with a canvas and with sections that are filled. -/
structure IsComplete (fields : Fields) : Prop where
  application : ∃ name, fields.get "application_type" = .str name ∧ isKnownApplication name = true
  canvas : ∃ canvas, CanvasSize.ofWire? (fields.get "canvas_size") = .ok (some canvas)
  sections : (fields.get "sections").IsArray fun items => ∀ v ∈ items, v.IsObject IsFilled

/-- The components of a filled section call for no remark. -/
theorem SectionShape.isQuiet {s : LayoutSection} {v : Json} (shape : v.IsObject SectionShape)
    (filled : v.IsObject IsFilled) (mirrors : v.IsObject s.Mirrors) : v.IsObject (IsQuiet s) := by
  have allowed : s.IsAllowed := SectionShape.isAllowed shape mirrors
  obtain ⟨fields, rfl, ⟨shape, filled⟩, mirrors⟩ := (shape.and filled).and mirrors
  obtain ⟨items, hitems, ⟨-, hknown⟩, hmirrors⟩ := Json.IsArray.and filled mirrors.components
  have hempty : items.isEmpty = s.components.isEmpty := by
    rw [Bool.eq_iff_iff, List.isEmpty_iff_length_eq_zero, List.isEmpty_iff_length_eq_zero,
      hmirrors.length_eq]
  have hquiet : ∀ v ∈ items, v.IsObject HasKnownAttributes →
      ∀ place, componentFindings place v = .none := by
    refine forall_of_forall₂ (r := fun c v => v.IsObject (LayoutComponent.Mirrors c)) hmirrors.flip ?_
    rintro c hc _ ⟨component, rfl, hmirrors⟩ hknown place
    exact componentFindings_eq_none place (allowed.components c hc) hmirrors
      (Json.isObject_obj.1 hknown)
  exact ⟨fields, rfl, allowed.name, mirrors.name, shape.flat, mirrors.direction, items, hitems,
    hempty, fun v hv => hquiet v hv (hknown v hv)⟩

/-- A section that mirrors a filled one is not empty. -/
theorem LayoutSection.components_ne_nil {s : LayoutSection} {v : Json} (filled : v.IsObject IsFilled)
    (mirrors : v.IsObject s.Mirrors) : s.components ≠ [] := by
  obtain ⟨fields, rfl, filled, mirrors⟩ := filled.and mirrors
  obtain ⟨items, -, ⟨hne, -⟩, hmirrors⟩ := Json.IsArray.and filled mirrors.components
  intro hnil
  rw [hnil] at hmirrors
  exact hne (List.forall₂_nil_right_iff.1 hmirrors)

section Complete

variable {d : LayoutDocument} {fields : Fields}

/-- **A complete layout is judged valid, with the advice about the document that it describes.** -/
theorem LayoutShape.validateLayout_eq (shape : LayoutShape fields) (complete : IsComplete fields)
    (mirrors : d.Mirrors fields) : validateLayout (.obj fields) = .ok ⟨true, [], d.advice⟩ := by
  refine validateLayout_of_mirrors mirrors (fun hnone => ?_) ?_
  · obtain ⟨canvas, hcanvas⟩ := complete.canvas
    rw [mirrors.canvas, hnone] at hcanvas
    cases hcanvas
  · obtain ⟨items, hitems, hshape, hfilled, hmirrors⟩ :=
      shape.sections.and (complete.sections.and mirrors.sections)
    refine ⟨items, hitems, ?_⟩
    have hall := (List.forall₂_and_left items d.sections).2 ⟨hshape,
      (List.forall₂_and_left items d.sections).2 ⟨hfilled, hmirrors⟩⟩
    exact hall.imp fun v s h => SectionShape.isQuiet h.1 h.2.1 h.2.2

/-- A complete layout describes a document without empty sections. -/
theorem IsComplete.components_ne_nil (complete : IsComplete fields) (mirrors : d.Mirrors fields) :
    ∀ s ∈ d.sections, s.components ≠ [] := by
  obtain ⟨items, -, hfilled, hmirrors⟩ := complete.sections.and mirrors.sections
  exact forall_of_forall₂ hmirrors fun v hv s hs => s.components_ne_nil (hfilled v hv) hs

/-- The advice about such a document is about its sections. -/
theorem IsComplete.advice_eq (complete : IsComplete fields) (mirrors : d.Mirrors fields) :
    d.advice = LayoutSection.adviceFrom (d.screenType == .mobile) 0 d.sections := by
  obtain ⟨application, hread, hknown⟩ := complete.application
  obtain ⟨canvas, hcanvas⟩ := complete.canvas
  rw [mirrors.applicationType, Json.str.injEq] at hread
  rw [mirrors.canvas, Except.ok.injEq] at hcanvas
  unfold LayoutDocument.advice
  rw [hread, hknown, hcanvas]
  rfl

/-- The wire form of a document is complete when the document is. -/
theorem LayoutDocument.isComplete_wireFields {canvas : CanvasSize}
    (known : isKnownApplication d.applicationType = true) (hcanvas : d.canvas = some canvas)
    (filled : ∀ s ∈ d.sections, s.components ≠ []) : IsComplete d.wireFields where
  application := ⟨_, d.mirrors_wireFields.applicationType, known⟩
  canvas := ⟨canvas, by rw [d.mirrors_wireFields.canvas, hcanvas]⟩
  sections := by
    rw [LayoutDocument.wireFields, get_headFields_of_rest _ _ _ _ _ (by decide)]
    refine ⟨_, rfl, List.forall_mem_map.2 fun s hs => ⟨_, rfl, _, rfl, ?_, ?_⟩⟩
    · rw [Ne, List.map_eq_nil_iff]
      exact filled s hs
    · exact List.forall_mem_map.2 fun c _ => ⟨_, rfl, keys_fields_known c⟩

end Complete

/-! ## Bottom actions -/

/-- The remark about bottom actions at a position. -/
def bottomActionsRemark (index : Nat) : String :=
  s!"Section {index} (bottom_actions) uses horizontal layout on a mobile screen"

/-- The positions of the bottom actions on a mobile screen. -/
def LayoutDocument.bottomActions (d : LayoutDocument) : List Nat :=
  if d.screenType = .mobile then
    (d.sections.zipIdx.filter fun p => p.1.name == "bottom_actions").map (·.2)
  else []

theorem LayoutSection.adviceFrom_web {sections : List LayoutSection}
    (filled : ∀ s ∈ sections, s.components ≠ []) (i : Nat) : adviceFrom false i sections = [] := by
  unfold adviceFrom advice
  rw [List.flatMap_eq_nil_iff]
  rintro ⟨s, index⟩ hs
  have hne := filled s (List.fst_mem_of_mem_zipIdx hs)
  simp [hne]

/-- A section of a mobile screen that is vertical, unless it holds the bottom actions. -/
theorem LayoutSection.advice_mobile {s : LayoutSection} (filled : s.components ≠ [])
    (turned : s.direction = if s.name = "bottom_actions" then .horizontal else .vertical)
    (index : Nat) :
    s.advice true index = if s.name = "bottom_actions" then [bottomActionsRemark index] else [] := by
  have hempty : s.components.isEmpty = false := List.isEmpty_eq_false_iff.2 filled
  unfold advice
  rw [hempty, turned]
  split
  · rename_i hname
    have hremark : s!"{s.place index} uses {Direction.horizontal.text} layout on a mobile screen" =
        bottomActionsRemark index := by
      unfold place bottomActionsRemark Direction.text
      rw [hname]
      show "Section " ++ toString index ++ " (" ++ "bottom_actions" ++ ")" ++ " uses " ++
        "horizontal" ++ " layout on a mobile screen" = "Section " ++ toString index ++ _
      simp only [String.append_assoc]
      rfl
    exact congrArg (fun remark => [remark]) hremark
  · rfl

theorem LayoutSection.adviceFrom_mobile {sections : List LayoutSection}
    (filled : ∀ s ∈ sections, s.components ≠ [])
    (turned : ∀ s ∈ sections,
      s.direction = if s.name = "bottom_actions" then .horizontal else .vertical) (i : Nat) :
    adviceFrom true i sections =
      (((sections.zipIdx i).filter fun p => p.1.name == "bottom_actions").map (·.2)).map
        bottomActionsRemark := by
  induction sections generalizing i with
  | nil => rfl
  | cons s rest ih =>
    rw [List.forall_mem_cons] at filled turned
    have hcons : adviceFrom true i (s :: rest) = s.advice true i ++ adviceFrom true (i + 1) rest := rfl
    rw [hcons, ih filled.2 turned.2, advice_mobile filled.1 turned.1, List.zipIdx_cons,
      List.filter_cons]
    by_cases hname : s.name = "bottom_actions" <;> simp [hname]

variable {d : LayoutDocument}

/-- The advice about the sections of a document that fits is about its bottom actions. -/
theorem LayoutDocument.adviceFrom_of_fits (fits : d.fitWarnings = [])
    (filled : ∀ s ∈ d.sections, s.components ≠ []) :
    LayoutSection.adviceFrom (d.screenType == .mobile) 0 d.sections =
      d.bottomActions.map bottomActionsRemark := by
  obtain ⟨hexpected, config, hconfig, hfollows⟩ := fitWarnings_eq_nil_iff.1 fits
  unfold bottomActions
  cases hscreen : d.screenType with
  | web => exact LayoutSection.adviceFrom_web filled 0
  | mobile =>
    refine LayoutSection.adviceFrom_mobile filled (fun s hs => ?_) 0
    obtain ⟨rule, hrule, hdirection, -⟩ := hfollows s hs
    rw [hexpected, hscreen] at hconfig
    rw [hdirection]
    exact direction_of_mobile_rule hconfig hrule

theorem LayoutDocument.bottomActions_eq_nil_iff : d.bottomActions = [] ↔
    ¬(d.screenType = .mobile ∧ ∃ s ∈ d.sections, s.name = "bottom_actions") := by
  unfold bottomActions
  split
  · rename_i hmobile
    simp only [List.map_eq_nil_iff, List.filter_eq_nil_iff, beq_iff_eq, hmobile, true_and,
      not_exists, not_and]
    constructor
    · intro h s hs hname
      rw [← List.zipIdx_map_fst 0 d.sections] at hs
      obtain ⟨p, hp, rfl⟩ := List.mem_map.1 hs
      exact h p hp hname
    · rintro h ⟨s, i⟩ hs
      exact h s (List.fst_mem_of_mem_zipIdx hs)
  · rename_i hweb
    exact iff_of_true rfl fun h => hweb h.1

/-- **What validation remarks about a layout that fits.** Of a layout that leaves nothing open and
follows the archetype expected of it, exactly the bottom actions of a mobile screen are remarked upon;
without any, there is no remark at all. -/
theorem fitting_layout_warnings {raw : Json} {r : ValidationResult}
    (judged : validateLayout raw = .ok r) (valid : r.valid = true)
    (complete : raw.IsObject IsComplete) :
    ∃ d, LayoutDocument.ofWire raw = .ok d ∧ (d.fitWarnings = [] →
      r.warnings = d.bottomActions.map bottomActionsRemark ∧
        (r.warnings = [] ↔
          ¬(d.screenType = .mobile ∧ ∃ s ∈ d.sections, s.name = "bottom_actions"))) := by
  obtain ⟨d, hd⟩ := exists_mirrors_of_valid judged valid
  refine ⟨d, ofWire_of_mirrors hd, fun fits => ?_⟩
  have shape := (valid_iff_layoutShape judged).1 valid
  obtain ⟨fields, rfl, ⟨shape, complete⟩, mirrors⟩ := (shape.and complete).and hd
  rw [shape.validateLayout_eq complete mirrors] at judged
  cases judged
  have hwarnings : d.advice = d.bottomActions.map bottomActionsRemark := by
    rw [complete.advice_eq mirrors]
    exact d.adviceFrom_of_fits fits (complete.components_ne_nil mirrors)
  refine ⟨hwarnings, ?_⟩
  rw [← d.bottomActions_eq_nil_iff]
  show d.advice = [] ↔ _
  rw [hwarnings, List.map_eq_nil_iff]

theorem annotatedDocument_isAllowed : annotatedDocument.IsAllowed := by
  refine List.forall_mem_singleton.2 ⟨by decide, List.forall_mem_singleton.2 (by decide)⟩

theorem fitting_layout_warnings_annotatedDocument :
    ∃ r, validateLayout annotatedDocument.toWire = .ok r ∧ r.valid = true ∧
      annotatedDocument.toWire.IsObject IsComplete ∧ annotatedDocument.fitWarnings = [] ∧
      r.warnings = [] := by
  have judged := validateLayout_toWire annotatedDocument_isAllowed
  have complete : annotatedDocument.toWire.IsObject IsComplete :=
    ⟨_, rfl, LayoutDocument.isComplete_wireFields (by decide) rfl
      (List.forall_mem_singleton.2 (List.cons_ne_nil _ _))⟩
  have fits : annotatedDocument.fitWarnings = [] := by
    refine LayoutDocument.fitWarnings_eq_nil_iff.2 ⟨by decide, _, rfl, ?_⟩
    exact List.forall_mem_singleton.2 ⟨_, rfl, rfl, List.forall_mem_singleton.2 (by decide)⟩
  obtain ⟨d, hread, hremarks⟩ := fitting_layout_warnings judged rfl complete
  rw [annotatedDocument.ofWire_toWire] at hread
  cases hread
  exact ⟨_, judged, rfl, complete, fits, (hremarks fits).1⟩

/-- A dashboard for mobile screens, section by section as its archetype has it. -/
def mobileDashboard : LayoutDocument where
  screenType := .mobile
  applicationType := "dashboard"
  archetype := "mobile_dashboard"
  canvas := some CanvasType.mobile.size
  sections := [
    ⟨"header", .vertical, [⟨"heading", some "Today"⟩]⟩,
    ⟨"cards_stack", .vertical, [⟨"card_container", some "Visitors"⟩]⟩,
    ⟨"bottom_actions", .horizontal, [⟨"primary_button", some "Refresh"⟩]⟩]

/-- The mobile dashboard is as its archetype wants it, and validation has a remark to make. -/
theorem mobile_dashboard_fits_and_is_remarked_upon :
    ∃ r, validateLayout mobileDashboard.toWire = .ok r ∧ r.valid = true ∧
      mobileDashboard.toWire.IsObject IsComplete ∧
      LayoutDocument.ofWire mobileDashboard.toWire = .ok mobileDashboard ∧
      mobileDashboard.fitWarnings = [] ∧
      r.warnings = ["Section 2 (bottom_actions) uses horizontal layout on a mobile screen"] := by
  have hallowed : mobileDashboard.IsAllowed := by
    simp only [LayoutDocument.IsAllowed, mobileDashboard, List.forall_mem_cons, List.not_mem_nil,
      false_implies, implies_true, and_true]
    refine ⟨⟨by decide, ?_⟩, ⟨by decide, ?_⟩, by decide, ?_⟩ <;>
      exact List.forall_mem_singleton.2 (by decide)
  have hfits : mobileDashboard.fitWarnings = [] := by
    refine LayoutDocument.fitWarnings_eq_nil_iff.2 ⟨by decide, _, rfl, ?_⟩
    simp only [LayoutDocument.Follows, mobileDashboard, List.forall_mem_cons, List.not_mem_nil,
      false_implies, implies_true, and_true]
    refine ⟨⟨_, rfl, rfl, ?_⟩, ⟨_, rfl, rfl, ?_⟩, _, rfl, rfl, ?_⟩ <;>
      exact List.forall_mem_singleton.2 (by decide)
  exact ⟨_, validateLayout_toWire hallowed, rfl,
    ⟨_, rfl, LayoutDocument.isComplete_wireFields (by decide) rfl (by decide)⟩,
    mobileDashboard.ofWire_toWire, hfits, by decide⟩

end Wireframe
