import Wireframe.Proofs.Layout.Fit

/-!
# How a layout departs from its archetype

A section departs from its archetype in one of three ways: there is no rule for it, or it goes in another
direction than its rule, or it holds components that the rule does not allow. The first leaves nothing
else to compare. Every departure is told once, section by section, and what is told of a section is up
to the section and the archetype alone.

* `Departure`, `Departure.Of` — the three ways, and when a section departs in which.
* `ArchetypeConfig.departures` — the departures of a section, in the order in which they are told.
* `mem_departures_iff` — there are no others, and none is left out.
* `fit_warnings_are_departures` — the warnings about a document.
-/

set_option autoImplicit false

namespace Wireframe

/-- A way in which a section departs from its archetype. -/
inductive Departure where
  | unruled (sectionName archetype : String)
  | turned (sectionName : String) (found ruled : Direction)
  | strangers (sectionName : String) (keys : List String)
  deriving DecidableEq, Repr

namespace Departure

/-- What is told of a departure. -/
def text : Departure → String
  | unruled sectionName archetype =>
    s!"Section '{sectionName}' is not part of archetype '{archetype}'"
  | turned sectionName found ruled =>
    s!"Section '{sectionName}' uses {found.text} direction, archetype expects {ruled.text}"
  | strangers sectionName keys =>
    s!"Section '{sectionName}' contains components outside archetype rule: {commaList keys}"

/-- The place of a departure among those of its section. -/
def rank : Departure → Nat
  | unruled _ _ => 0
  | turned _ _ _ => 1
  | strangers _ _ => 2

/-- The departures of a section from an archetype. The strangers are the keys that the rule does not
allow, in increasing order. -/
inductive Of (config : ArchetypeConfig) (s : LayoutSection) : Departure → Prop
  | unruled (none : ∀ rule, (s.name, rule) ∉ config.rules) : Of config s (unruled s.name config.name)
  | turned {rule : SectionRule} (ruled : (s.name, rule) ∈ config.rules)
      (differs : s.direction ≠ rule.direction) : Of config s (turned s.name s.direction rule.direction)
  | strangers {rule : SectionRule} {keys : List String} (ruled : (s.name, rule) ∈ config.rules)
      (some : keys ≠ []) (ascending : keys.Pairwise (· < ·))
      (foreign : ∀ key, key ∈ keys ↔ (∃ c ∈ s.components, c.key = key) ∧ key ∉ rule.allowed) :
      Of config s (strangers s.name keys)

end Departure

/-! ## The departures of a section -/

/-- The keys in a section that a rule does not allow, in increasing order. -/
def SectionRule.strangers (rule : SectionRule) (s : LayoutSection) : List String :=
  sortedDistinct ((s.components.map (·.key)).filter fun key => !rule.allowed.contains key)

theorem SectionRule.mem_strangers {rule : SectionRule} {s : LayoutSection} {key : String} :
    key ∈ rule.strangers s ↔ (∃ c ∈ s.components, c.key = key) ∧ key ∉ rule.allowed := by
  simp [SectionRule.strangers, mem_sortedDistinct]

def SectionRule.departures (rule : SectionRule) (s : LayoutSection) : List Departure :=
  (if s.direction = rule.direction then [] else [.turned s.name s.direction rule.direction]) ++
    if (rule.strangers s).isEmpty then [] else [.strangers s.name (rule.strangers s)]

/-- The departures of a section, in the order in which they are told. -/
def ArchetypeConfig.departures (config : ArchetypeConfig) (s : LayoutSection) : List Departure :=
  match config.ruleFor? s.name with
  | none => [.unruled s.name config.name]
  | some rule => rule.departures s

section Departures

variable {config : ArchetypeConfig} {s : LayoutSection} {rule : SectionRule}

/-- The warnings about a section are what is told of its departures. -/
theorem sectionFitWarnings_eq (config : ArchetypeConfig) (s : LayoutSection) :
    sectionFitWarnings config s = (config.departures s).map (·.text) := by
  unfold sectionFitWarnings ArchetypeConfig.departures
  cases config.ruleFor? s.name with
  | none => rfl
  | some rule =>
    dsimp only
    unfold SectionRule.departures
    rw [List.map_append]
    congr 1
    · split <;> rfl
    · show (if (rule.strangers s).isEmpty = true then _ else _) = _
      split <;> rfl

theorem pairwise_departures (config : ArchetypeConfig) (s : LayoutSection) :
    (config.departures s).Pairwise (·.rank < ·.rank) := by
  unfold ArchetypeConfig.departures
  cases config.ruleFor? s.name with
  | none => exact List.pairwise_singleton _ _
  | some rule =>
    dsimp only
    unfold SectionRule.departures
    split <;> split <;> simp [Departure.rank]

/-- Under distinct names, the rule of a section is the one that stands with its name. -/
theorem ruleFor?_eq_some_iff (hnames : (config.rules.map (·.1)).Nodup) :
    config.ruleFor? s.name = some rule ↔ (s.name, rule) ∈ config.rules :=
  lookup_eq_some_iff_mem hnames

/-- A section without a rule departs in that, and in nothing else. -/
theorem departure_of_unruled (hnone : ∀ rule, (s.name, rule) ∉ config.rules) (r : Departure) :
    r.Of config s ↔ r = .unruled s.name config.name := by
  constructor
  · rintro (_ | ⟨hruled, _⟩ | ⟨hruled, _, _, _⟩)
    · rfl
    · exact absurd hruled (hnone _)
    · exact absurd hruled (hnone _)
  · rintro rfl
    exact .unruled hnone

/-- A section with a rule departs in its direction or in its components. -/
theorem departure_of_ruled (hnames : (config.rules.map (·.1)).Nodup)
    (hruled : (s.name, rule) ∈ config.rules) (r : Departure) :
    r.Of config s ↔ r ∈ rule.departures s := by
  have hrule {other : SectionRule} (h : (s.name, other) ∈ config.rules) : rule = other := by
    have hsome := (ruleFor?_eq_some_iff hnames).2 hruled
    exact Option.some.inj (hsome.symm.trans ((ruleFor?_eq_some_iff hnames).2 h))
  rw [SectionRule.departures, List.mem_append]
  constructor
  · rintro (hnone | ⟨hother, hdiffers⟩ | @⟨_, keys, hother, hsome, hascending, hforeign⟩)
    · exact absurd hruled (hnone rule)
    · obtain rfl := hrule hother
      rw [if_neg hdiffers]
      exact .inl List.mem_cons_self
    · obtain rfl := hrule hother
      obtain rfl : keys = rule.strangers s := eq_of_ascending hascending (pairwise_sortedDistinct _)
        fun key => (hforeign key).trans SectionRule.mem_strangers.symm
      rw [List.isEmpty_eq_false_iff.2 hsome]
      exact .inr List.mem_cons_self
  · rintro (hturned | hstrangers)
    · split at hturned
      · cases hturned
      · rename_i hdiffers
        rw [List.mem_singleton.1 hturned]
        exact .turned hruled hdiffers
    · split at hstrangers
      · cases hstrangers
      · rename_i hsome
        rw [List.mem_singleton.1 hstrangers]
        exact .strangers hruled (fun hnil => hsome (List.isEmpty_iff.2 hnil))
          (pairwise_sortedDistinct _) fun key => SectionRule.mem_strangers

/-- The departures that are told are those of the section. -/
theorem mem_departures_iff (hnames : (config.rules.map (·.1)).Nodup) (r : Departure) :
    r ∈ config.departures s ↔ r.Of config s := by
  unfold ArchetypeConfig.departures
  cases hrule : config.ruleFor? s.name with
  | none =>
    have hnone (rule : SectionRule) : (s.name, rule) ∉ config.rules := fun hmem => by
      rw [(ruleFor?_eq_some_iff hnames).2 hmem] at hrule
      cases hrule
    rw [departure_of_unruled hnone, List.mem_singleton]
  | some rule =>
    rw [departure_of_ruled hnames ((ruleFor?_eq_some_iff hnames).1 hrule)]

end Departures

/-! ## The warnings about a document -/

/-- No archetype has two rules for one section. -/
theorem nodup_ruleNames : ∀ config ∈ archetypes, (config.rules.map (·.1)).Nodup := by decide

/-- The configuration of an archetype is the one that bears its name. -/
theorem configFor?_eq_some_iff {name : String} {config : ArchetypeConfig} :
    configFor? name = some config ↔ config ∈ archetypes ∧ config.name = name := by
  constructor
  · intro h
    have hname := List.find?_some h
    exact ⟨List.mem_of_find?_eq_some h, eq_of_beq hname⟩
  · rintro ⟨hmem, rfl⟩
    have hall : ∀ config ∈ archetypes, configFor? config.name = some config := by decide
    exact hall config hmem

/-- The warning that another archetype was expected, if one was. -/
def LayoutDocument.mismatch (d : LayoutDocument) : List String :=
  let expected := expectedArchetype d.applicationType d.screenType.text
  if d.archetype = expected then []
  else
    [s!"Layout archetype '{d.archetype}' differs from expected '{expected}' for {d.applicationType}/{d.screenType.text}"]

theorem LayoutDocument.fitWarnings_eq {d : LayoutDocument} {config : ArchetypeConfig}
    (hmem : config ∈ archetypes) (hname : d.archetype = config.name) :
    d.fitWarnings = d.mismatch ++ d.sections.flatMap fun s => (config.departures s).map (·.text) := by
  have hconfig : configFor? d.archetype = some config :=
    configFor?_eq_some_iff.2 ⟨hmem, hname.symm⟩
  simp only [← sectionFitWarnings_eq]
  unfold fitWarnings mismatch
  rw [hconfig]

/-- About a document of an unknown archetype there is one warning, that another was expected. -/
theorem LayoutDocument.fitWarnings_of_unknown {d : LayoutDocument}
    (h : ∀ config ∈ archetypes, d.archetype ≠ config.name) :
    d.fitWarnings = d.mismatch ∧ d.mismatch.length = 1 := by
  have hnone : configFor? d.archetype = none := by
    rw [Option.eq_none_iff_forall_ne_some]
    intro config hconfig
    obtain ⟨hmem, hname⟩ := configFor?_eq_some_iff.1 hconfig
    exact h config hmem hname.symm
  have hdiffers : d.archetype ≠ expectedArchetype d.applicationType d.screenType.text := by
    obtain ⟨config, hconfig⟩ := exists_configFor?_expectedArchetype d.applicationType d.screenType
    intro hsame
    rw [← hsame, hnone] at hconfig
    cases hconfig
  constructor
  · unfold fitWarnings mismatch
    rw [hnone]
    exact List.append_nil _
  · unfold mismatch
    rw [if_neg hdiffers]
    rfl

/-- A section follows a rule when it has its direction and none but the components that it allows. -/
theorem LayoutSection.follows_iff {s : LayoutSection} {rule : SectionRule} : s.Follows rule ↔
    s.direction = rule.direction ∧ ∀ c ∈ s.components, c.key ∈ rule.allowed :=
  ⟨fun h => ⟨h.direction, h.components⟩, fun h => ⟨h.1, h.2⟩⟩

/-- **The warnings about a document are its departures.** There are none exactly when the archetype is
the expected one and every section follows a rule of it. In general they are the one that another
archetype was expected, if it was, and then, for an archetype that there is, those of each section in
turn: exactly the departures of the section, each once and in their order, whatever the rest of the
document. An archetype that there is not leaves the first only. -/
theorem fit_warnings_are_departures :
    (∀ d : LayoutDocument, d.fitWarnings = [] ↔
      d.archetype = expectedArchetype d.applicationType d.screenType.text ∧
        ∃ config ∈ archetypes, config.name = d.archetype ∧
          ∀ s ∈ d.sections, ∃ rule, (s.name, rule) ∈ config.rules ∧
            s.direction = rule.direction ∧ ∀ c ∈ s.components, c.key ∈ rule.allowed) ∧
    (∀ d : LayoutDocument, d.mismatch = [] ↔
      d.archetype = expectedArchetype d.applicationType d.screenType.text) ∧
    (∀ config ∈ archetypes, ∃ told : LayoutSection → List Departure,
      (∀ s, (told s).Pairwise (·.rank < ·.rank) ∧ ∀ r, r ∈ told s ↔ r.Of config s) ∧
        ∀ d : LayoutDocument, d.archetype = config.name →
          d.fitWarnings = d.mismatch ++ d.sections.flatMap fun s => (told s).map (·.text)) ∧
    ∀ d : LayoutDocument, (∀ config ∈ archetypes, d.archetype ≠ config.name) →
      d.fitWarnings = d.mismatch ∧ d.mismatch.length = 1 := by
  refine ⟨fun d => ?_, fun d => ?_, fun config hmem => ?_, fun d => d.fitWarnings_of_unknown⟩
  · rw [LayoutDocument.fitWarnings_eq_nil_iff]
    simp only [configFor?_eq_some_iff, LayoutDocument.Follows, LayoutSection.follows_iff, and_assoc]
    refine and_congr_right fun _ => exists_congr fun config => and_congr_right fun hmem =>
      and_congr_right fun _ => forall₂_congr fun s _ => exists_congr fun rule => ?_
    rw [ruleFor?_eq_some_iff (nodup_ruleNames config hmem)]
  · unfold LayoutDocument.mismatch
    simp only [ite_eq_left_iff, List.cons_ne_nil, imp_false, not_not]
  · refine ⟨config.departures, fun s => ⟨pairwise_departures config s, fun r => ?_⟩, fun d hname =>
      LayoutDocument.fitWarnings_eq hmem hname⟩
    exact mem_departures_iff (nodup_ruleNames config hmem) r

/-- A form that lies down, with strangers in it. -/
def strayForm : LayoutSection where
  name := "form_stack"
  direction := .horizontal
  components := ["text_input", "secondary_button", "card_container", "secondary_button"].map (⟨·, none⟩)

/-- A dashboard that declares a form, with a stray form and with a sidebar. -/
def strayDashboard : LayoutDocument where
  screenType := .mobile
  applicationType := "dashboard"
  archetype := "mobile_form"
  canvas := none
  sections := [strayForm, ⟨"sidebar", .vertical, [⟨"heading", none⟩]⟩]

theorem departures_strayForm {config : ArchetypeConfig} (h : configFor? "mobile_form" = some config) :
    config.departures strayForm = [.turned "form_stack" .horizontal .vertical,
      .strangers "form_stack" ["card_container", "secondary_button"]] := by
  cases h
  have hstrangers : sortedDistinct ["secondary_button", "card_container", "secondary_button"] =
      ["card_container", "secondary_button"] := by
    refine eq_of_ascending (pairwise_sortedDistinct _) (by decide) fun key => ?_
    rw [mem_sortedDistinct]
    simp only [List.mem_cons, List.not_mem_nil, or_false]
    tauto
  have hforeign : (strayForm.components.map (·.key)).filter (fun key =>
      !(["heading", "description", "text_input", "primary_button"].contains key)) =
        ["secondary_button", "card_container", "secondary_button"] := by
    decide
  show [Departure.turned "form_stack" .horizontal .vertical] ++ (if (sortedDistinct _).isEmpty then []
    else [Departure.strangers "form_stack" (sortedDistinct _)]) = _
  rw [hforeign, hstrangers]
  rfl

theorem fit_warnings_are_departures_strayDashboard :
    (∃ config ∈ archetypes, strayDashboard.archetype = config.name ∧
      ∃ told : LayoutSection → List Departure,
        (∀ s, (told s).Pairwise (·.rank < ·.rank) ∧ ∀ r, r ∈ told s ↔ r.Of config s) ∧
        strayDashboard.fitWarnings = strayDashboard.mismatch ++
          strayDashboard.sections.flatMap fun s => (told s).map (·.text)) ∧
    strayDashboard.fitWarnings = [
      "Layout archetype 'mobile_form' differs from expected 'mobile_dashboard' for dashboard/mobile",
      "Section 'form_stack' uses horizontal direction, archetype expects vertical",
      "Section 'form_stack' contains components outside archetype rule: card_container, secondary_button",
      "Section 'sidebar' is not part of archetype 'mobile_form'"] ∧
    ({ strayDashboard with archetype := "kiosk" } : LayoutDocument).fitWarnings.length = 1 := by
  obtain ⟨-, -, hknown, hunknown⟩ := fit_warnings_are_departures
  obtain ⟨config, hconfig⟩ : ∃ config, configFor? "mobile_form" = some config := ⟨_, rfl⟩
  obtain ⟨hmem, hname⟩ := configFor?_eq_some_iff.1 hconfig
  obtain ⟨told, htold, hwarnings⟩ := hknown config hmem
  refine ⟨⟨config, hmem, hname.symm, told, htold, hwarnings strayDashboard hname.symm⟩, ?_, ?_⟩
  · have hform := departures_strayForm hconfig
    rw [LayoutDocument.fitWarnings_eq hmem hname.symm, strayDashboard, List.flatMap_cons, hform]
    cases hconfig
    decide
  · obtain ⟨heq, hlength⟩ := hunknown { strayDashboard with archetype := "kiosk" } (by decide)
    rw [heq, hlength]

end Wireframe
