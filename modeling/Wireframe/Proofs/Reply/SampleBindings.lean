import Wireframe.Proofs.Reply.SampleTemplate

/-!
# Bindings in sample templates

A binding asks something of a template: an interpolation asks that every element of a tag has it as its
content, a property that every button has it among its attributes, a class that the root container is
bound to it. A sample template does what the bindings of inferred inputs ask, except that its headings
know of one input only, the label.

* `Sample.Template.Realises` — what a binding asks of a template.
* `Sample.mem_bindings_inferInputs` — the bindings that there are for inferred inputs.
* `Sample.bindings_realised_unless_shown` — which of them the template of a design realises.
* `Sample.title_is_not_shown` — a title that no heading shows.
-/

set_option autoImplicit false

namespace Wireframe

open Text Markup

variable {d : Design} {i : InferredInputs} {item : InferredInput} {b : TemplateBinding} {node : Json}

namespace Sample

/-- Whether an element has a member bound to an expression: as a property, or as an attribute that
interpolates it. -/
def Binds (e : Element) (member expression : String) : Prop :=
  .ofTexts s!"[{member}]" expression ∈ e.attributes ∨
    .ofTexts member (interpolation expression) ∈ e.attributes

/-- Whether a template does what a binding asks of it. -/
def Template.Realises (t : Template) (b : TemplateBinding) : Prop :=
  match b.kind with
  | .interpolation => ∀ e ∈ t.elements, e.tag = b.target.toList → e.content = b.expression.toList
  | .property => ∃ member : String, b.target = s!"p-button[{member}]" ∧
      ∀ e ∈ t.elements, e.tag = "p-button".toList → Binds e member b.expression
  | .styleClass => t.rootClass = b.target.toList ∧
      .ofTexts "[ngClass]" b.expression ∈ t.rootAttributes

/-! ## Elements by their tags -/

variable {c : DesignComponent} {inferred : Option InferredInputs}

theorem shown_tag_iff {k : Kind} :
    (shown inferred c).tag = (MappingEntry.standard k).tag.toList ↔ c.kind = k := by
  have htag : (shown inferred c).tag = (MappingEntry.standard c.kind).tag.toList := rfl
  rw [htag]
  generalize c.kind = l
  cases k <;> cases l <;> decide

theorem exists_heading (h : (shown inferred c).tag = "h1".toList) : ∃ s, c = .heading s := by
  have hkind : c.kind = .heading := shown_tag_iff.1 h
  cases c <;> cases hkind
  exact ⟨_, rfl⟩

theorem exists_button (h : (shown inferred c).tag = "p-button".toList) :
    ∃ variant s, c = .button variant s := by
  have hkind : c.kind = .button := shown_tag_iff.1 h
  cases c <;> cases hkind
  exact ⟨_, _, rfl⟩

/-- The elements are what the components are shown as. -/
theorem forall_mem_elements {P : Element → Prop} :
    (∀ e ∈ (template d inferred).elements, P e) ↔ ∀ c ∈ d.components, P (shown inferred c) :=
  List.forall_mem_map

/-! ## The three kinds of bindings -/

/-- An interpolation into headings is realised when every heading shows it. -/
theorem realises_interpolation (expression : String) :
    (template d inferred).Realises ⟨.interpolation, "h1", expression⟩ ↔
      ∀ s, .heading s ∈ d.components → labelOr (active inferred) s = expression := by
  unfold Template.Realises
  rw [forall_mem_elements]
  constructor
  · intro h s hs
    exact String.toList_inj.1 (h (.heading s) hs (shown_tag_iff.2 rfl))
  · intro h c hc htag
    obtain ⟨s, rfl⟩ := exists_heading htag
    exact congrArg String.toList (h s hc)

/-- A truth value among the inputs is a property of every button. -/
theorem realises_boolean (hitem : item ∈ i.inputs) (htype : item.type = .boolean) :
    (template d (some i)).Realises ⟨.property, s!"p-button[{item.name}]", item.name⟩ := by
  refine ⟨item.name, rfl, forall_mem_elements.2 fun c hc htag => .inl ?_⟩
  obtain ⟨variant, s, rfl⟩ := exists_button htag
  have hboolean : (item.type == .boolean) = true := by rw [htype]; rfl
  rw [attributes_button, booleanAttributes_active]
  exact List.mem_append_right _ (List.mem_map.2
    ⟨item, List.mem_filter.2 ⟨mem_inputsOf_of_mem hitem, hboolean⟩, rfl⟩)

/-- A label among the inputs is shown in place of a component's own text. -/
theorem labelOr_active (hitem : item ∈ i.inputs) (hname : item.name = "label") (s : String) :
    labelOr (active (some i)) s = interpolation "label" :=
  if_pos (hasLabel_active_iff.2 ⟨item, mem_inputsOf_of_mem hitem, hname⟩)

/-- A label among the inputs is the label of every button. -/
theorem realises_buttonLabel (hitem : item ∈ i.inputs) (hname : item.name = "label") :
    (template d (some i)).Realises ⟨.property, "p-button[label]", "label"⟩ := by
  refine ⟨"label", by decide, forall_mem_elements.2 fun c hc htag => .inr ?_⟩
  obtain ⟨variant, s, rfl⟩ := exists_button htag
  rw [attributes_button, labelOr_active hitem hname]
  exact List.mem_cons_self

/-- A variant among the inputs is bound to the class of the root container. -/
theorem realises_variant (hitem : item ∈ i.inputs) (hsource : item.sourceType = some .variant) :
    (template d (some i)).Realises
      ⟨.styleClass, rootClass d.screenName, variantExpression item.name⟩ := by
  have hvariant : (item.sourceType == some .variant) = true := by rw [hsource]; rfl
  exact ⟨rfl, List.mem_map.2
    ⟨item, List.mem_filter.2 ⟨mem_inputsOf_of_mem hitem, hvariant⟩, rfl⟩⟩

/-! ## The bindings of inferred inputs -/

/-- What bindings there are for inferred inputs: one for a truth value, one for a variant, and for a
text of one of the shown names its interpolation, with the property of buttons where it is a label. -/
theorem mem_bindings_inferInputs {screenName : String}
    (h : b ∈ (inferInputs node screenName).bindings) :
    ∃ item ∈ (inferInputs node screenName).inputs,
      (item.type = .boolean ∧ b = ⟨.property, s!"p-button[{item.name}]", item.name⟩) ∨
      (item.sourceType = some .variant ∧
        b = ⟨.styleClass, rootClass screenName, variantExpression item.name⟩) ∨
      (item.name ∈ shownNames ∧ b = ⟨.interpolation, "h1", interpolation item.name⟩) ∨
      (item.name = "label" ∧ b = ⟨.property, "p-button[label]", "label"⟩) := by
  rw [bindings_inferInputs] at h
  obtain ⟨item, hitem, hb⟩ := List.mem_flatMap.1 h
  obtain ⟨source, hsource, htype⟩ := exists_source_of_mem_inputs hitem
  refine ⟨item, hitem, ?_⟩
  rw [InferredInput.bindings, hsource] at hb
  cases source with
  | boolean => exact .inl ⟨htype, List.mem_singleton.1 hb⟩
  | variant => exact .inr (.inl ⟨hsource, List.mem_singleton.1 hb⟩)
  | text =>
    dsimp only at hb
    split at hb
    · rename_i hshown
      rcases List.mem_cons.1 hb with rfl | hb
      · exact .inr (.inr (.inl ⟨List.contains_iff_mem.1 hshown, rfl⟩))
      · split at hb
        · rename_i hlabel
          exact .inr (.inr (.inr ⟨hlabel, hlabel ▸ List.mem_singleton.1 hb⟩))
        · cases hb
    · cases hb

theorem interpolation_injective : Function.Injective interpolation := by
  intro s t h
  have hlists : ("\x7b\x7b ".toList ++ s.toList) ++ " \x7d\x7d".toList =
      ("\x7b\x7b ".toList ++ t.toList) ++ " \x7d\x7d".toList := by
    simpa only [interpolation, String.toList_append] using congrArg String.toList h
  exact String.toList_inj.1 (List.append_cancel_left (List.append_cancel_right hlists))

/-- **A sample template realises the bindings of inferred inputs, but for those of a title or a text.**
Every property of buttons and every class of the root container is there, and so is the label in every
heading. Another interpolation is there only if no heading stands in its way: each shows its own text,
as there is no label, and has that very interpolation for a text. -/
theorem bindings_realised_unless_shown (node : Json) (d : Design) (b : TemplateBinding)
    (hb : b ∈ (inferInputs node d.screenName).bindings) :
    let i := inferInputs node d.screenName
    fileText d (some i) .html = (template d (some i)).write ∧
      ((template d (some i)).Realises b ↔
        b.kind ≠ .interpolation ∨ b.expression = interpolation "label" ∨
          ∀ s, .heading s ∈ d.components → i.declares "label" = false ∧ s = b.expression) := by
  refine ⟨fileText_html d (namedByIdentifiers_inferInputs (some (node, d.screenName))), ?_⟩
  obtain ⟨item, hitem, ⟨htype, rfl⟩ | ⟨hsource, rfl⟩ | ⟨-, rfl⟩ | ⟨hname, rfl⟩⟩ :=
    mem_bindings_inferInputs hb
  · exact iff_of_true (realises_boolean hitem htype) (.inl nofun)
  · exact iff_of_true (realises_variant hitem hsource) (.inl nofun)
  · rw [realises_interpolation]
    by_cases hlabel : interpolation item.name = interpolation "label"
    · refine iff_of_true (fun s _ => ?_) (.inr (.inl hlabel))
      rw [labelOr_active hitem (interpolation_injective hlabel), hlabel]
    · have hshown (s : String) :
          labelOr (active (some (inferInputs node d.screenName))) s = interpolation item.name ↔
            (inferInputs node d.screenName).declares "label" = false ∧ s = interpolation item.name := by
        rw [active_of_mem hitem, labelOr]
        cases hdeclared : hasLabel (some (inferInputs node d.screenName)) with
        | false => exact ⟨fun h => ⟨hdeclared, h⟩, fun h => h.2⟩
        | true => exact iff_of_false (fun h => hlabel h.symm) fun h => nomatch hdeclared.symm.trans h.1
      simp only [hshown, ne_eq, not_true_eq_false, hlabel, false_or]
  · exact iff_of_true (realises_buttonLabel hitem hname) (.inl nofun)

/-- A screen with a heading and a button. -/
def welcomeDesign : Design where
  screenName := "Login"
  flow := .vertical
  components := [.heading "Welcome", .button "primary" "Sign In"]
  tokens := {}

/-- A node with a title, and with a truth value behind it. -/
def titledNode : Json :=
  .obj [("name", .str "Card"), ("componentProperties", .obj [
    ("Title#1:0", .obj [("type", .str "TEXT"), ("value", .str "Hello")]),
    ("Disabled", .obj [("type", .str "BOOLEAN"), ("value", .bool false)])])]

theorem bindings_realised_unless_shown_titled :
    let t := template welcomeDesign (some (inferInputs titledNode "Login"))
    (inferInputs titledNode "Login").bindings =
        [⟨.interpolation, "h1", "\x7b\x7b title \x7d\x7d"⟩,
          ⟨.property, "p-button[disabled]", "disabled"⟩] ∧
      ¬t.Realises ⟨.interpolation, "h1", "\x7b\x7b title \x7d\x7d"⟩ ∧
      t.Realises ⟨.property, "p-button[disabled]", "disabled"⟩ := by
  have hbindings : (inferInputs titledNode "Login").bindings =
      [⟨.interpolation, "h1", "\x7b\x7b title \x7d\x7d"⟩,
        ⟨.property, "p-button[disabled]", "disabled"⟩] := by
    decide
  refine ⟨hbindings, fun hrealised => ?_, ?_⟩
  · have hmem : ⟨.interpolation, "h1", "\x7b\x7b title \x7d\x7d"⟩ ∈
        (inferInputs titledNode "Login").bindings := hbindings ▸ List.mem_cons_self
    obtain hkind | hlabel | hheadings :=
      (bindings_realised_unless_shown titledNode welcomeDesign _ hmem).2.1 hrealised
    · exact hkind rfl
    · exact absurd hlabel (by decide)
    · exact absurd (hheadings "Welcome" List.mem_cons_self).2 (by decide)
  · have hmem : ⟨.property, "p-button[disabled]", "disabled"⟩ ∈
        (inferInputs titledNode "Login").bindings :=
      hbindings ▸ List.mem_cons_of_mem _ List.mem_cons_self
    exact (bindings_realised_unless_shown titledNode welcomeDesign _ hmem).2.2 (.inl nofun)

/-- **A title that no heading shows.** The interpolation is among the bindings and a heading is on the
screen, but the heading shows its own text, and the interpolation is nowhere in the template. -/
theorem title_is_not_shown :
    let i := inferInputs titledNode "Login"
    let b : TemplateBinding := ⟨.interpolation, "h1", interpolation "title"⟩
    b ∈ i.bindings ∧
      (∃ e ∈ (template welcomeDesign (some i)).elements,
        e.tag = b.target.toList ∧ e.content = "Welcome".toList) ∧
      ¬(template welcomeDesign (some i)).Realises b ∧
      ¬b.expression.toList <:+: fileText welcomeDesign (some i) .html := by
  have helement : ∃ e ∈ (template welcomeDesign (some (inferInputs titledNode "Login"))).elements,
      e.tag = "h1".toList ∧ e.content = "Welcome".toList :=
    ⟨_, List.mem_cons_self, by decide, by decide +kernel⟩
  refine ⟨by decide, helement, fun hrealised => ?_, ?_⟩
  · obtain ⟨e, he, htag, hcontent⟩ := helement
    have hshown : e.content = (interpolation "title").toList := hrealised e he htag
    rw [hcontent] at hshown
    exact absurd hshown (by decide)
  · rw [← occursIn_iff]
    decide

end Sample

end Wireframe
