import Wireframe.Proofs.Inputs.Inference
import Wireframe.Proofs.Reply.Sample

/-!
# The template of a sample reply, by its elements

A sample template is a root container with one element for every component, each on a line of its own.

* `Sample.Template`, `Sample.Template.write` — a template by its parts and its text.
* `Sample.template` — the parts of the template of a design.
* `Sample.fileText_html` — the template of a sample reply is written from these parts.
-/

set_option autoImplicit false

namespace Wireframe

open Text Markup

variable {v : List Char} {d : Design} {i : InferredInputs} {inferred : Option InferredInputs}

/-! ## Values that need no escape -/

/-- A value without the characters that are escaped. -/
def IsBare (v : List Char) : Prop := ∀ c ∈ v, c ≠ '&' ∧ c ≠ '"'

theorem escaped_of_isBare (h : IsBare v) : escaped v = v := by
  induction v with
  | nil => rfl
  | cons c v ih =>
    obtain ⟨⟨hamp, hquote⟩, hv⟩ := List.forall_mem_cons.1 h
    rw [escaped, List.flatMap_cons, escapedChar, if_neg hamp, if_neg hquote]
    exact congrArg (c :: ·) (ih hv)

/-- No character of an identifier is escaped. -/
theorem ne_of_isIdentifierPart {c : Char} (h : Naming.isIdentifierPart c = true) :
    c ≠ '&' ∧ c ≠ '"' := by
  constructor
  · rintro rfl
    exact absurd h (by decide)
  · rintro rfl
    exact absurd h (by decide)

theorem toList_variantExpression (name : String) : (variantExpression name).toList =
    '\'' :: ((Naming.kebabCase name).toList ++ ("-' + ".toList ++ name.toList)) := by
  simp [variantExpression, toString]

/-- The expression for a variant whose name is an identifier needs no escape. -/
theorem isBare_variantExpression {name : String}
    (h : Naming.isIdentifierText name.toList = true) : IsBare (variantExpression name).toList := by
  have hpart : ∀ c ∈ name.toList, Naming.isIdentifierPart c = true := fun c hc =>
    Naming.isIdentifierPart_of_mem h hc
  have hbetween : ("-' + ".toList.all fun c => c != '&' && c != '"') = true := by decide
  intro c hc
  rw [toList_variantExpression] at hc
  rcases List.mem_cons.1 hc with rfl | hc
  · decide
  rcases List.mem_append.1 hc with hc | hc
  · rcases Naming.isIdentifierPart_of_mem_kebabCase hpart hc with hc | rfl
    · exact ne_of_isIdentifierPart hc
    · decide
  rcases List.mem_append.1 hc with hc | hc
  · simpa using List.all_eq_true.1 hbetween c hc
  · exact ne_of_isIdentifierPart (hpart c hc)

namespace Sample

/-! ## Templates -/

/-- A template: the class of its root container, the container's other attributes, and the elements in
it. -/
structure Template where
  rootClass : List Char
  rootAttributes : List Attribute
  elements : List Element
  deriving DecidableEq, Repr

namespace Template

/-- The opening tag of the root container. Its class is written as it is. -/
def opening (t : Template) : List Char :=
  "<div class=\"".toList ++ t.rootClass ++ '"' :: writeAttributes t.rootAttributes ++ ['>']

/-- The text of a template. -/
def write (t : Template) : List Char :=
  joinLines ([t.opening] ++ (t.elements.map fun e => "  ".toList ++ e.write) ++ ["</div>".toList])

end Template

/-- The inputs that a sample reply takes note of. -/
def active (inferred : Option InferredInputs) : Option InferredInputs :=
  inferred.filter fun i => !i.isEmpty

/-- The element that shows a component. -/
def shown (inferred : Option InferredInputs) (c : DesignComponent) : Element :=
  c.element (.standard c.kind) (active inferred)

/-- The attribute that binds a variant to the class of the root container. -/
def variantAttribute (item : InferredInput) : Attribute :=
  .ofTexts "[ngClass]" (variantExpression item.name)

/-- The inputs that a sample reply declares. -/
def inputsOf (inferred : Option InferredInputs) : List InferredInput :=
  ((active inferred).map (·.inputs)).getD []

/-- The inputs that come from variants. -/
def variants (inferred : Option InferredInputs) : List InferredInput :=
  (inputsOf inferred).filter (·.sourceType == some .variant)

def template (d : Design) (inferred : Option InferredInputs) : Template where
  rootClass := (rootClass d.screenName).toList
  rootAttributes := (variants inferred).map variantAttribute
  elements := d.components.map (shown inferred)

theorem active_some (i : InferredInputs) :
    active (some i) = if i.inputs = [] then none else some i := i.filter_isEmpty

/-- Inputs with something among them are taken note of. -/
theorem active_of_mem {item : InferredInput} (h : item ∈ i.inputs) : active (some i) = some i := by
  rw [active_some, if_neg (List.ne_nil_of_mem h)]

theorem writeAttributes_variants {items : List InferredInput}
    (h : ∀ item ∈ items, Naming.isIdentifierText item.name.toList = true) :
    writeAttributes (items.map variantAttribute) = items.flatMap fun item =>
      " [ngClass]=\"".toList ++ (variantExpression item.name).toList ++ ['"'] := by
  rw [writeAttributes, List.flatMap_map]
  refine List.flatMap_congr fun item hitem => ?_
  have hbare := escaped_of_isBare (isBare_variantExpression (h item hitem))
  rw [variantAttribute, Attribute.ofTexts, Attribute.write, hbare]
  rfl

theorem mem_inputsOf {item : InferredInput} :
    item ∈ inputsOf inferred ↔ ∃ i, active inferred = some i ∧ item ∈ i.inputs := by
  unfold inputsOf
  cases active inferred with
  | none => exact iff_of_false List.not_mem_nil nofun
  | some i => exact ⟨fun h => ⟨i, rfl, h⟩, fun ⟨_, hi, h⟩ => Option.some.inj hi ▸ h⟩

theorem mem_inputsOf_of_mem {item : InferredInput} (h : item ∈ i.inputs) : item ∈ inputsOf (some i) :=
  mem_inputsOf.2 ⟨i, active_of_mem h, h⟩

/-- The inputs of a sample reply are named by identifiers. -/
def NamedByIdentifiers (inferred : Option InferredInputs) : Prop :=
  ∀ item ∈ inputsOf inferred, Naming.isIdentifierText item.name.toList = true

theorem variantAttributes_active (h : NamedByIdentifiers inferred) :
    variantAttributes (active inferred) = writeAttributes ((variants inferred).map variantAttribute) := by
  have hvariants : variantAttributes (active inferred) = (variants inferred).flatMap fun item =>
      " [ngClass]=\"".toList ++ (variantExpression item.name).toList ++ ['"'] := by
    unfold variants inputsOf
    cases active inferred with
    | none => rfl
    | some i => rfl
  exact hvariants.trans (writeAttributes_variants fun item hitem => h item
    (List.mem_of_mem_filter hitem)).symm

theorem toList_rootClass (screenName : String) :
    (Wireframe.rootClass screenName).toList = lower screenName.toList ++ "-container".toList := by
  rw [Wireframe.rootClass, Naming.lowerCase, String.toList_append, String.toList_ofList]

theorem opening_template (d : Design) (h : NamedByIdentifiers inferred) :
    (template d inferred).opening = "<div class=\"".toList ++ lower d.screenName.toList ++
      "-container\"".toList ++ variantAttributes (active inferred) ++ ['>'] := by
  have hclass : (template d inferred).rootClass = lower d.screenName.toList ++ "-container".toList :=
    toList_rootClass d.screenName
  have hquote : "-container\"".toList = "-container".toList ++ ['"'] := by decide
  have happend (tag name suffix rest : List Char) : tag ++ (name ++ suffix) ++ '"' :: rest ++ ['>'] =
      tag ++ name ++ (suffix ++ ['"']) ++ rest ++ ['>'] := by
    simp only [List.append_assoc, List.cons_append, List.nil_append]
  rw [variantAttributes_active h, hquote]
  unfold Template.opening
  rw [hclass]
  exact happend _ _ _ _

/-- The template of a sample reply is written from its parts. -/
theorem fileText_html (d : Design) (h : NamedByIdentifiers inferred) :
    fileText d inferred .html = (template d inferred).write := by
  have helements : (template d inferred).elements.map (fun e => "  ".toList ++ e.write) =
      d.components.map fun c => "  ".toList ++ renderMarkup c none (active inferred) := by
    rw [template, List.map_map]
    rfl
  rw [Template.write, opening_template d h, helements]
  rfl

theorem namedByIdentifiers_inferInputs (source : Option (Json × String)) :
    NamedByIdentifiers (source.map fun s => inferInputs s.1 s.2) := by
  intro item hitem
  obtain ⟨i, hi, hmem⟩ := mem_inputsOf.1 hitem
  obtain ⟨hinferred, -⟩ := Option.filter_eq_some_iff.1 hi
  obtain ⟨s, -, rfl⟩ := Option.map_eq_some_iff.1 hinferred
  exact (isWellFormed_inferInputs s.1 s.2).identifiers _ (List.mem_map_of_mem hmem)

/-! ## What inputs change in an element -/

theorem attributes_button (inferred : Option InferredInputs) (variant s : String) :
    (shown inferred (.button variant s)).attributes =
      [.ofTexts "label" (labelOr (active inferred) s), .ofTexts "severity" (buttonSeverity variant),
        .ofTexts "(click)" (handlerName s ++ "()")] ++ booleanAttributes (active inferred) := rfl

/-- Every truth value among the inputs is a property of every button. -/
theorem booleanAttributes_active (inferred : Option InferredInputs) :
    booleanAttributes (active inferred) = ((inputsOf inferred).filter (·.type == .boolean)).map
      fun item => .ofTexts s!"[{item.name}]" item.name := by
  unfold inputsOf
  cases active inferred with
  | none => rfl
  | some i => rfl

theorem hasLabel_active_iff :
    hasLabel (active inferred) = true ↔ ∃ item ∈ inputsOf inferred, item.name = "label" := by
  unfold inputsOf
  cases active inferred with
  | none => exact iff_of_false Bool.false_ne_true fun ⟨_, h, _⟩ => List.not_mem_nil h
  | some i =>
    show (i.inputs.any fun item => item.name == "label") = true ↔ _
    simp only [List.any_eq_true, beq_iff_eq, Option.map_some, Option.getD_some]

end Sample

end Wireframe
