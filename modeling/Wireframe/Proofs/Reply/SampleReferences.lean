import Wireframe.Proofs.Reply.SampleMembers

/-!
# What a sample template refers to

A template refers to members of the class in the values of bound attributes and in the texts that it
shows. The template and the class of a sample reply are written by separate passes over the components;
still, whatever the one is bound to, the other declares. The texts of a design are written as they are, so
that they may refer to members too, or to what is none.

* `namesIn` — the names in an expression, apart from its string literals.
* `Sample.TextReader` — a way to tell which names a shown text interpolates.
* `Sample.references` — the members that the template of a design refers to.
* `Sample.ownTexts` — the texts of a design that are written as they are.
* `Sample.references_are_declared` — each reference is declared, or made by one of these texts.
-/

set_option autoImplicit false

namespace Wireframe

open Text Markup

/-! ## Names in expressions -/

section Names

variable {word s rest : List Char} {c : Char}

/-- A finished word in front of names; nothing is no word. -/
def putName (word : List Char) (names : List (List Char)) : List (List Char) :=
  if word = [] then names else word :: names

/-- The names in an expression behind a word that is being read, or inside a string literal. -/
def namesFrom (quoted : Bool) (word : List Char) : List Char → List (List Char)
  | [] => putName word []
  | c :: rest =>
    if quoted then namesFrom (c != '\'') [] rest
    else if c = '\'' then putName word (namesFrom true [] rest)
    else if Naming.isIdentifierPart c then namesFrom false (word ++ [c]) rest
    else putName word (namesFrom false [] rest)

/-- The names in an expression: its longest runs of identifier characters, outside string literals. -/
def namesIn (expression : List Char) : List (List Char) := namesFrom false [] expression

/-- Whether a text can be a name in an expression. -/
structure IsName (name : List Char) : Prop where
  nonempty : name ≠ []
  parts : ∀ c ∈ name, Naming.isIdentifierPart c = true

theorem putName_of_isName {name : List Char} (h : IsName name) (names : List (List Char)) :
    putName name names = name :: names := if_neg h.nonempty

theorem namesFrom_parts (hs : ∀ c ∈ s, Naming.isIdentifierPart c = true) (word rest : List Char) :
    namesFrom false word (s ++ rest) = namesFrom false (word ++ s) rest := by
  induction s generalizing word with
  | nil => rw [List.nil_append, List.append_nil]
  | cons c s ih =>
    obtain ⟨hc, hs⟩ := List.forall_mem_cons.1 hs
    have hquote : c ≠ '\'' := by
      rintro rfl
      exact absurd hc (by decide)
    rw [List.cons_append, namesFrom, if_neg Bool.false_ne_true, if_neg hquote, if_pos hc, ih hs,
      List.append_assoc, List.singleton_append]

theorem namesFrom_other (hquote : c ≠ '\'') (hc : Naming.isIdentifierPart c = false)
    (word rest : List Char) :
    namesFrom false word (c :: rest) = putName word (namesFrom false [] rest) := by
  rw [namesFrom, if_neg Bool.false_ne_true, if_neg hquote, if_neg (hc ▸ Bool.false_ne_true)]

/-- Nothing inside a string literal is a name. -/
theorem namesFrom_literal (hs : '\'' ∉ s) (word rest : List Char) :
    namesFrom true word (s ++ '\'' :: rest) = namesFrom false [] rest := by
  induction s generalizing word with
  | nil => rfl
  | cons c s ih =>
    rw [List.mem_cons, not_or] at hs
    have hopen : (c != '\'') = true := bne_iff_ne.2 (Ne.symm hs.1)
    rw [List.cons_append, namesFrom, if_pos rfl, hopen, ih hs.2]

variable {name : List Char}

theorem namesFrom_name (h : IsName name) (rest : List Char) :
    namesFrom false [] (name ++ rest) = namesFrom false name rest := by
  rw [namesFrom_parts h.parts, List.nil_append]

theorem namesIn_name (h : IsName name) : namesIn name = [name] := by
  have hname := namesFrom_name h []
  rw [List.append_nil] at hname
  rw [namesIn, hname, namesFrom, putName_of_isName h]

theorem namesIn_call (h : IsName name) : namesIn (name ++ ['(', ')']) = [name] := by
  rw [namesIn, namesFrom_name h, namesFrom_other (by decide) (by decide), putName_of_isName h]
  rfl

theorem namesIn_variantExpression {name : String} (h : IsName name.toList) :
    namesIn (variantExpression name).toList = [name.toList] := by
  have htext : (variantExpression name).toList = '\'' :: ((Naming.kebabCase name).toList ++ ['-'] ++
      '\'' :: (' ' :: '+' :: ' ' :: (name.toList ++ []))) := by
    rw [toList_variantExpression, List.append_assoc, List.append_nil]
    rfl
  have hliteral : '\'' ∉ (Naming.kebabCase name).toList ++ ['-'] := by
    intro hmem
    rcases List.mem_append.1 hmem with hmem | hmem
    · rcases Naming.isIdentifierPart_of_mem_kebabCase h.parts hmem with hpart | hhyphen
      · exact absurd hpart (by decide)
      · exact absurd hhyphen (by decide)
    · exact absurd hmem (by decide)
  have hopen (rest : List Char) : namesFrom false [] ('\'' :: rest) = namesFrom true [] rest := rfl
  have hplus (rest : List Char) :
      namesFrom false [] (' ' :: '+' :: ' ' :: rest) = namesFrom false [] rest := rfl
  rw [namesIn, htext, hopen, namesFrom_literal hliteral, hplus, namesFrom_name h, namesFrom,
    putName_of_isName h]

theorem isName_of_isIdentifierText (h : Naming.isIdentifierText name = true) : IsName name where
  nonempty := by
    rintro rfl
    cases h
  parts _ hc := Naming.isIdentifierPart_of_mem h hc

theorem isIdentifierPart_of_mem_nameOr {name fallback : String}
    (hfallback : fallback.toList.all Naming.isIdentifierPart = true)
    (hname : ∀ c ∈ name.toList, isAsciiAlnum c = true) (hc : c ∈ (nameOr fallback name).toList) :
    Naming.isIdentifierPart c = true := by
  unfold nameOr at hc
  split at hc
  · exact List.all_eq_true.1 hfallback c hc
  · exact Naming.isIdentifierPart_of_isAsciiAlnum (hname c hc)

theorem isName_modelName (label : String) : IsName (modelName label).toList where
  nonempty := by
    rw [modelName, String.toList_append]
    exact List.append_ne_nil_of_right_ne_nil _ (by decide)
  parts c hc := by
    rw [modelName, String.toList_append] at hc
    rcases List.mem_append.1 hc with hc | hc
    · exact isIdentifierPart_of_mem_nameOr (by decide)
        (fun _ => Naming.isAsciiAlnum_of_mem_camelCase) hc
    · exact List.all_eq_true.1 (by decide : "Value".toList.all Naming.isIdentifierPart = true) c hc

theorem isName_handlerName (text : String) : IsName (handlerName text).toList where
  nonempty := by
    rw [handlerName, String.toList_append]
    exact List.append_ne_nil_of_right_ne_nil _ (by decide)
  parts c hc := by
    rw [handlerName, String.toList_append, String.toList_append] at hc
    rcases List.mem_append.1 hc with hc | hc
    · rcases List.mem_append.1 hc with hc | hc
      · exact List.all_eq_true.1 (by decide : "on".toList.all Naming.isIdentifierPart = true) c hc
      · exact isIdentifierPart_of_mem_nameOr (by decide)
          (fun _ => Naming.isAsciiAlnum_of_mem_pascalCase) hc
    · exact List.all_eq_true.1 (by decide : "Click".toList.all Naming.isIdentifierPart = true) c hc

end Names

/-! ## Texts that all markup has in common -/

/-- The texts that the markup of components may have whatever is said in them. -/
def commonTexts : List String :=
  ["", "text-content", "<!-- Container content -->", "text", "primary", "container"] ++ fieldTypes ++
    buttonSeverities ++ containerClasses.map (·.2)

theorem knownOr_mem (known : List String) (fallback s : String) :
    knownOr known fallback s ∈ fallback :: known := by
  unfold knownOr
  split
  · rename_i hknown
    exact List.mem_cons_of_mem _ (List.contains_iff_mem.1 hknown)
  · exact List.mem_cons_self

theorem fieldType_mem_commonTexts (inputType : String) : fieldType inputType ∈ commonTexts := by
  have hall : ∀ s ∈ "text" :: fieldTypes, s ∈ commonTexts := by decide
  exact hall _ (knownOr_mem _ _ _)

theorem buttonSeverity_mem_commonTexts (variant : String) : buttonSeverity variant ∈ commonTexts := by
  have hall : ∀ s ∈ "primary" :: buttonSeverities, s ∈ commonTexts := by decide
  exact hall _ (knownOr_mem _ _ _)

theorem containerClass_mem_commonTexts (variant : String) : containerClass variant ∈ commonTexts := by
  have hall : ∀ p ∈ containerClasses, p.2 ∈ commonTexts := by decide
  unfold containerClass
  cases hlookup : containerClasses.lookup variant with
  | none => decide
  | some name =>
    obtain ⟨before, after, hclasses, -⟩ := List.lookup_eq_some_iff.1 hlookup
    exact hall (variant, name) (hclasses ▸ List.mem_append_right before List.mem_cons_self)

namespace Sample

variable {d : Design} {inferred : Option InferredInputs} {s : String} {name : List Char}

/-! ## References -/

/-- A way to tell which names a text interpolates, where it is shown. It finds the label where that is
interpolated, and nothing in the texts that all markup has in common. -/
structure TextReader where
  names : List Char → List (List Char)
  label : names (interpolation "label").toList = ["label".toList]
  common : ∀ s ∈ commonTexts, names s.toList = []

/-- A member of the class as a template refers to it: a value that is read and written, a handler that
is called, an input that is read, or whatever a shown text names. -/
inductive Reference where
  | model (name : List Char)
  | handler (name : List Char)
  | input (name : List Char)
  | shown (name : List Char)
  deriving DecidableEq, Repr

/-- How a template can refer to a member. -/
def Member.references : Member → List Reference
  | input item => [.input item.name.toList, .shown item.name.toList]
  | model name => [.model name.toList, .shown name.toList]
  | handler name _ => [.handler name.toList, .shown name.toList]

/-- A reference to a member that has lines of its own in the class. -/
def IsDeclared (d : Design) (inferred : Option InferredInputs) (r : Reference) : Prop :=
  ∃ m ∈ classMembers d inferred, r ∈ m.references ∧ StandsIn m.text (members d (active inferred))

variable (R : TextReader)

/-- The members that a shown text refers to. -/
def TextReader.references (text : List Char) : List Reference := (R.names text).map .shown

/-- The members that an attribute refers to. It is bound both ways, to an event, or to a property, by
the brackets around its name; without brackets it has a text. -/
def attributeReferences (a : Attribute) : List Reference :=
  match a.name with
  | '[' :: '(' :: _ => (namesIn a.value).map .model
  | '(' :: _ => (namesIn a.value).map .handler
  | '[' :: _ => (namesIn a.value).map .input
  | _ => R.references a.value

/-- The members that an element refers to. -/
def elementReferences (e : Element) : List Reference :=
  e.attributes.flatMap (attributeReferences R) ++ R.references e.content

/-- The members that the template of a design refers to. -/
def references (d : Design) (inferred : Option InferredInputs) : List Reference :=
  let t := template d inferred
  R.references t.rootClass ++ t.rootAttributes.flatMap (attributeReferences R) ++
    t.elements.flatMap (elementReferences R)

/-- The texts of a component that are written as they are. The label takes the place of two of them. -/
def componentTexts (inferred : Option InferredInputs) : DesignComponent → List (List Char)
  | .heading s | .button _ s => if hasLabel (active inferred) then [] else [s.toList]
  | .text s | .input s _ => [s.toList]
  | .container _ => []

/-- The texts of a design that are written as they are. -/
def ownTexts (d : Design) (inferred : Option InferredInputs) : List (List Char) :=
  (template d inferred).rootClass :: d.components.flatMap (componentTexts inferred)

/-! ## What attributes refer to -/

theorem attributeReferences_plain {name : String} (hproperty : name.toList.head? ≠ some '[')
    (hevent : name.toList.head? ≠ some '(') (value : String) :
    attributeReferences R (.ofTexts name value) = R.references value.toList := by
  rw [Attribute.ofTexts]
  unfold attributeReferences
  split
  · rename_i heq
    exact absurd (congrArg List.head? heq) hproperty
  · rename_i heq
    exact absurd (congrArg List.head? heq) hevent
  · rename_i heq
    exact absurd (congrArg List.head? heq) hproperty
  · rfl

theorem TextReader.references_common (h : s ∈ commonTexts) : R.references s.toList = [] := by
  rw [references, R.common s h, List.map_nil]

theorem attributeReferences_common {name : String} (hproperty : name.toList.head? ≠ some '[')
    (hevent : name.toList.head? ≠ some '(') (h : s ∈ commonTexts) :
    attributeReferences R (.ofTexts name s) = [] := by
  rw [attributeReferences_plain R hproperty hevent, R.references_common h]

theorem attributeReferences_model (label : String) :
    attributeReferences R (.ofTexts "[(ngModel)]" (modelName label)) =
      [.model (modelName label).toList] := by
  have hreferences (value : List Char) : attributeReferences R ⟨"[(ngModel)]".toList, value⟩ =
      (namesIn value).map .model := rfl
  rw [Attribute.ofTexts, hreferences, namesIn_name (isName_modelName label), List.map_singleton]

theorem attributeReferences_click (text : String) :
    attributeReferences R (.ofTexts "(click)" (handlerName text ++ "()")) =
      [.handler (handlerName text).toList] := by
  have hreferences (value : List Char) : attributeReferences R ⟨"(click)".toList, value⟩ =
      (namesIn value).map .handler := rfl
  have hcall : (handlerName text ++ "()").toList = (handlerName text).toList ++ ['(', ')'] := by
    rw [String.toList_append]
    rfl
  rw [Attribute.ofTexts, hreferences, hcall, namesIn_call (isName_handlerName text),
    List.map_singleton]

variable {item : InferredInput}

theorem attributeReferences_variant (h : IsName item.name.toList) :
    attributeReferences R (variantAttribute item) = [.input item.name.toList] := by
  have hreferences (value : List Char) : attributeReferences R ⟨"[ngClass]".toList, value⟩ =
      (namesIn value).map .input := rfl
  rw [variantAttribute, Attribute.ofTexts, hreferences, namesIn_variantExpression h,
    List.map_singleton]

theorem attributeReferences_property (h : IsName item.name.toList) :
    attributeReferences R (.ofTexts s!"[{item.name}]" item.name) = [.input item.name.toList] := by
  have hbrackets : s!"[{item.name}]".toList = '[' :: (item.name.toList ++ [']']) := by
    simp [toString]
  rw [Attribute.ofTexts, hbrackets]
  cases htext : item.name.toList with
  | nil => exact absurd htext h.nonempty
  | cons c rest =>
    have hopen : c ≠ '(' := by
      rintro rfl
      exact absurd (h.parts '(' (htext ▸ List.mem_cons_self)) (by decide)
    have hreferences (tail value : List Char) : attributeReferences R ⟨'[' :: c :: tail, value⟩ =
        (namesIn value).map .input := by
      unfold attributeReferences
      split
      · rename_i heq
        cases heq
        exact absurd rfl hopen
      · rename_i heq
        cases heq
      · rfl
      · rename_i hno
        exact absurd rfl (hno _)
    rw [List.cons_append, hreferences, ← htext, namesIn_name h, List.map_singleton]

/-! ## What elements refer to -/

theorem elementReferences_heading (inferred : Option InferredInputs) (s : String) :
    elementReferences R (shown inferred (.heading s)) =
      R.references (labelOr (active inferred) s).toList := rfl

theorem elementReferences_text (inferred : Option InferredInputs) (s : String) :
    elementReferences R (shown inferred (.text s)) = R.references s.toList := by
  have hattributes : (shown inferred (.text s)).attributes = [.ofTexts "class" "text-content"] := rfl
  rw [elementReferences, hattributes, List.flatMap_singleton,
    attributeReferences_common R (by decide) (by decide) (by decide)]
  rfl

theorem elementReferences_container (inferred : Option InferredInputs) (variant : String) :
    elementReferences R (shown inferred (.container variant)) = [] := by
  have hattributes : (shown inferred (.container variant)).attributes =
      [.ofTexts "class" (containerClass variant)] := rfl
  have hnote : "<!-- Container content -->" ∈ commonTexts := by decide
  have hcontent : R.references (shown inferred (.container variant)).content = [] :=
    R.references_common hnote
  rw [elementReferences, hattributes, hcontent, List.flatMap_singleton, List.append_nil,
    attributeReferences_common R (by decide) (by decide) (containerClass_mem_commonTexts variant)]

theorem elementReferences_input (inferred : Option InferredInputs) (label inputType : String) :
    elementReferences R (shown inferred (.input label inputType)) =
      R.references label.toList ++ [.model (modelName label).toList] := by
  have hattributes : (shown inferred (.input label inputType)).attributes =
      [.ofTexts "type" (fieldType inputType), .ofTexts "placeholder" label,
        .ofTexts "[(ngModel)]" (modelName label)] := rfl
  have hcontent : R.references (shown inferred (.input label inputType)).content = [] :=
    R.references_common (by decide : "" ∈ commonTexts)
  rw [elementReferences, hattributes, hcontent, List.append_nil]
  simp only [List.flatMap_cons, List.flatMap_nil, List.append_nil, attributeReferences_model,
    attributeReferences_common R (by decide : "type".toList.head? ≠ some '[') (by decide)
      (fieldType_mem_commonTexts inputType),
    attributeReferences_plain R (by decide : "placeholder".toList.head? ≠ some '[') (by decide),
    List.nil_append]

/-- A button refers to what its label says, to its handler, and to every truth value among the
inputs. -/
theorem elementReferences_button (h : NamedByIdentifiers inferred) (variant s : String) :
    elementReferences R (shown inferred (.button variant s)) =
      R.references (labelOr (active inferred) s).toList ++ .handler (handlerName s).toList ::
        ((inputsOf inferred).filter (·.type == .boolean)).map fun item =>
          .input item.name.toList := by
  have hcontent : R.references (shown inferred (.button variant s)).content = [] :=
    R.references_common (by decide : "" ∈ commonTexts)
  have hbooleans : (booleanAttributes (active inferred)).flatMap (attributeReferences R) =
      ((inputsOf inferred).filter (·.type == .boolean)).map fun item =>
        .input item.name.toList := by
    rw [booleanAttributes_active, List.flatMap_map, List.map_eq_flatMap]
    exact List.flatMap_congr fun item hitem => attributeReferences_property R
      (isName_of_isIdentifierText (h item (List.mem_of_mem_filter hitem)))
  rw [elementReferences, attributes_button, List.flatMap_append, hbooleans, hcontent, List.append_nil]
  simp only [List.flatMap_cons, List.flatMap_nil, attributeReferences_click,
    attributeReferences_plain R (by decide : "label".toList.head? ≠ some '[') (by decide),
    attributeReferences_common R (by decide : "severity".toList.head? ≠ some '[') (by decide)
      (buttonSeverity_mem_commonTexts variant),
    List.nil_append, List.append_nil, List.append_assoc, List.cons_append]

/-! ## Every reference is declared -/

variable {R} {c : DesignComponent} {r : Reference}

theorem isDeclared_of_mem {m : Member} (hm : m ∈ classMembers d inferred) (hr : r ∈ m.references) :
    IsDeclared d inferred r := ⟨m, hm, hr, standsIn_members hm⟩

theorem isDeclared_input (hitem : item ∈ inputsOf inferred) (hr : r ∈ (Member.input item).references)
    (d : Design) : IsDeclared d inferred r :=
  isDeclared_of_mem
    (List.mem_append_left _ (List.mem_append_left _ (List.mem_map_of_mem hitem))) hr

theorem isDeclared_model {label inputType : String} (hc : .input label inputType ∈ d.components)
    (inferred : Option InferredInputs) : IsDeclared d inferred (.model (modelName label).toList) :=
  isDeclared_of_mem (model_mem_classMembers (mem_modelNames.2 ⟨label, inputType, hc, rfl⟩) inferred)
    List.mem_cons_self

/-- The handler of a button may have been declared for another one that comes first. -/
theorem isDeclared_handler {variant text : String} (hc : .button variant text ∈ d.components)
    (inferred : Option InferredInputs) : IsDeclared d inferred (.handler (handlerName text).toList) := by
  have hname : handlerName text ∈ (handlers d.components).map (·.1) :=
    mem_handlerNames.2 ⟨variant, text, hc, rfl⟩
  obtain ⟨⟨name, first⟩, hhandler, rfl⟩ := List.mem_map.1 hname
  exact isDeclared_of_mem (handler_mem_classMembers hhandler inferred) List.mem_cons_self

/-- A label is only interpolated when it is an input; else a text refers to what it names itself. -/
theorem isDeclared_or_mem_of_labelOr (hr : r ∈ R.references (labelOr (active inferred) s).toList)
    (d : Design) : IsDeclared d inferred r ∨
      hasLabel (active inferred) = false ∧ r ∈ R.references s.toList := by
  unfold labelOr at hr
  by_cases hlabel : hasLabel (active inferred) = true
  · rw [if_pos hlabel, TextReader.references, R.label, List.map_singleton, List.mem_singleton] at hr
    obtain ⟨item, hitem, hname⟩ := hasLabel_active_iff.1 hlabel
    refine .inl (isDeclared_input hitem ?_ d)
    rw [hr, ← hname]
    exact List.mem_cons_of_mem _ List.mem_cons_self
  · rw [if_neg hlabel] at hr
    exact .inr ⟨Bool.eq_false_iff.2 hlabel, hr⟩

/-- What an element refers to is declared, or named by a text of its component. -/
theorem isDeclared_or_mem_of_mem_element (h : NamedByIdentifiers inferred) (hc : c ∈ d.components)
    (hr : r ∈ elementReferences R (shown inferred c)) :
    IsDeclared d inferred r ∨ ∃ s ∈ componentTexts inferred c, r ∈ R.references s := by
  cases c with
  | heading s =>
    rw [elementReferences_heading] at hr
    refine (isDeclared_or_mem_of_labelOr hr d).imp_right fun ⟨hlabel, hr⟩ => ⟨s.toList, ?_, hr⟩
    simp [componentTexts, hlabel]
  | text s =>
    rw [elementReferences_text] at hr
    exact .inr ⟨s.toList, List.mem_cons_self, hr⟩
  | input label inputType =>
    rw [elementReferences_input] at hr
    rcases List.mem_append.1 hr with hr | hr
    · exact .inr ⟨label.toList, List.mem_cons_self, hr⟩
    · rw [List.mem_singleton.1 hr]
      exact .inl (isDeclared_model hc inferred)
  | button variant s =>
    rw [elementReferences_button R h] at hr
    rcases List.mem_append.1 hr with hr | hr
    · refine (isDeclared_or_mem_of_labelOr hr d).imp_right fun ⟨hlabel, hr⟩ => ⟨s.toList, ?_, hr⟩
      simp [componentTexts, hlabel]
    · rcases List.mem_cons.1 hr with rfl | hr
      · exact .inl (isDeclared_handler hc inferred)
      · obtain ⟨item, hitem, rfl⟩ := List.mem_map.1 hr
        exact .inl (isDeclared_input (List.mem_of_mem_filter hitem) List.mem_cons_self d)
  | container variant =>
    rw [elementReferences_container] at hr
    cases hr

/-- What the texts of a component name, its element refers to. -/
theorem references_subset_element (h : NamedByIdentifiers inferred) {text : List Char}
    (htext : text ∈ componentTexts inferred c) :
    R.references text ⊆ elementReferences R (shown inferred c) := by
  have hown {s : String} (hs : text ∈ if hasLabel (active inferred) then [] else [s.toList]) :
      (labelOr (active inferred) s).toList = text := by
    unfold labelOr
    split at hs
    · cases hs
    · rename_i hlabel
      rw [if_neg hlabel, List.mem_singleton.1 hs]
  cases c with
  | heading s =>
    rw [elementReferences_heading, hown htext]
    exact List.Subset.refl _
  | text s =>
    rw [elementReferences_text, ← List.mem_singleton.1 htext]
    exact List.Subset.refl _
  | input label inputType =>
    rw [elementReferences_input, ← List.mem_singleton.1 htext]
    exact List.subset_append_left _ _
  | button variant s =>
    rw [elementReferences_button R h, hown htext]
    exact List.subset_append_left _ _
  | container variant => cases htext

/-- Whatever a template refers to is a member of the class in its own family, or is named by a text of
the design. -/
theorem isDeclared_or_mem_of_mem_references (h : NamedByIdentifiers inferred)
    (hr : r ∈ references R d inferred) :
    IsDeclared d inferred r ∨ ∃ text ∈ ownTexts d inferred, r ∈ R.references text := by
  rcases List.mem_append.1 hr with hr | hr
  · rcases List.mem_append.1 hr with hr | hr
    · exact .inr ⟨_, List.mem_cons_self, hr⟩
    · obtain ⟨a, ha, hra⟩ := List.mem_flatMap.1 hr
      obtain ⟨item, hitem, rfl⟩ := List.mem_map.1 ha
      have hdeclared : item ∈ inputsOf inferred := List.mem_of_mem_filter hitem
      rw [attributeReferences_variant R (isName_of_isIdentifierText (h item hdeclared))] at hra
      rw [List.mem_singleton.1 hra]
      exact .inl (isDeclared_input hdeclared List.mem_cons_self d)
  · obtain ⟨e, he, hre⟩ := List.mem_flatMap.1 hr
    obtain ⟨c, hc, rfl⟩ := List.mem_map.1 he
    refine (isDeclared_or_mem_of_mem_element h hc hre).imp_right fun ⟨text, htext, hrt⟩ => ?_
    exact ⟨text, List.mem_cons_of_mem _ (List.mem_flatMap.2 ⟨c, hc, htext⟩), hrt⟩

/-- Whatever the texts of a design name, its template refers to. -/
theorem references_subset_references (h : NamedByIdentifiers inferred) {text : List Char}
    (htext : text ∈ ownTexts d inferred) : R.references text ⊆ references R d inferred := by
  rcases List.mem_cons.1 htext with rfl | htext
  · exact fun r hr => List.mem_append_left _ (List.mem_append_left _ hr)
  · obtain ⟨c, hc, htext⟩ := List.mem_flatMap.1 htext
    refine fun r hr => List.mem_append_right _ (List.mem_flatMap.2 ⟨shown inferred c, ?_, ?_⟩)
    · exact List.mem_map_of_mem hc
    · exact references_subset_element h htext hr

/-- The names that a text interpolates between double braces, from outside them or behind an expression
that is being read. -/
def bracedNames : Option (List Char) → List Char → List (List Char)
  | _, [] => []
  | none, '\x7b' :: '\x7b' :: rest => bracedNames (some []) rest
  | none, _ :: rest => bracedNames none rest
  | some expression, '\x7d' :: '\x7d' :: rest => namesIn expression ++ bracedNames none rest
  | some expression, c :: rest => bracedNames (some (expression ++ [c])) rest

/-- The reader that finds the names between double braces. -/
def TextReader.braces : TextReader where
  names := bracedNames none
  label := by decide
  common := by decide

/-- A screen with two buttons that share a handler. -/
def twoButtonsDesign : Design where
  screenName := "SignIn"
  flow := .vertical
  components := [.heading "Welcome", .input "E-mail address" "email", .button "primary" "Sign In",
    .button "secondary" "sign-in"]
  tokens := {}

/-- A node with an input of every type. -/
def labelledNode : Json :=
  .obj [("componentProperties", .obj [
    ("Label#1:0", .obj [("type", .str "TEXT"), ("value", .str "Go")]),
    ("Disabled", .obj [("type", .str "BOOLEAN"), ("value", .bool true)]),
    ("Button Size", .obj [("type", .str "VARIANT"), ("value", .str "large")])])]

/-- A screen whose heading interpolates a label. -/
def labelDesign : Design where
  screenName := "Login"
  flow := .vertical
  components := [.heading "\x7b\x7b label \x7d\x7d"]
  tokens := {}

end Sample

end Wireframe
