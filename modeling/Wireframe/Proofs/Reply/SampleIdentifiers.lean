import Wireframe.Proofs.Reply.SampleNames
import Wireframe.Proofs.Reply.SampleReferences

/-!
# Member names that are identifiers

Components name members of a sample class: an input component its value, a button its handler. The name
of a handler begins with `on` and is an identifier whatever the text of the button. The name of a value
begins as its label does, and no identifier begins with a digit.

* `Naming.head?_camelCase` — what a name in camel case begins with.
* `isIdentifierText_handlerName`, `isIdentifierText_modelName_iff` — the two kinds of names.
* `Sample.member_names_are_identifiers_iff` — the names in a class and in the markup of components.
-/

set_option autoImplicit false

namespace Wireframe

open Text

/-! ## The beginning of a name -/

namespace Naming

variable {c : Char} {s : List Char}

/-- A name in camel case begins with the first ASCII letter or digit of its text, in small. -/
theorem head?_camelCase (s : String) :
    (camelCase s).toList.head? = (s.toList.find? isAsciiAlnum).map lowerAscii := by
  rw [camelCase, String.toList_ofList]
  rcases words_cases s.toList with ⟨hwords, hfind⟩ | ⟨c, w, ws, hwords, hfind⟩
  · rw [hwords, hfind]
    rfl
  · rw [hwords, hfind]
    rfl

/-- What has the characters of an identifier is one if it begins as one. -/
theorem isIdentifierText_iff_head (h : ∀ c ∈ s, isIdentifierPart c = true) :
    isIdentifierText s = true ↔ ∃ c, s.head? = some c ∧ isIdentifierStart c = true := by
  cases s with
  | nil => simp [isIdentifierText]
  | cons c rest =>
    have hrest : rest.all isIdentifierPart = true := by
      rw [List.all_eq_true]
      intro d hd
      exact h d (List.mem_cons_of_mem c hd)
    simp [isIdentifierText, hrest]

/-- Of the ASCII letters and digits, the letters begin identifiers. -/
theorem isIdentifierStart_lowerAscii_iff (h : isAsciiAlnum c = true) :
    isIdentifierStart (lowerAscii c) = true ↔ ¬('0' ≤ c ∧ c ≤ '9') := by
  rw [isAsciiAlnum_iff] at h
  simp only [isIdentifierStart, Bool.or_eq_true, Bool.and_eq_true, decide_eq_true_eq, beq_iff_eq,
    char_le_iff, ← Char.toNat_inj, toNat_lowerAscii, Char.reduceToNat]
  split <;> omega

end Naming

/-- Whether the first ASCII letter or digit of a label is a digit. -/
def LeadsWithDigit (label : String) : Prop :=
  ∃ c, label.toList.find? isAsciiAlnum = some c ∧ '0' ≤ c ∧ c ≤ '9'

/-- The name of a value begins as its label does, or as the name for want of one. -/
theorem head?_modelName (label : String) : (modelName label).toList.head? =
    some (((label.toList.find? isAsciiAlnum).map lowerAscii).getD 'f') := by
  have hhead := Naming.head?_camelCase label
  rw [modelName, String.toList_append]
  cases hfind : label.toList.find? isAsciiAlnum with
  | none =>
    rw [hfind, Option.map_none, List.head?_eq_none_iff, String.toList_eq_nil_iff] at hhead
    rw [nameOr, if_pos hhead]
    rfl
  | some c =>
    rw [hfind, Option.map_some] at hhead
    have hne : Naming.camelCase label ≠ "" := by
      intro hnil
      rw [hnil] at hhead
      cases hhead
    rw [nameOr, if_neg hne, List.head?_append, hhead]
    rfl

/-- The name of a value is an identifier unless a digit is the first that its label puts into it. -/
theorem isIdentifierText_modelName_iff (label : String) :
    Naming.isIdentifierText (modelName label).toList = true ↔ ¬LeadsWithDigit label := by
  rw [Naming.isIdentifierText_iff_head (isName_modelName label).parts, head?_modelName, LeadsWithDigit]
  simp only [Option.some.injEq, exists_eq_left']
  cases hfind : label.toList.find? isAsciiAlnum with
  | none => exact iff_of_true (by decide) nofun
  | some c =>
    have hc : isAsciiAlnum c = true := List.find?_some hfind
    rw [Option.map_some, Option.getD_some, Naming.isIdentifierStart_lowerAscii_iff hc]
    simp only [Option.some.injEq, exists_eq_left']

/-- The name of a handler is an identifier. -/
theorem isIdentifierText_handlerName (text : String) :
    Naming.isIdentifierText (handlerName text).toList = true := by
  have hhead : (handlerName text).toList.head? = some 'o' := by
    rw [handlerName, String.toList_append, String.toList_append]
    rfl
  rw [Naming.isIdentifierText_iff_head (isName_handlerName text).parts]
  exact ⟨'o', hhead, by decide⟩

/-! ## Names in markup -/

namespace Markup

/-- Every attribute of an element stands in its text, behind a blank. -/
theorem write_infix_of_mem {a : Attribute} {e : Element} (h : a ∈ e.attributes) :
    ' ' :: a.write <:+: e.write := by
  obtain ⟨before, after, hattributes⟩ := List.append_of_mem h
  refine ⟨'<' :: (e.tag ++ writeAttributes before),
    writeAttributes after ++ ['>'] ++ e.content ++ e.closing, ?_⟩
  have hwritten : writeAttributes e.attributes =
      writeAttributes before ++ (' ' :: a.write ++ writeAttributes after) := by
    rw [hattributes, writeAttributes, List.flatMap_append, List.flatMap_cons]
    rfl
  simp only [Element.write, Element.opening, hwritten, List.cons_append, List.append_assoc]

end Markup

open Markup

/-- A name needs no escape. -/
theorem isBare_of_isName {name : List Char} (h : IsName name) : IsBare name := by
  intro c hc
  exact ne_of_isIdentifierPart (h.parts c hc)

namespace Sample

variable {inferred : Option InferredInputs}

/-- The attribute that binds a value both ways, as it is written. -/
def modelBinding (name : List Char) : List Char := " [(ngModel)]=\"".toList ++ name ++ ['"']

/-- The attribute that calls a handler on a click, as it is written. -/
def clickBinding (name : List Char) : List Char := " (click)=\"".toList ++ name ++ "()\"".toList

/-- An input component is bound to its value, whatever entry shows it. -/
theorem modelBinding_isInfix (label inputType : String) (entry : Option MappingEntry)
    (inferred : Option InferredInputs) : modelBinding (modelName label).toList <:+:
      renderMarkup (.input label inputType) entry inferred := by
  have hwritten : ' ' :: (Attribute.ofTexts "[(ngModel)]" (modelName label)).write =
      modelBinding (modelName label).toList := by
    have hbare := isBare_of_isName (isName_modelName label)
    rw [Attribute.ofTexts, Attribute.write, escaped_of_isBare hbare]
    rfl
  rw [← hwritten]
  apply write_infix_of_mem
  simp [DesignComponent.element, DesignComponent.attributes]

/-- A button calls its handler, whatever entry shows it. -/
theorem clickBinding_isInfix (variant text : String) (entry : Option MappingEntry)
    (inferred : Option InferredInputs) : clickBinding (handlerName text).toList <:+:
      renderMarkup (.button variant text) entry inferred := by
  have hcall : escaped (handlerName text ++ "()").toList = (handlerName text).toList ++ "()".toList := by
    have hbrackets : ("()".toList.all fun c => c != '&' && c != '"') = true := by decide
    rw [String.toList_append]
    apply escaped_of_isBare
    intro c hc
    rcases List.mem_append.1 hc with hc | hc
    · exact isBare_of_isName (isName_handlerName text) c hc
    · simpa using List.all_eq_true.1 hbrackets c hc
  have hwritten : ' ' :: (Attribute.ofTexts "(click)" (handlerName text ++ "()")).write =
      clickBinding (handlerName text).toList := by
    rw [Attribute.ofTexts, Attribute.write, hcall, List.append_assoc]
    rfl
  rw [← hwritten]
  apply write_infix_of_mem
  simp [DesignComponent.element, DesignComponent.attributes]

/-! ## Names in a class -/

/-- The members of a class are named by identifiers if and only if its values are. -/
theorem identifiers_classMembers_iff (h : NamedByIdentifiers inferred) (d : Design) :
    (∀ m ∈ classMembers d inferred, Naming.isIdentifierText m.name.toList = true) ↔
      ∀ label inputType, .input label inputType ∈ d.components → ¬LeadsWithDigit label := by
  have hnames : (∀ m ∈ classMembers d inferred, Naming.isIdentifierText m.name.toList = true) ↔
      ∀ name ∈ (classMembers d inferred).map (·.name),
        Naming.isIdentifierText name.toList = true := by
    rw [List.forall_mem_map]
  have hinputs : ∀ name ∈ (inputsOf inferred).map (·.name),
      Naming.isIdentifierText name.toList = true := List.forall_mem_map.2 h
  rw [hnames, names_classMembers, List.forall_mem_append, and_iff_right hinputs, forall_name_iff]
  constructor
  · rintro ⟨hmodels, -⟩ label inputType hc
    exact (isIdentifierText_modelName_iff label).1 (hmodels label inputType hc)
  · intro hlabels
    constructor
    · intro label inputType hc
      exact (isIdentifierText_modelName_iff label).2 (hlabels label inputType hc)
    · intro variant text _
      exact isIdentifierText_handlerName text

/-- **Names of members are identifiers unless a label leads with a digit.** The name of a handler is an
identifier for every text; the name of a value is one exactly when the first ASCII letter or digit of the
label, if there is any, is a letter. These names stand in the class of a design and, as they are, in the
bindings of its markup; and with inputs that were inferred from some node or with none, all members of
the class are named by identifiers exactly when no label of an input component leads with a digit. -/
theorem member_names_are_identifiers_iff (d : Design) (source : Option (Json × String))
    (entry : Option MappingEntry) :
    let inferred := source.map fun s => inferInputs s.1 s.2
    (∀ text, Naming.isIdentifierText (handlerName text).toList = true) ∧
    (∀ label, Naming.isIdentifierText (modelName label).toList = true ↔ ¬LeadsWithDigit label) ∧
    (∀ label inputType, .input label inputType ∈ d.components →
      StandsIn (modelLine (modelName label)) (members d (active inferred)) ∧
        modelBinding (modelName label).toList <:+:
          renderMarkup (.input label inputType) entry (active inferred)) ∧
    (∀ variant text, .button variant text ∈ d.components →
      (∃ first, StandsIn (handlerMethod (handlerName text) first) (members d (active inferred))) ∧
        clickBinding (handlerName text).toList <:+:
          renderMarkup (.button variant text) entry (active inferred)) ∧
    ((∀ m ∈ classMembers d inferred, Naming.isIdentifierText m.name.toList = true) ↔
      ∀ label inputType, .input label inputType ∈ d.components → ¬LeadsWithDigit label) := by
  intro inferred
  have hnamed : NamedByIdentifiers inferred := namedByIdentifiers_inferInputs source
  refine ⟨isIdentifierText_handlerName, isIdentifierText_modelName_iff, ?_, ?_,
    identifiers_classMembers_iff hnamed d⟩
  · intro label inputType hc
    have hname : modelName label ∈ modelNames d.components :=
      mem_modelNames.2 ⟨label, inputType, hc, rfl⟩
    have hmember := model_mem_classMembers hname inferred
    exact ⟨standsIn_members hmember, modelBinding_isInfix label inputType entry _⟩
  · intro variant text hc
    have hname : handlerName text ∈ (handlers d.components).map (·.1) :=
      mem_handlerNames.2 ⟨variant, text, hc, rfl⟩
    obtain ⟨⟨name, first⟩, hhandler, rfl⟩ := List.mem_map.1 hname
    have hmember := handler_mem_classMembers hhandler inferred
    exact ⟨⟨first, standsIn_members hmember⟩, clickBinding_isInfix variant text entry _⟩

/-- A screen with a label that leads with a digit. -/
def secondEmailDesign : Design where
  screenName := "Login"
  flow := .vertical
  components := [.input "2nd Email" "email"]
  tokens := {}

/-- **A digit can lead the name of a member.** The class declares a field by a name that is no
identifier, and the template binds it. -/
theorem digit_leads_member_name :
    Naming.isIdentifierText (modelName "2nd Email").toList = false ∧
      members secondEmailDesign none = "  2ndEmailValue = '';".toList ∧
      renderMarkup (.input "2nd Email" "email") none none = "<p-inputText".toList ++
        " type=\"email\" placeholder=\"2nd Email\" [(ngModel)]=\"2ndEmailValue\"".toList ++
        "></p-inputText>".toList := by
  decide

end Sample

end Wireframe
