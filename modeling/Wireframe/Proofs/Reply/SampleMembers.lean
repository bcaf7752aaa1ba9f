import Wireframe.Proofs.Reply.SampleIssues
import Wireframe.Proofs.Reply.SampleTemplate

/-!
# The members of a sample class

The class of a sample reply declares the inputs, then a value for every input component, then a handler
for every button. Each member stands there once per family, on lines of its own.

* `StandsIn` — a part of a text that has its lines for itself.
* `Sample.Member`, `Sample.classMembers` — the members of the class of a design.
* `Sample.standsIn_members` — every one of them stands in the class.
* `Sample.mem_modelNames`, `Sample.mem_handlerNames` — the names that components give the members.
-/

set_option autoImplicit false

namespace Wireframe

open Text

/-! ## Parts on lines of their own -/

section Standing

variable {part mid text sep : List Char}

/-- Whether a part of a text stands on lines of its own. -/
def StandsIn (part text : List Char) : Prop :=
  '\n' :: (part ++ ['\n']) <:+: '\n' :: (text ++ ['\n'])

theorem StandsIn.refl (text : List Char) : StandsIn text text := List.infix_rfl

theorem StandsIn.trans (hpart : StandsIn part mid) (hmid : StandsIn mid text) : StandsIn part text :=
  List.IsInfix.trans hpart hmid

theorem standsIn_append_left (hsep : ['\n'] <+: sep) (text rest : List Char) :
    StandsIn text (text ++ sep ++ rest) := by
  obtain ⟨tail, rfl⟩ := hsep
  exact ⟨[], tail ++ rest ++ ['\n'], by simp⟩

theorem standsIn_append_right (hsep : ['\n'] <:+ sep) (before text : List Char) :
    StandsIn text (before ++ sep ++ text) := by
  obtain ⟨lead, rfl⟩ := hsep
  exact ⟨'\n' :: (before ++ lead), [], by simp⟩

/-- Parts with line feeds at both ends of what is between them stand on lines of their own. -/
theorem standsIn_intercalate (hlead : ['\n'] <+: sep) (hlast : ['\n'] <:+ sep)
    {parts : List (List Char)} (h : part ∈ parts) : StandsIn part (List.intercalate sep parts) := by
  induction parts with
  | nil => cases h
  | cons first rest ih =>
    cases rest with
    | nil =>
      rw [List.mem_singleton.1 h, List.intercalate, List.intersperse_singleton, List.flatten_singleton]
      exact .refl _
    | cons next rest =>
      have hjoin : List.intercalate sep (first :: next :: rest) =
          first ++ sep ++ List.intercalate sep (next :: rest) := by
        simp only [List.intercalate, List.intersperse_cons_cons, List.flatten_cons, List.append_assoc]
      rw [hjoin]
      rcases List.mem_cons.1 h with rfl | h
      · exact standsIn_append_left hlead _ _
      · exact (ih h).trans (standsIn_append_right hlast _ _)

theorem standsIn_joinLines {parts : List (List Char)} (h : part ∈ parts) :
    StandsIn part (joinLines parts) :=
  standsIn_intercalate ⟨[], rfl⟩ ⟨[], rfl⟩ h

theorem standsIn_paragraphs {parts : List (List Char)} (h : part ∈ parts) :
    StandsIn part (Sample.paragraphs parts) :=
  standsIn_intercalate ⟨['\n'], rfl⟩ ⟨['\n'], rfl⟩ h

end Standing

namespace Sample

variable {d : Design} {inferred : Option InferredInputs} {components : List DesignComponent}
  {taken : List String} {name : String}

/-! ## The names that components give -/

/-- The values of the class are those that input components are bound to. -/
theorem mem_modelNames : name ∈ modelNames components ↔
    ∃ label inputType, .input label inputType ∈ components ∧ modelName label = name := by
  rw [modelNames, List.mem_eraseDups, List.mem_filterMap]
  constructor
  · rintro ⟨c, hc, hname⟩
    cases c with
    | input label inputType => exact ⟨label, inputType, hc, Option.some.inj hname⟩
    | _ => cases hname
  · rintro ⟨label, inputType, hc, rfl⟩
    exact ⟨_, hc, rfl⟩

/-- The handlers are those that buttons call, but for the names that are taken. -/
theorem mem_handlersAfter : name ∈ (handlersAfter taken components).map (·.1) ↔
    name ∉ taken ∧ ∃ variant text, .button variant text ∈ components ∧ handlerName text = name := by
  fun_induction handlersAfter taken components with
  | case1 taken => simp
  | case2 taken variant text rest handler htaken ih =>
    rw [ih]
    simp only [List.mem_cons, DesignComponent.button.injEq]
    have hmem : handlerName text ∈ taken := List.contains_iff_mem.1 htaken
    constructor
    · rintro ⟨hfree, v, t, ht, rfl⟩
      exact ⟨hfree, v, t, .inr ht, rfl⟩
    · rintro ⟨hfree, v, t, ⟨-, rfl⟩ | ht, rfl⟩
      · exact absurd hmem hfree
      · exact ⟨hfree, v, t, ht, rfl⟩
  | case3 taken variant text rest handler htaken ih =>
    have hfree : handlerName text ∉ taken := fun hmem => htaken (List.contains_iff_mem.2 hmem)
    rw [List.map_cons, List.mem_cons, ih]
    simp only [List.mem_cons, not_or, DesignComponent.button.injEq]
    constructor
    · rintro (rfl | ⟨⟨-, htaken⟩, v, t, ht, rfl⟩)
      · exact ⟨hfree, variant, text, .inl ⟨rfl, rfl⟩, rfl⟩
      · exact ⟨htaken, v, t, .inr ht, rfl⟩
    · rintro ⟨htaken, v, t, ⟨-, rfl⟩ | ht, rfl⟩
      · exact .inl rfl
      · by_cases hname : handlerName t = handlerName text
        · exact .inl hname
        · exact .inr ⟨⟨hname, htaken⟩, v, t, ht, rfl⟩
  | case4 taken c rest hother ih =>
    rw [ih]
    refine and_congr_right fun _ => exists_congr fun v => exists_congr fun t => and_congr_left fun _ => ?_
    rw [List.mem_cons]
    exact ⟨.inr, fun h => h.resolve_left fun hc => hother v t hc.symm⟩

/-- The handlers of the class are those that buttons call. -/
theorem mem_handlerNames : name ∈ (handlers components).map (·.1) ↔
    ∃ variant text, .button variant text ∈ components ∧ handlerName text = name := by
  rw [handlers, mem_handlersAfter, and_iff_right List.not_mem_nil]

/-! ## Members -/

/-- A member of the class: an input, the value of an input component, or the handler of the clicks on
buttons with the text of one of them. -/
inductive Member where
  | input (item : InferredInput)
  | model (name : String)
  | handler (name text : String)
  deriving DecidableEq, Repr

/-- The text that declares a member. -/
def Member.text : Member → List Char
  | input item => item.declaration memberIndent
  | model name => modelLine name
  | handler name text => handlerMethod name text

/-- The members of the class of a design, in order. -/
def classMembers (d : Design) (inferred : Option InferredInputs) : List Member :=
  (inputsOf inferred).map .input ++ (modelNames d.components).map .model ++
    (handlers d.components).map fun (name, text) => .handler name text

theorem model_mem_classMembers (h : name ∈ modelNames d.components) (inferred : Option InferredInputs) :
    Member.model name ∈ classMembers d inferred :=
  List.mem_append_left _ (List.mem_append_right _ (List.mem_map_of_mem h))

theorem handler_mem_classMembers {text : String} (h : (name, text) ∈ handlers d.components)
    (inferred : Option InferredInputs) : Member.handler name text ∈ classMembers d inferred :=
  List.mem_append_right _ (List.mem_map.2 ⟨(name, text), h, rfl⟩)

/-- The parts of the class body: declared inputs, values, handlers. -/
def bodyParts (d : Design) (inferred : Option InferredInputs) : List (List Char) :=
  (match inferred with
    | some i => [declarations memberIndent i.inputs]
    | none => []) ++
  partOf (modelNames d.components) (joinLines ((modelNames d.components).map modelLine)) ++
  partOf (handlers d.components)
    (paragraphs ((handlers d.components).map fun (handler, text) => handlerMethod handler text))

theorem members_eq (d : Design) (inferred : Option InferredInputs) :
    members d inferred = paragraphs (bodyParts d inferred) := rfl

theorem mem_partOf {α : Type} {items : List α} {item : α} (h : item ∈ items) (text : List Char) :
    text ∈ partOf items text := by
  have hempty : items.isEmpty = false := List.isEmpty_eq_false_iff.2 (List.ne_nil_of_mem h)
  rw [partOf, hempty]
  exact List.mem_singleton_self text

/-- Every member stands in the class, on lines of its own. -/
theorem standsIn_members {m : Member} (h : m ∈ classMembers d inferred) :
    StandsIn m.text (members d (active inferred)) := by
  rw [members_eq]
  rcases List.mem_append.1 h with h | h
  · rcases List.mem_append.1 h with h | h
    · obtain ⟨item, hitem, rfl⟩ := List.mem_map.1 h
      obtain ⟨i, hi, hmem⟩ := mem_inputsOf.1 hitem
      have hpart : declarations memberIndent i.inputs ∈ bodyParts d (active inferred) := by
        rw [hi]
        exact List.mem_append_left _ (List.mem_append_left _ (List.mem_singleton_self _))
      have hline : StandsIn (item.declaration memberIndent) (declarations memberIndent i.inputs) :=
        standsIn_joinLines (List.mem_map_of_mem hmem)
      exact hline.trans (standsIn_paragraphs hpart)
    · obtain ⟨name, hname, rfl⟩ := List.mem_map.1 h
      have hpart : joinLines ((modelNames d.components).map modelLine) ∈
          bodyParts d (active inferred) :=
        List.mem_append_left _ (List.mem_append_right _ (mem_partOf hname _))
      have hline : StandsIn (modelLine name) (joinLines ((modelNames d.components).map modelLine)) :=
        standsIn_joinLines (List.mem_map_of_mem hname)
      exact hline.trans (standsIn_paragraphs hpart)
  · obtain ⟨⟨name, text⟩, hname, rfl⟩ := List.mem_map.1 h
    have hpart : paragraphs ((handlers d.components).map fun (handler, text) =>
        handlerMethod handler text) ∈ bodyParts d (active inferred) :=
      List.mem_append_right _ (mem_partOf hname _)
    have hmethod : StandsIn (handlerMethod name text)
        (paragraphs ((handlers d.components).map fun (handler, text) => handlerMethod handler text)) :=
      standsIn_paragraphs (List.mem_map.2 ⟨(name, text), hname, rfl⟩)
    exact hmethod.trans (standsIn_paragraphs hpart)

/-- The class of a sample reply: its head, its members, its end. -/
theorem fileText_typescript (d : Design) (inferred : Option InferredInputs) :
    fileText d inferred .typescript =
      classHead d.screenName.toList (lower d.screenName.toList) (active inferred).isSome ++
        '\n' :: (members d (active inferred) ++ ['\n', '\x7d']) := by
  have hclass := classFile_eq d (lower d.screenName.toList) (active inferred)
  rw [joinLines_cons _ (List.cons_ne_nil _ _), joinLines_singleton] at hclass
  exact hclass

end Sample

end Wireframe
