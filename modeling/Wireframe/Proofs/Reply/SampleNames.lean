import Wireframe.Proofs.Json.Order
import Wireframe.Proofs.Reply.SampleMembers

/-!
# The names of the members of a sample class

The class of a sample reply holds its members and nothing else. The names within each of the three
families are distinct: inputs by their inference, values and handlers because each name is kept once. A
value never shares its name with a handler, but an input can share its name with either.

* `Sample.Member.name`, `Sample.Member.exists_text_eq` — the name that the text of a member declares.
* `Sample.writeMembers`, `Sample.members_eq_writeMembers` — the body of the class as its members.
* `Sample.nodup_modelNames`, `Sample.nodup_handlerNames`, `Sample.nodup_inputNames` — each family.
* `Sample.members_declared_once_iff` — when no name is declared twice.
-/

set_option autoImplicit false

namespace Wireframe.Sample

open Text

variable {d : Design} {inferred : Option InferredInputs}

/-! ## What a member declares -/

/-- The name that a member declares. -/
def Member.name : Member → String
  | input item => item.name
  | model name => name
  | handler name _ => name

/-- What stands in front of the name of a member. -/
def Member.lead : Member → List Char
  | input _ => memberIndent ++ "@Input() ".toList
  | model _ => memberIndent
  | handler _ _ => memberIndent

/-- The text of a member begins with the name that it declares, and the name ends there. -/
theorem Member.exists_text_eq (m : Member) : ∃ c rest,
    m.text = m.lead ++ m.name.toList ++ c :: rest ∧ Naming.isIdentifierPart c = false := by
  cases m with
  | input item =>
    refine ⟨':', ' ' :: (item.type.text.toList ++ " = ".toList ++ defaultSource item.default ++ [';']),
      ?_, by decide⟩
    simp only [text, lead, name, InferredInput.declaration, List.append_assoc]
    rfl
  | model name =>
    refine ⟨' ', "= '';".toList, ?_, by decide⟩
    simp only [text, lead, Member.name, modelLine, List.append_assoc]
    rfl
  | handler name text =>
    refine ⟨'(', ") \x7b\n".toList ++ joinLines [
      "    console.log('".toList ++ escapeQuotes text.toList ++ " clicked');".toList, "  \x7d".toList],
      ?_, by decide⟩
    simp only [Member.text, lead, Member.name, handlerMethod]
    rw [joinLines_cons _ (List.cons_ne_nil _ _)]
    simp only [List.append_assoc]
    rfl

/-! ## The body of the class -/

/-- What stands between two members: inputs follow each other line by line, and so do values. -/
def Member.gap : Member → Member → List Char
  | input _, input _ => ['\n']
  | model _, model _ => ['\n']
  | _, _ => ['\n', '\n']

/-- Members one after another. -/
def writeMembers : List Member → List Char
  | [] => []
  | [m] => m.text
  | m :: n :: rest => m.text ++ m.gap n ++ writeMembers (n :: rest)

theorem writeMembers_map {α : Type} {f : α → Member} {sep : List Char}
    (hgap : ∀ x y, (f x).gap (f y) = sep) (items : List α) :
    writeMembers (items.map f) = List.intercalate sep (items.map fun x => (f x).text) := by
  induction items with
  | nil => rfl
  | cons x rest ih =>
    cases rest with
    | nil => simp only [List.map_cons, List.map_nil, writeMembers, List.intercalate_singleton]
    | cons y rest =>
      simp only [List.map_cons] at ih ⊢
      rw [writeMembers, ih, hgap, List.intercalate_cons_cons]

theorem writeMembers_append {a b : List Member} (ha : a ≠ []) (hb : b ≠ [])
    (hgap : ∀ m ∈ a, ∀ n ∈ b, m.gap n = ['\n', '\n']) :
    writeMembers (a ++ b) = writeMembers a ++ ['\n', '\n'] ++ writeMembers b := by
  induction a with
  | nil => exact absurd rfl ha
  | cons m rest ih =>
    cases rest with
    | nil =>
      cases b with
      | nil => exact absurd rfl hb
      | cons n after =>
        have hfirst : m.gap n = ['\n', '\n'] := hgap m (List.mem_singleton_self m) n List.mem_cons_self
        rw [List.singleton_append, writeMembers, writeMembers, hfirst]
    | cons m' rest =>
      have hrest := ih (List.cons_ne_nil _ _) fun m hm => hgap m (List.mem_cons_of_mem _ hm)
      simp only [List.cons_append] at hrest ⊢
      rw [writeMembers, writeMembers, hrest]
      simp only [List.append_assoc]

theorem partOf_eq_nil_iff {α : Type} {items : List α} {text : List Char} :
    partOf items text = [] ↔ items = [] := by
  cases items with
  | nil => exact iff_of_true rfl rfl
  | cons item rest => exact iff_of_false (List.cons_ne_nil _ _) (List.cons_ne_nil _ _)

/-- Groups of members that are set apart by empty lines are paragraphs; groups without members are
left out. -/
theorem writeMembers_flatten {groups : List (List Member)}
    (hgap : groups.Pairwise fun a b => ∀ m ∈ a, ∀ n ∈ b, m.gap n = ['\n', '\n']) :
    writeMembers groups.flatten = paragraphs (groups.flatMap fun g => partOf g (writeMembers g)) := by
  induction groups with
  | nil => rfl
  | cons group rest ih =>
    obtain ⟨hfirst, hlater⟩ := List.pairwise_cons.1 hgap
    have hrest := ih hlater
    rw [List.flatten_cons, List.flatMap_cons]
    cases group with
    | nil => exact hrest
    | cons m ms =>
      have hpart : partOf (m :: ms) (writeMembers (m :: ms)) = [writeMembers (m :: ms)] := rfl
      rw [hpart, List.singleton_append]
      by_cases hnone : rest.flatten = []
      · have hparts : (rest.flatMap fun g => partOf g (writeMembers g)) = [] :=
          List.flatMap_eq_nil_iff.2 fun g hg => partOf_eq_nil_iff.2 (List.flatten_eq_nil_iff.1 hnone g hg)
        rw [hparts, hnone, List.append_nil, paragraphs, List.intercalate_singleton]
      · have hparts : (rest.flatMap fun g => partOf g (writeMembers g)) ≠ [] := fun hparts =>
          hnone (List.flatten_eq_nil_iff.2 fun g hg =>
            partOf_eq_nil_iff.1 (List.flatMap_eq_nil_iff.1 hparts g hg))
        obtain ⟨part, parts, hcons⟩ := List.exists_cons_of_ne_nil hparts
        rw [writeMembers_append (List.cons_ne_nil _ _) hnone, hrest, hcons, paragraphs, paragraphs,
          List.intercalate_cons_cons]
        intro m' hm n hn
        obtain ⟨g, hg, hmem⟩ := List.mem_flatten.1 hn
        exact hfirst g hg m' hm n hmem

/-- The members of a class in their families. -/
def families (d : Design) (inferred : Option InferredInputs) : List (List Member) :=
  [(inputsOf inferred).map Member.input, (modelNames d.components).map Member.model,
    (handlers d.components).map fun handler => .handler handler.1 handler.2]

theorem flatten_families (d : Design) (inferred : Option InferredInputs) :
    (families d inferred).flatten = classMembers d inferred := by
  simp only [families, classMembers, List.flatten_cons, List.flatten_nil, List.append_nil,
    List.append_assoc]

/-- Members of different families are paragraphs of their own. -/
theorem pairwise_families (d : Design) (inferred : Option InferredInputs) :
    (families d inferred).Pairwise fun a b => ∀ m ∈ a, ∀ n ∈ b, m.gap n = ['\n', '\n'] := by
  simp only [families, List.pairwise_cons, List.mem_cons, List.not_mem_nil, or_false, forall_eq_or_imp,
    forall_eq, IsEmpty.forall_iff, implies_true, List.Pairwise.nil, and_true, List.forall_mem_map]
  exact ⟨⟨fun _ _ _ _ => rfl, fun _ _ _ _ => rfl⟩, fun _ _ _ _ => rfl⟩

theorem partOf_map {α β : Type} (f : α → β) (items : List α) (text : List Char) :
    partOf (items.map f) text = partOf items text := by
  rw [partOf, partOf, List.isEmpty_map]

/-- Inputs that a sample reply takes note of are there, so they are a part like the others. -/
theorem bodyParts_active (d : Design) (inferred : Option InferredInputs) :
    bodyParts d (active inferred) =
      partOf (inputsOf inferred) (declarations memberIndent (inputsOf inferred)) ++
      partOf (modelNames d.components) (joinLines ((modelNames d.components).map modelLine)) ++
      partOf (handlers d.components)
        (paragraphs ((handlers d.components).map fun (name, text) => handlerMethod name text)) := by
  rw [inputsOf]
  cases hactive : active inferred with
  | none => rfl
  | some i =>
    obtain ⟨-, hsome⟩ := Option.filter_eq_some_iff.1 hactive
    have hempty : i.inputs.isEmpty = false := by simpa [InferredInputs.isEmpty] using hsome
    have hpart : partOf i.inputs (declarations memberIndent i.inputs) =
        [declarations memberIndent i.inputs] := by
      rw [partOf, hempty]
      rfl
    simp only [Option.map_some, Option.getD_some]
    rw [hpart]
    rfl

/-- The body of the class holds its members and nothing else. -/
theorem members_eq_writeMembers (d : Design) (inferred : Option InferredInputs) :
    members d (active inferred) = writeMembers (classMembers d inferred) := by
  have hinputs : writeMembers ((inputsOf inferred).map .input) =
      declarations memberIndent (inputsOf inferred) := writeMembers_map (f := .input) (fun _ _ => rfl) _
  have hmodels : writeMembers ((modelNames d.components).map .model) =
      joinLines ((modelNames d.components).map modelLine) :=
    writeMembers_map (f := .model) (fun _ _ => rfl) _
  have hhandlers : writeMembers ((handlers d.components).map fun (name, text) => .handler name text) =
      paragraphs ((handlers d.components).map fun (name, text) => handlerMethod name text) :=
    writeMembers_map (f := fun (name, text) => .handler name text) (fun _ _ => rfl) _
  rw [← flatten_families, writeMembers_flatten (pairwise_families d inferred), members_eq,
    bodyParts_active]
  simp only [families, List.flatMap_cons, List.flatMap_nil, List.append_nil, partOf_map,
    List.append_assoc, hinputs, hmodels, hhandlers]

/-! ## Names within a family -/

/-- Inputs that share a label share their value. -/
theorem nodup_modelNames (components : List DesignComponent) : (modelNames components).Nodup :=
  nodup_eraseDups _

theorem nodup_handlersAfter (taken : List String) (components : List DesignComponent) :
    ((handlersAfter taken components).map (·.1)).Nodup := by
  fun_induction handlersAfter taken components with
  | case1 taken => exact List.nodup_nil
  | case2 taken variant text rest handler htaken ih => exact ih
  | case3 taken variant text rest handler htaken ih =>
    refine List.nodup_cons.2 ⟨fun hmem => ?_, ih⟩
    exact (mem_handlersAfter.1 hmem).1 List.mem_cons_self
  | case4 taken c rest hother ih => exact ih

/-- Buttons that share a text share their handler. -/
theorem nodup_handlerNames (components : List DesignComponent) :
    ((handlers components).map (·.1)).Nodup := nodup_handlersAfter [] components

/-- Of the properties that yield one name, the first gives the input. -/
theorem nodup_inputNames (source : Option (Json × String)) :
    ((inputsOf (source.map fun s => inferInputs s.1 s.2)).map (·.name)).Nodup := by
  rw [inputsOf]
  cases hactive : active (source.map fun s => inferInputs s.1 s.2) with
  | none => exact List.nodup_nil
  | some i =>
    obtain ⟨hinferred, -⟩ := Option.filter_eq_some_iff.1 hactive
    obtain ⟨s, -, rfl⟩ := Option.map_eq_some_iff.1 hinferred
    exact (isWellFormed_inferInputs s.1 s.2).distinct

/-! ## Names of two families -/

/-- The names of values and of handlers end differently. -/
theorem modelName_ne_handlerName (label text : String) : modelName label ≠ handlerName text := by
  intro h
  have hmodel : (modelName label).toList.getLast? = some 'e' := by
    rw [modelName, String.toList_append, List.getLast?_append]
    rfl
  have hhandler : (handlerName text).toList.getLast? = some 'k' := by
    rw [handlerName, String.toList_append, List.getLast?_append]
    rfl
  rw [h, hhandler] at hmodel
  exact absurd hmodel (by decide)

theorem names_classMembers (d : Design) (inferred : Option InferredInputs) :
    (classMembers d inferred).map (·.name) = (inputsOf inferred).map (·.name) ++
      (modelNames d.components ++ (handlers d.components).map (·.1)) := by
  simp only [classMembers, List.map_append, List.map_map, List.append_assoc]
  have hmodels : (modelNames d.components).map ((·.name) ∘ Member.model) = modelNames d.components :=
    List.map_id _
  rw [hmodels]
  rfl

/-- A name of a value or of a handler comes from a component. -/
theorem forall_name_iff {P : String → Prop} (components : List DesignComponent) :
    (∀ name ∈ modelNames components ++ (handlers components).map (·.1), P name) ↔
      (∀ label inputType, .input label inputType ∈ components → P (modelName label)) ∧
        ∀ variant text, .button variant text ∈ components → P (handlerName text) := by
  rw [List.forall_mem_append]
  refine and_congr ⟨fun h label inputType hc => ?_, fun h name hname => ?_⟩
    ⟨fun h variant text hc => ?_, fun h name hname => ?_⟩
  · exact h _ (mem_modelNames.2 ⟨label, inputType, hc, rfl⟩)
  · obtain ⟨label, inputType, hc, rfl⟩ := mem_modelNames.1 hname
    exact h label inputType hc
  · exact h _ (mem_handlerNames.2 ⟨variant, text, hc, rfl⟩)
  · obtain ⟨variant, text, hc, rfl⟩ := mem_handlerNames.1 hname
    exact h variant text hc

/-- **A class declares no member twice exactly when no input is named like a value or a handler.** For a
design, and for inputs that were inferred from some node or for none: the class of the sample reply is
its head and its members, each of which declares its name; the names of the inputs are distinct, those of
the values are, those of the handlers are; and the names of all members are distinct if and only if no
input has the name of the value of an input component or of the handler of a button. -/
theorem members_declared_once_iff (d : Design) (source : Option (Json × String)) :
    let inferred := source.map fun s => inferInputs s.1 s.2
    sampleReply d inferred = replyOf (fileText d inferred .typescript) (fileText d inferred .html)
        (fileText d inferred .scss) ∧
      fileText d inferred .typescript =
        classHead d.screenName.toList (lower d.screenName.toList) (active inferred).isSome ++
          '\n' :: (writeMembers (classMembers d inferred) ++ ['\n', '\x7d']) ∧
      (∀ m ∈ classMembers d inferred, ∃ c rest,
        m.text = m.lead ++ m.name.toList ++ c :: rest ∧ Naming.isIdentifierPart c = false) ∧
      ((inputsOf inferred).map (·.name)).Nodup ∧
      (modelNames d.components).Nodup ∧
      ((handlers d.components).map (·.1)).Nodup ∧
      (((classMembers d inferred).map (·.name)).Nodup ↔ ∀ item ∈ inputsOf inferred,
        (∀ label inputType, .input label inputType ∈ d.components → item.name ≠ modelName label) ∧
          ∀ variant text, .button variant text ∈ d.components → item.name ≠ handlerName text) := by
  intro inferred
  have hinputs : ((inputsOf inferred).map (·.name)).Nodup := nodup_inputNames source
  have hmodels := nodup_modelNames d.components
  have hhandlers := nodup_handlerNames d.components
  have hapart : ∀ name ∈ modelNames d.components, ∀ other ∈ (handlers d.components).map (·.1),
      name ≠ other := by
    intro name hname other hother
    obtain ⟨label, -, -, rfl⟩ := mem_modelNames.1 hname
    obtain ⟨-, text, -, rfl⟩ := mem_handlerNames.1 hother
    exact modelName_ne_handlerName label text
  have hothers : (modelNames d.components ++ (handlers d.components).map (·.1)).Nodup :=
    List.nodup_append.2 ⟨hmodels, hhandlers, hapart⟩
  refine ⟨rfl, ?_, fun m _ => m.exists_text_eq, hinputs, hmodels, hhandlers, ?_⟩
  · rw [fileText_typescript, members_eq_writeMembers]
  · rw [names_classMembers, List.nodup_append, and_iff_right hinputs, and_iff_right hothers,
      List.forall_mem_map]
    exact forall₂_congr fun item _ => forall_name_iff d.components

/-- A screen that asks for an e-mail address. -/
def emailDesign : Design where
  screenName := "Login"
  flow := .vertical
  components := [.input "Email" "text", .button "primary" "Save"]
  tokens := {}

/-- A node with a property that is named like the value of an input component. -/
def emailNode : Json :=
  .obj [("componentProperties", .obj [
    ("Email Value", .obj [("type", .str "TEXT"), ("value", .str "a@b.c")])])]

/-- The name of an inferred input is not compared with the names that components give: the class
declares `emailValue` as an input and once more as a value. -/
theorem input_declared_again :
    let inferred := some (inferInputs emailNode "Login")
    ¬((classMembers emailDesign inferred).map (·.name)).Nodup ∧
      members emailDesign (active inferred) = joinLines [
        "  @Input() emailValue: string = 'a@b.c';".toList,
        [],
        "  emailValue = '';".toList,
        [],
        "  onSaveClick() \x7b".toList,
        "    console.log('Save clicked');".toList,
        "  \x7d".toList] := by
  decide

end Wireframe.Sample
