import Mathlib.Data.List.Nodup
import Wireframe.Inputs.Check
import Wireframe.Inputs.Inference
import Wireframe.Proofs.Naming
import Wireframe.Proofs.Text.Search

/-!
# What is inferred from a node

Properties are judged one after another, and the names that are taken grow as they are. A property
that would yield an input by itself yields it exactly when no property in front of it yields the same
name.

* `yield?` — the input that a property yields by itself, with its law `yield?_eq_some_iff`.
* `IsOutcome` — what a property comes to, by the properties in front of it.
* `isOutcome_ofProperties` — what a list of properties comes to.
* `accountsFor_inferInputs` — every property of a node is accounted for once, in order.
* `isWellFormed_inferInputs`, `InferredInputs.IsWellFormed.errors_eq_nil` — nothing is wrong with
  inferred inputs.
-/

set_option autoImplicit false

namespace Wireframe

open Text

variable {property root : String} {definition : Json} {p : String × Json} {taken : List String}
  {i : InferredInput} {inferred : InferredInputs}

/-! ## One property -/

theorem SourceType.lookup_eq_some_iff {s : String} {source : SourceType} :
    SourceType.options.lookup s = some source ↔ s = source.name := by
  unfold SourceType.options
  simp only [List.lookup_cons, List.lookup_nil]
  split
  · cases source <;> simp_all [SourceType.name]
  · split
    · cases source <;> simp_all [SourceType.name]
    · split
      · cases source <;> simp_all [SourceType.name]
      · cases source <;> simp_all [SourceType.name]

/-- The input that a property of some type and value yields. -/
def inferredFrom (property : String) (source : SourceType) (value : Json) : InferredInput where
  name := inputName property
  type := source.inputType
  default := some (inputDefault source value)
  sourceProperty := some property
  sourceType := some source

/-- The input that a property yields by itself, when no name is taken. -/
def yield? (p : String × Json) : Option InferredInput := (PropertyOutcome.ofProperty [] p.1 p.2).input?

namespace PropertyOutcome

theorem input?_input (i : InferredInput) : (input i).input? = some i := rfl

theorem input?_warning (message : String) : (warning message).input? = none := rfl

theorem warning?_input (i : InferredInput) : (input i).warning? = none := rfl

theorem warning?_warning (message : String) : (warning message).warning? = some message := rfl

/-- The warning about a property whose name is taken. -/
def duplicate (property : String) : PropertyOutcome :=
  warning s!"Duplicate input '{inputName property}' from property '{property}' ignored"

/-- Only a taken name keeps a property of a supported type and with a name from becoming an input. -/
theorem ofProperty_of_supported {fields : Fields} {source : SourceType}
    (htype : Fields.get fields "type" = .str source.name)
    (hid : Naming.isIdentifier (inputName property) = true) (taken : List String) :
    ofProperty taken property (.obj fields) =
      if inputName property ∈ taken then duplicate property
      else input (inferredFrom property source (Fields.get fields "value")) := by
  have hsource : (Fields.get fields "type").text?.bind (fun s => SourceType.options.lookup s) =
      some source := by
    rw [htype]
    exact SourceType.lookup_eq_some_iff.2 rfl
  simp only [ofProperty, hsource, hid, Bool.not_true, Bool.false_eq_true, if_false,
    List.contains_iff_mem, duplicate, inferredFrom]

/-- A property has a supported type and a name, or it becomes a warning, whatever is taken. -/
theorem supported_or_warning (property : String) (definition : Json) :
    (∃ (fields : Fields) (source : SourceType), definition = .obj fields ∧
        Fields.get fields "type" = .str source.name ∧
        Naming.isIdentifier (inputName property) = true) ∨
      ∃ message, property.toList <:+: message.toList ∧
        ∀ taken, ofProperty taken property definition = warning message := by
  cases definition with
  | obj fields =>
    cases hsource : (Fields.get fields "type").text?.bind fun s => SourceType.options.lookup s with
    | none =>
      have hmention (shown : String) : property.toList <:+:
          s!"Property '{property}' of type {shown} is not supported".toList :=
        ⟨"Property '".toList, s!"' of type {shown} is not supported".toList, by simp [toString]⟩
      refine .inr ⟨_, hmention (Fields.get fields "type").display, fun taken => ?_⟩
      simp only [ofProperty, hsource]
    | some source =>
      obtain ⟨s, hs, hlookup⟩ := Option.bind_eq_some_iff.1 hsource
      cases hid : Naming.isIdentifier (inputName property) with
      | false =>
        have hmention : property.toList <:+:
            s!"Property '{property}' does not yield a valid identifier".toList :=
          ⟨"Property '".toList, "' does not yield a valid identifier".toList, by simp [toString]⟩
        refine .inr ⟨_, hmention, fun taken => ?_⟩
        simp only [ofProperty, hsource, hid, Bool.not_false, if_true]
      | true =>
        have htype : Fields.get fields "type" = .str source.name := by
          cases hvalue : Fields.get fields "type" <;> rw [hvalue] at hs <;> cases hs
          rw [SourceType.lookup_eq_some_iff.1 hlookup]
        exact .inl ⟨fields, source, rfl, htype, rfl⟩
  | _ =>
    have hmention : property.toList <:+: s!"Property '{property}' has no definition".toList :=
      ⟨"Property '".toList, "' has no definition".toList, by simp [toString]⟩
    exact .inr ⟨_, hmention, fun _ => rfl⟩

end PropertyOutcome

open PropertyOutcome

/-- What a property yields by itself: an input for a definition of a supported type, under a name that
is an identifier. -/
theorem yield?_eq_some_iff : yield? p = some i ↔
    ∃ (fields : Fields) (source : SourceType), p.2 = .obj fields ∧
      Fields.get fields "type" = .str source.name ∧ Naming.isIdentifier (inputName p.1) = true ∧
      i = inferredFrom p.1 source (Fields.get fields "value") := by
  obtain ⟨property, definition⟩ := p
  constructor
  · intro h
    obtain ⟨fields, source, rfl, htype, hid⟩ | ⟨message, -, houtcome⟩ :=
      supported_or_warning property definition
    · rw [yield?, ofProperty_of_supported htype hid, if_neg List.not_mem_nil] at h
      exact ⟨fields, source, rfl, htype, hid, (Option.some.inj h).symm⟩
    · rw [yield?, houtcome] at h
      cases h
  · rintro ⟨fields, source, hdefinition, htype, hid, rfl⟩
    obtain rfl : definition = .obj fields := hdefinition
    rw [yield?, ofProperty_of_supported htype hid, if_neg List.not_mem_nil]
    rfl

/-- The names that properties yield, each by itself. -/
def Yields (properties : Fields) (name : String) : Prop :=
  ∃ p ∈ properties, ∃ i, yield? p = some i ∧ i.name = name

/-- What a property comes to, by the properties in front of it: its input, if it is the first to yield
the name, else a warning that mentions it. -/
def IsOutcome (earlier : Fields) (p : String × Json) : PropertyOutcome → Prop
  | .input i => yield? p = some i ∧ ¬Yields earlier i.name
  | .warning message => p.1.toList <:+: message.toList ∧ ∀ i, yield? p = some i → Yields earlier i.name

/-- A property is judged by the names that the properties in front of it have yielded. -/
theorem isOutcome_ofProperty {earlier : Fields} (htaken : ∀ name, name ∈ taken ↔ Yields earlier name)
    (p : String × Json) : IsOutcome earlier p (ofProperty taken p.1 p.2) := by
  obtain ⟨property, definition⟩ := p
  obtain ⟨fields, source, rfl, htype, hid⟩ | ⟨message, hmention, houtcome⟩ :=
    supported_or_warning property definition
  · have hyield : yield? (property, .obj fields) =
        some (inferredFrom property source (Fields.get fields "value")) :=
      yield?_eq_some_iff.2 ⟨fields, source, rfl, htype, hid, rfl⟩
    rw [ofProperty_of_supported htype hid]
    by_cases hname : inputName property ∈ taken
    · rw [if_pos hname]
      refine ⟨⟨s!"Duplicate input '{inputName property}' from property '".toList,
        "' ignored".toList, by simp [toString]⟩, fun i hi => ?_⟩
      obtain rfl := Option.some.inj (hyield.symm.trans hi)
      exact (htaken _).1 hname
    · rw [if_neg hname]
      exact ⟨hyield, fun hyields => hname ((htaken _).2 hyields)⟩
  · rw [houtcome]
    refine ⟨hmention, fun i hi => ?_⟩
    rw [yield?, houtcome] at hi
    cases hi

/-- After a property has been judged, the names taken are those that it and the ones in front of it
yield. -/
theorem mem_takenName_append {earlier : Fields} (htaken : ∀ name, name ∈ taken ↔ Yields earlier name)
    (p : String × Json) (name : String) :
    name ∈ (ofProperty taken p.1 p.2).takenName ++ taken ↔ Yields (earlier ++ [p]) name := by
  have hyields : Yields (earlier ++ [p]) name ↔
      Yields earlier name ∨ ∃ i, yield? p = some i ∧ i.name = name := by
    simp only [Yields, List.mem_append, List.mem_singleton, or_and_right, exists_or, exists_eq_left]
  have houtcome := isOutcome_ofProperty htaken p
  rw [List.mem_append, htaken, hyields]
  cases ho : ofProperty taken p.1 p.2 with
  | input i =>
    rw [ho] at houtcome
    have hname : name ∈ takenName (.input i) ↔ name = i.name := List.mem_singleton
    rw [hname, houtcome.1, or_comm]
    refine or_congr_right ⟨?_, ?_⟩
    · rintro rfl
      exact ⟨i, rfl, rfl⟩
    · rintro ⟨j, hj, rfl⟩
      cases hj
      rfl
  | warning message =>
    rw [ho] at houtcome
    constructor
    · rintro (hname | hname)
      · cases hname
      · exact .inl hname
    · rintro (hname | ⟨i, hi, rfl⟩)
      · exact .inr hname
      · exact .inr (houtcome.2 i hi)

/-! ## All properties -/

/-- Every property in a list comes to its outcome, by those in front of it. -/
theorem isOutcome_ofProperties {earlier : Fields}
    (htaken : ∀ name, name ∈ taken ↔ Yields earlier name) (properties : Fields) {n : Nat}
    {o : PropertyOutcome} (hp : properties[n]? = some p) (ho : (ofProperties taken properties)[n]? = some o) :
    IsOutcome (earlier ++ properties.take n) p o := by
  induction properties generalizing taken earlier n with
  | nil => cases hp
  | cons q rest ih =>
    obtain ⟨property, definition⟩ := q
    rw [ofProperties] at ho
    cases n with
    | zero =>
      cases hp
      cases ho
      rw [List.take_zero, List.append_nil]
      exact isOutcome_ofProperty htaken _
    | succ n =>
      have hrest := ih (mem_takenName_append htaken (property, definition)) hp ho
      rwa [List.append_assoc, List.singleton_append] at hrest

theorem not_mem_of_ofProperty (h : ofProperty taken property definition = .input i) :
    i.name ∉ taken := by
  obtain ⟨fields, source, rfl, htype, hid⟩ | ⟨message, -, houtcome⟩ :=
    supported_or_warning property definition
  · rw [ofProperty_of_supported htype hid] at h
    split at h
    · cases h
    · rename_i hfree
      obtain rfl := PropertyOutcome.input.inj h
      exact hfree
  · rw [houtcome] at h
    cases h

/-- The inputs among the outcomes of properties have distinct names, none of which was taken. -/
theorem names_ofProperties (taken : List String) (properties : Fields) :
    (((ofProperties taken properties).filterMap (·.input?)).map (·.name)).Nodup ∧
      ∀ i ∈ (ofProperties taken properties).filterMap (·.input?), i.name ∉ taken := by
  induction properties generalizing taken with
  | nil => exact ⟨List.nodup_nil, nofun⟩
  | cons p rest ih =>
    obtain ⟨property, definition⟩ := p
    obtain ⟨hrest, hfree⟩ := ih ((ofProperty taken property definition).takenName ++ taken)
    cases ho : ofProperty taken property definition with
    | warning message =>
      rw [ho] at hrest hfree
      simp only [ofProperties, ho, List.filterMap_cons, input?_warning]
      exact ⟨hrest, hfree⟩
    | input i =>
      have htaken : takenName (.input i) ++ taken = i.name :: taken := rfl
      rw [ho, htaken] at hrest hfree
      simp only [ofProperties, ho, htaken, List.filterMap_cons, input?_input, List.map_cons,
        List.nodup_cons, List.forall_mem_cons]
      refine ⟨⟨fun hmem => ?_, hrest⟩, not_mem_of_ofProperty ho, fun j hj hmem => ?_⟩
      · obtain ⟨j, hj, hname⟩ := List.mem_map.1 hmem
        exact hfree j hj (hname ▸ List.mem_cons_self)
      · exact hfree j hj (List.mem_cons_of_mem _ hmem)

theorem length_input_add_warning (outcomes : List PropertyOutcome) :
    (outcomes.filterMap (·.input?)).length + (outcomes.filterMap (·.warning?)).length =
      outcomes.length := by
  induction outcomes with
  | nil => rfl
  | cons o rest ih =>
    cases o with
    | input i =>
      simp only [List.filterMap_cons, input?_input, warning?_input, List.length_cons]
      omega
    | warning message =>
      simp only [List.filterMap_cons, input?_warning, warning?_warning, List.length_cons]
      omega

/-! ## The inputs of a node -/

/-- Inputs and warnings account for properties: in order, each property comes to one of them. -/
def InferredInputs.AccountsFor (inferred : InferredInputs) (properties : Fields) : Prop :=
  ∃ outcomes : List PropertyOutcome, outcomes.length = properties.length ∧
    (∀ (n : Nat) (p : String × Json) (o : PropertyOutcome), properties[n]? = some p →
      outcomes[n]? = some o → IsOutcome (properties.take n) p o) ∧
    inferred.inputs = outcomes.filterMap (·.input?) ∧
    inferred.warnings = outcomes.filterMap (·.warning?)

theorem InferredInputs.AccountsFor.length_eq {properties : Fields}
    (h : inferred.AccountsFor properties) :
    inferred.inputs.length + inferred.warnings.length = properties.length := by
  obtain ⟨outcomes, hlength, -, hinputs, hwarnings⟩ := h
  rw [hinputs, hwarnings, length_input_add_warning, hlength]

theorem accountsFor_ofOutcomes (properties : Fields) (screenName : String) :
    (InferredInputs.ofOutcomes (ofProperties [] properties) screenName).AccountsFor properties := by
  have htaken (name : String) : name ∈ [] ↔ Yields [] name :=
    iff_of_false List.not_mem_nil fun ⟨_, hp, _⟩ => List.not_mem_nil hp
  refine ⟨_, length_ofProperties [] properties, fun n p o hp ho => ?_, rfl, rfl⟩
  exact isOutcome_ofProperties htaken properties hp ho

/-- What is inferred from a node comes from its properties, when it has some; else there is one
warning and nothing more. -/
theorem inferInputs_cases (node : Json) (screenName : String) :
    (∃ fields properties, node = .obj fields ∧
        Fields.get fields "componentProperties" = .obj properties ∧ properties ≠ [] ∧
        inferInputs node screenName = .ofOutcomes (ofProperties [] properties) screenName) ∨
      ∃ warning, inferInputs node screenName = .nothing warning := by
  unfold inferInputs
  split
  · rename_i fields
    split
    · rename_i first rest hproperties
      exact .inl ⟨fields, first :: rest, rfl, hproperties, List.cons_ne_nil _ _, rfl⟩
    · exact .inr ⟨_, rfl⟩
  · exact .inr ⟨_, rfl⟩

/-- Every property of a node is accounted for. -/
theorem accountsFor_inferInputs {node : Json} {fields properties : Fields} (hnode : node = .obj fields)
    (hproperties : Fields.get fields "componentProperties" = .obj properties) (hne : properties ≠ [])
    (screenName : String) : (inferInputs node screenName).AccountsFor properties := by
  obtain ⟨first, rest, rfl⟩ := List.exists_cons_of_ne_nil hne
  have hinferred : inferInputs node screenName =
      .ofOutcomes (ofProperties [] (first :: rest)) screenName := by
    subst hnode
    simp only [inferInputs, hproperties]
  rw [hinferred]
  exact accountsFor_ofOutcomes _ _

/-- Every inferred input is one that some property yields by itself. -/
theorem exists_yield?_of_mem_inputs {node : Json} {screenName : String}
    (h : i ∈ (inferInputs node screenName).inputs) : ∃ p, yield? p = some i := by
  obtain ⟨fields, properties, -, -, -, hinferred⟩ | ⟨warning, hinferred⟩ :=
    inferInputs_cases node screenName
  · obtain ⟨outcomes, hlength, houtcomes, hinputs, -⟩ := accountsFor_ofOutcomes properties screenName
    rw [hinferred, hinputs] at h
    obtain ⟨o, ho, hi⟩ := List.mem_filterMap.1 h
    obtain ⟨n, hn⟩ := List.mem_iff_getElem?.1 ho
    obtain ⟨hlt, -⟩ := List.getElem?_eq_some_iff.1 hn
    have hp := List.getElem?_eq_getElem (hlength ▸ hlt)
    have houtcome := houtcomes n _ o hp hn
    cases o with
    | input j =>
      cases hi
      exact ⟨_, houtcome.1⟩
    | warning message => cases hi
  · rw [hinferred] at h
    cases h

/-- An inferred input has the type that its source gives it. -/
theorem exists_source_of_mem_inputs {node : Json} {screenName : String}
    (h : i ∈ (inferInputs node screenName).inputs) :
    ∃ source, i.sourceType = some source ∧ i.type = source.inputType := by
  obtain ⟨p, hp⟩ := exists_yield?_of_mem_inputs h
  obtain ⟨fields, source, -, -, -, rfl⟩ := yield?_eq_some_iff.1 hp
  exact ⟨source, rfl, rfl⟩

/-- The bindings are those of the inputs, in order. -/
theorem bindings_inferInputs (node : Json) (screenName : String) :
    (inferInputs node screenName).bindings =
      (inferInputs node screenName).inputs.flatMap (·.bindings (rootClass screenName)) := by
  obtain ⟨fields, properties, -, -, -, hinferred⟩ | ⟨warning, hinferred⟩ :=
    inferInputs_cases node screenName
  · rw [hinferred]
    rfl
  · rw [hinferred]
    rfl

theorem InferredInputs.filter_isEmpty (i : InferredInputs) :
    (some i).filter (fun i => !i.isEmpty) = if i.inputs = [] then none else some i := by
  rw [Option.filter_some, isEmpty]
  cases i.inputs with
  | nil => rfl
  | cons item rest => rfl

/-! ## Well-formed inputs -/

/-- Inputs under distinct identifiers, and bindings that mention them. -/
structure InferredInputs.IsWellFormed (inferred : InferredInputs) : Prop where
  identifiers : ∀ name ∈ inferred.names, Naming.isIdentifierText name.toList = true
  distinct : inferred.names.Nodup
  bound : ∀ b ∈ inferred.bindings, ∃ name ∈ inferred.names, name.toList <:+: b.expression.toList

/-- A binding of an input mentions it. -/
theorem InferredInput.mention_of_mem_bindings {b : TemplateBinding} (h : b ∈ i.bindings root) :
    i.name.toList <:+: b.expression.toList := by
  unfold bindings at h
  split at h
  · obtain rfl := List.mem_singleton.1 h
    exact List.infix_rfl
  · obtain rfl := List.mem_singleton.1 h
    exact ⟨s!"'{Naming.kebabCase i.name}-' + ".toList, [], by simp [variantExpression, toString]⟩
  · split at h
    · rcases List.mem_cons.1 h with rfl | h
      · exact ⟨"\x7b\x7b ".toList, " \x7d\x7d".toList, by simp [interpolation]⟩
      · split at h
        · obtain rfl := List.mem_singleton.1 h
          exact List.infix_rfl
        · cases h
    · cases h

theorem isWellFormed_inferInputs (node : Json) (screenName : String) :
    (inferInputs node screenName).IsWellFormed where
  identifiers name hname := by
    obtain ⟨i, hi, rfl⟩ := List.mem_map.1 hname
    obtain ⟨p, hp⟩ := exists_yield?_of_mem_inputs hi
    obtain ⟨fields, source, -, -, hid, rfl⟩ := yield?_eq_some_iff.1 hp
    exact Naming.isIdentifierText_of_camelCase hid
  distinct := by
    obtain ⟨fields, properties, -, -, -, hinferred⟩ | ⟨warning, hinferred⟩ :=
      inferInputs_cases node screenName
    · rw [hinferred]
      exact (names_ofProperties [] properties).1
    · rw [hinferred]
      exact List.nodup_nil
  bound b hb := by
    rw [bindings_inferInputs] at hb
    obtain ⟨i, hi, hb⟩ := List.mem_flatMap.1 hb
    exact ⟨i.name, List.mem_map_of_mem hi, i.mention_of_mem_bindings hb⟩

/-- Nothing is wrong with well-formed inputs. -/
theorem InferredInputs.IsWellFormed.errors_eq_nil (h : inferred.IsWellFormed) :
    inferred.errors = [] := by
  have hnames : inferred.nameErrors = [] := by
    refine List.map_eq_nil_iff.2 (List.filter_eq_nil_iff.2 fun name hname => ?_)
    rw [Naming.isIdentifier_of_isIdentifierText (h.identifiers name hname)]
    decide
  have hduplicates : inferred.duplicateErrors = [] := by
    have hnone : inferred.names.filter (fun name => 1 < inferred.names.count name) = [] := by
      refine List.filter_eq_nil_iff.2 fun name hname => ?_
      rw [List.count_eq_one_of_mem h.distinct hname]
      decide
    have hempty : inferred.duplicateNames = [] := by
      rw [duplicateNames, hnone]
      simp [sortedDistinct, sortTexts]
    unfold duplicateErrors
    rw [hempty]
    rfl
  have hbindings : inferred.bindingErrors = [] := by
    refine List.map_eq_nil_iff.2 (List.filter_eq_nil_iff.2 fun b hb => ?_)
    obtain ⟨name, hname, hmention⟩ := h.bound b hb
    have hmentions : mentionsAny inferred.names b.expression = true :=
      List.any_eq_true.2 ⟨name, hname, occursIn_iff.2 hmention⟩
    rw [hmentions]
    decide
  rw [errors, hnames, hduplicates, hbindings]
  rfl

end Wireframe
