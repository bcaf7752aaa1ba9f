import Wireframe.Proofs.Inputs.Inference
import Wireframe.Proofs.Prompt.Inputs
import Wireframe.Proofs.Reply.SampleIssues

/-!
# Where inferred inputs are announced

A prompt for code drops inputs that something is wrong with, a sample reply does not look. Nothing is
ever wrong with inferred inputs, so that both announce them exactly when there are some.

* `Prompt.codePrompt_opening` — where a prompt has its section about inputs.
* `Prompt.announces_iff` — it has one exactly when some inputs are usable.
* `Sample.declares_iff` — the class of a sample reply begins with its inputs when it has some.
* `inferred_inputs_valid_and_announced` — the law of inferred inputs as a whole.
-/

set_option autoImplicit false

namespace Wireframe

open Text

variable {d : Design} {table : MappingTable} {inferred : Option InferredInputs} {i : InferredInputs}
  {prompt : List Char}

/-! ## The section of a prompt -/

namespace Prompt

/-- How the section about inputs begins. -/
def inputHeading : List Char := '\n' :: "INFERRED INPUTS (MANDATORY):".toList

/-- Whether a prompt has a section about inputs after its mapping table. -/
def Announces (d : Design) (table : MappingTable) (prompt : List Char) : Prop :=
  joinLines (openingLines d table) ++ '\n' :: inputHeading <+: prompt

/-- Behind the mapping table of a prompt stands the section about inputs, which may be empty, and then
the constraints. -/
theorem codePrompt_opening (h : codePrompt d table inferred = .ok prompt) :
    ∃ rest, prompt = joinLines (openingLines d table) ++ '\n' ::
      joinLines (((usable inferred).map inputSection).getD [] :: "CONSTRAINTS:".toList :: rest) := by
  have hlines : openingLines d table ≠ [] := List.cons_ne_nil _ _
  obtain ⟨middle, hprompt⟩ := codePrompt_lines h
  exact ⟨_, hprompt.trans (joinLines_append hlines (List.cons_ne_nil _ _))⟩

theorem prefix_inputSection (i : InferredInputs) : inputHeading <+: inputSection i := by
  unfold inputSection
  dsimp only
  rw [List.cons_append,
    joinLines_nil_cons (List.append_ne_nil_of_left_ne_nil (List.cons_ne_nil _ _) _)]
  exact List.cons_prefix_cons.2 ⟨rfl, (prefix_joinLines _ _).trans (List.prefix_append _ _)⟩

/-- A prompt with usable inputs has the section about them. -/
theorem prefix_codePrompt (h : codePrompt d table inferred = .ok prompt)
    (hi : usable inferred = some i) :
    joinLines (openingLines d table) ++ '\n' :: inputSection i <+: prompt := by
  obtain ⟨rest, rfl⟩ := codePrompt_opening h
  rw [hi, Option.map_some, Option.getD_some, List.prefix_append_right_inj, List.cons_prefix_cons]
  exact ⟨rfl, prefix_joinLines _ _⟩

/-- A prompt has a section about inputs exactly when there are usable ones. -/
theorem announces_iff (h : codePrompt d table inferred = .ok prompt) :
    Announces d table prompt ↔ (usable inferred).isSome = true := by
  unfold Announces
  cases hi : usable inferred with
  | some i =>
    refine iff_of_true (List.IsPrefix.trans ?_ (prefix_codePrompt h hi)) rfl
    rw [List.prefix_append_right_inj, List.cons_prefix_cons]
    exact ⟨rfl, prefix_inputSection i⟩
  | none =>
    obtain ⟨rest, rfl⟩ := codePrompt_opening h
    refine iff_of_false (fun hprefix => ?_) Bool.false_ne_true
    rw [hi, Option.map_none, Option.getD_none, joinLines_nil_cons (List.cons_ne_nil _ _),
      List.prefix_append_right_inj, List.cons_prefix_cons] at hprefix
    have hheading : "INFERRED INPUTS (MANDATORY):".toList <+:
        joinLines ("CONSTRAINTS:".toList :: rest) := (List.cons_prefix_cons.1 hprefix.2).2
    have hlead : ['I'] <+: joinLines ("CONSTRAINTS:".toList :: rest) :=
      List.IsPrefix.trans (by decide) hheading
    have hother : ['C'] <+: joinLines ("CONSTRAINTS:".toList :: rest) :=
      List.IsPrefix.trans (by decide) (prefix_joinLines _ _)
    exact absurd (List.prefix_of_prefix_length_le hlead hother (Nat.le_refl 1)) (by decide)

theorem usable_of_errors (h : i.errors = []) :
    usable (some i) = if i.inputs = [] then none else some i := by
  rw [usable_some]
  simp [h]

end Prompt

/-! ## The class of a sample reply -/

namespace Sample

/-- Whether a class imports what inputs need and begins with their declarations. -/
def Declares (d : Design) (inputs : List InferredInput) (classText : List Char) : Prop :=
  classHead d.screenName.toList (lower d.screenName.toList) true ++
    '\n' :: declarations memberIndent inputs <+: classText

theorem prefix_paragraphs (part : List Char) (parts : List (List Char)) :
    part <+: paragraphs (part :: parts) := by
  cases parts with
  | nil => simp [paragraphs]
  | cons next rest =>
    simp only [paragraphs, List.intercalate, List.intersperse_cons_cons, List.flatten_cons]
    exact List.prefix_append _ _

/-- The class of a sample reply begins with its inputs exactly when there are some. -/
theorem declares_iff (d : Design) (i : InferredInputs) :
    Declares d i.inputs (fileText d (some i) .typescript) ↔ i.inputs ≠ [] := by
  unfold Declares fileText
  dsimp only
  rw [i.filter_isEmpty, classFile_eq]
  by_cases hinputs : i.inputs = []
  · rw [if_pos hinputs, Option.isSome_none]
    refine iff_of_false (fun hprefix => ?_) (fun hne => hne hinputs)
    have hinput := ((prefix_classHead _ _ true).trans (List.prefix_append _ _)).trans hprefix
    have hplain := (prefix_classHead d.screenName.toList (lower d.screenName.toList) false).trans
      (List.prefix_append _ ('\n' :: joinLines [members d none, "\x7d".toList]))
    exact absurd (List.prefix_of_prefix_length_le hplain hinput (by decide)) (by decide)
  · rw [if_neg hinputs, Option.isSome_some]
    refine iff_of_true ?_ hinputs
    have hmembers : declarations memberIndent i.inputs <+: members d (some i) := prefix_paragraphs _ _
    rw [List.prefix_append_right_inj, List.cons_prefix_cons]
    exact ⟨rfl, hmembers.trans (prefix_joinLines _ _)⟩

end Sample

open Sample

/-! ## The law of inferred inputs -/

/-- **Inferred inputs are valid, account for every property, and are announced wherever there are
some.** Nothing is wrong with what is inferred from a node; the properties of a node come, one by one
and in order, to an input or to a warning; and a prompt for code has its section about these inputs,
as the class of a sample reply has their declarations, exactly when there are any. -/
theorem inferred_inputs_valid_and_announced (node : Json) (screenName : String) :
    let i := inferInputs node screenName
    (i.IsWellFormed ∧ i.errors = []) ∧
      (∀ fields properties : Fields, node = .obj fields →
        Fields.get fields "componentProperties" = .obj properties → properties ≠ [] →
          i.AccountsFor properties ∧
            i.inputs.length + i.warnings.length = properties.length) ∧
      (∀ (d : Design) (table : MappingTable) (prompt : List Char),
        Prompt.codePrompt d table (some i) = .ok prompt →
          (Prompt.Announces d table prompt ↔ i.inputs ≠ []) ∧
            (i.inputs ≠ [] →
              joinLines (Prompt.openingLines d table) ++ '\n' :: Prompt.inputSection i <+: prompt)) ∧
      ∀ d : Design, Declares d i.inputs (fileText d (some i) .typescript) ↔ i.inputs ≠ [] := by
  have hformed := isWellFormed_inferInputs node screenName
  have husable := Prompt.usable_of_errors hformed.errors_eq_nil
  refine ⟨⟨hformed, hformed.errors_eq_nil⟩, ?_, ?_, fun d => declares_iff d _⟩
  · intro fields properties hnode hproperties hne
    have haccounts := accountsFor_inferInputs hnode hproperties hne screenName
    exact ⟨haccounts, haccounts.length_eq⟩
  · intro d table prompt hprompt
    refine ⟨?_, fun hne => Prompt.prefix_codePrompt hprompt ?_⟩
    · rw [Prompt.announces_iff hprompt, husable, Option.isSome_ite']
    · rw [husable, if_neg hne]

/-- Properties of which two yield the same name, one has no name, and one is of an unknown type. -/
def mixedProperties : Fields := [
  ("Label#1:0", .obj [("type", .str "TEXT"), ("value", .str "Submit")]),
  ("3D Mode", .obj [("type", .str "BOOLEAN"), ("value", .bool true)]),
  ("label", .obj [("type", .str "BOOLEAN"), ("value", .bool false)]),
  ("Icon#2:0", .obj [("type", .str "INSTANCE_SWAP")]),
  ("Button Size", .obj [("type", .str "VARIANT"), ("value", .str "large")])]

/-- The fields of a node with these properties. -/
def mixedFields : Fields := [("name", .str "Button"), ("componentProperties", .obj mixedProperties)]

theorem inferred_inputs_valid_and_announced_mixed :
    let i := inferInputs (.obj mixedFields) "SignIn"
    i.names = ["label", "buttonSize"] ∧ i.warnings.length = 3 ∧ i.errors = [] ∧
      i.AccountsFor mixedProperties ∧
      (∃ prompt, Prompt.codePrompt quotedDesign .standard (some i) = .ok prompt ∧
        Prompt.Announces quotedDesign .standard prompt) ∧
      Declares quotedDesign i.inputs (fileText quotedDesign (some i) .typescript) := by
  obtain ⟨⟨-, herrors⟩, haccounts, hprompts, hdeclares⟩ :=
    inferred_inputs_valid_and_announced (.obj mixedFields) "SignIn"
  have hnames : (inferInputs (.obj mixedFields) "SignIn").names = ["label", "buttonSize"] := by
    decide
  have hne : (inferInputs (.obj mixedFields) "SignIn").inputs ≠ [] := fun hnil => by
    rw [InferredInputs.names, hnil] at hnames
    cases hnames
  obtain ⟨prompt, hprompt⟩ := Prompt.codePrompt_standard (d := quotedDesign) rfl
    (some (inferInputs (.obj mixedFields) "SignIn"))
  exact ⟨hnames, by decide, herrors,
    (haccounts mixedFields mixedProperties rfl rfl (List.cons_ne_nil _ _)).1,
    ⟨prompt, hprompt, (hprompts quotedDesign .standard prompt hprompt).1.2 hne⟩,
    (hdeclares quotedDesign).2 hne⟩

end Wireframe
