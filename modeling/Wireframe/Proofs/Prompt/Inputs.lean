import Wireframe.Proofs.Prompt.Code
import Wireframe.Proofs.Text.Lines

/-!
# What inputs do to a prompt

Inputs reach a prompt in three places: a section of their own, the constraints, and the markup of
components. All of them ask whether the inputs may be used, so that inputs that are empty or that
something is wrong with leave no trace.

* `Prompt.usable_some` — which inputs may be used.
* `Prompt.codePrompt_of_usable_eq` — a prompt depends on nothing else of the inputs.
* `Prompt.inputSection_eq` — the section about inputs, line by line.
* `codePrompt_inputs` — what a prompt has of inputs that may be used, and what of others.
-/

set_option autoImplicit false

namespace Wireframe

open Text

namespace Prompt

variable {d : Design} {table : MappingTable} {inferred inferred' : Option InferredInputs}
  {i : InferredInputs} {prompt : List Char}

/-! ## Inputs that may not be used -/

/-- Inputs may be used when there are some and nothing is wrong with them. -/
theorem usable_some (i : InferredInputs) :
    usable (some i) = if i.inputs = [] ∨ i.errors ≠ [] then none else some i := by
  rw [usable, Option.filter_some, InferredInputs.isEmpty, InferredInputs.isValid]
  cases i.inputs <;> cases i.errors <;> rfl

/-- A prompt depends on the inputs that may be used. -/
theorem codePrompt_of_usable_eq (h : usable inferred = usable inferred') (d : Design)
    (table : MappingTable) : codePrompt d table inferred = codePrompt d table inferred' := by
  unfold codePrompt
  rw [h]

/-- What a design lacks, or a table, it lacks with any inputs. -/
theorem codePrompt_eq_error_iff {f : Failure} :
    codePrompt d table inferred = .error f ↔ codePrompt d table inferred' = .error f := by
  cases hcheck : checkDesign d with
  | error g => rw [codePrompt_of_checkDesign hcheck, codePrompt_of_checkDesign hcheck]
  | ok u =>
    by_cases hcovers : table.Covers d.kinds
    · obtain ⟨_, _, -, hprompt⟩ := codePrompt_of_covers hcheck hcovers inferred
      obtain ⟨_, _, -, hprompt'⟩ := codePrompt_of_covers hcheck hcovers inferred'
      rw [hprompt, hprompt']
      exact iff_of_false nofun nofun
    · rw [codePrompt_of_not_covers hcheck hcovers, codePrompt_of_not_covers hcheck hcovers]

/-! ## The section about inputs -/

/-- The lines about bindings. -/
def bindingRows (bindings : List TemplateBinding) : List (List Char) :=
  if bindings = [] then ["- none".toList] else bindings.map bindingLine

/-- What the declarations stand under. -/
def declarationHeading : List (List Char) := [
  [],
  "INFERRED INPUTS (MANDATORY):".toList,
  "Based on design signals from the host node, generate these EXACT @Input() properties:".toList,
  []]

/-- What the lines about bindings stand under. -/
def bindingHeading : List (List Char) := [[], "TEMPLATE BINDING REQUIREMENTS:".toList]

/-- The lines that sum inputs up. -/
def summaryRows (s : InputSummary) : List (List Char) := [
  [],
  "INFERENCE SUMMARY:".toList,
  s!"- Inputs detected: {s.count}".toList,
  "- Has label: ".toList ++ (truthText s.hasLabel).toList,
  "- Has variants: ".toList ++ (truthText s.hasVariants).toList,
  "- Has booleans: ".toList ++ (truthText s.hasBooleans).toList] ++ warningLines s.warnings

/-- The lines of the section about inputs. -/
def inputRows (i : InferredInputs) : List (List Char) :=
  declarationHeading ++ i.inputs.map (·.declaration memberIndent) ++ bindingHeading ++
    bindingRows i.bindings ++ summaryRows i.summary

theorem bindingRows_ne_nil (bindings : List TemplateBinding) : bindingRows bindings ≠ [] := by
  unfold bindingRows
  split
  · exact List.cons_ne_nil _ _
  · simpa

theorem bindingLines_eq (bindings : List TemplateBinding) :
    bindingLines bindings = joinLines (bindingRows bindings) := by
  cases bindings with
  | nil => rfl
  | cons b rest =>
    have hline : ['-'] <+: joinLines ((b :: rest).map bindingLine) :=
      List.IsPrefix.trans (List.prefix_append _ _) (prefix_joinLines (bindingLine b) _)
    unfold bindingLines bindingRows
    rw [if_neg (List.cons_ne_nil _ _)]
    split
    · rename_i hempty
      rw [hempty] at hline
      cases List.prefix_nil.1 hline
    · rfl

/-- The section about inputs, line by line. -/
theorem inputSection_eq (h : i.inputs ≠ []) : inputSection i = joinLines (inputRows i ++ [[]]) := by
  have hinputs : i.inputs.map (·.declaration memberIndent) ≠ [] := by simpa
  have hrows : inputRows i ≠ [] := List.cons_ne_nil _ _
  calc inputSection i
      = joinLines (declarationHeading ++ joinLines (i.inputs.map (·.declaration memberIndent)) ::
          (bindingHeading ++ joinLines (bindingRows i.bindings) :: summaryRows i.summary)) ++
          ['\n'] := by
        rw [← bindingLines_eq]
        rfl
    _ = joinLines (inputRows i) ++ ['\n'] := by
        rw [joinLines_joinLines hinputs, ← List.append_assoc, ← List.append_assoc,
          joinLines_joinLines (bindingRows_ne_nil _), ← List.append_assoc]
        rfl
    _ = joinLines (inputRows i ++ [[]]) := (joinLines_append hrows (List.cons_ne_nil [] [])).symm

/-! ## The constraints -/

theorem inputConstraint_mem (i : InferredInputs) : inputConstraint ∈ constraints (some i) :=
  List.mem_append_right _ List.mem_cons_self

theorem bindingConstraint_mem_iff :
    bindingConstraint ∈ constraints (some i) ↔ i.bindings ≠ [] := by
  have hstanding : bindingConstraint ∉ standingConstraints := by decide
  have hinput : bindingConstraint ≠ inputConstraint := by decide
  unfold constraints
  dsimp only
  rw [List.mem_append, List.mem_cons, or_iff_right hstanding, or_iff_right hinput]
  cases i.bindings with
  | nil => exact iff_of_false nofun (fun h => h rfl)
  | cons b rest => exact iff_of_true List.mem_cons_self (List.cons_ne_nil _ _)

/-- A prompt with inputs has their section behind the table, and then the constraints. -/
theorem codePrompt_rows (h : codePrompt d table inferred = .ok prompt)
    (hi : usable inferred = some i) (hinputs : i.inputs ≠ []) :
    ∃ rest, prompt = joinLines (openingLines d table ++ inputRows i ++
      [[], "CONSTRAINTS:".toList] ++ (constraints (some i)).map String.toList ++
        [] :: "REQUIRED IMPORTS:".toList :: rest) := by
  have hconstraints : (constraints (some i)).map String.toList ≠ [] := List.cons_ne_nil _ _
  have hrows : inputRows i ++ [[]] ≠ [] := List.cons_ne_nil _ _
  obtain ⟨imports, instructions, -, rfl⟩ := exists_promptLines h
  let rest := (importLine imports).toList :: backLines d instructions
  refine ⟨rest, ?_⟩
  calc joinLines (promptLines d table (usable inferred) imports instructions)
      = joinLines (openingLines d table ++ joinLines (inputRows i ++ [[]]) ::
          (["CONSTRAINTS:".toList] ++ joinLines ((constraints (some i)).map String.toList) ::
            [] :: "REQUIRED IMPORTS:".toList :: rest)) := by
        rw [hi, ← inputSection_eq hinputs]
        rfl
    _ = _ := by
        rw [joinLines_joinLines hrows, ← List.append_assoc, ← List.append_assoc,
          joinLines_joinLines hconstraints]
        simp only [List.append_assoc, List.cons_append, List.nil_append]

end Prompt

open Prompt

/-- **What inputs do to a prompt.** Inputs that are empty or that something is wrong with, whatever
bindings and warnings come with them, give the prompt or the fault that no inputs give. Others change
no fault. A prompt with them has, behind its design and table, a line for each input that declares it
and one for each binding, in order; and among its constraints the one about inputs, and the one about
bindings exactly when there are bindings. -/
theorem codePrompt_usable_inputs (d : Design) (table : MappingTable) (i : InferredInputs) :
    (i.inputs = [] ∨ i.errors ≠ [] →
        codePrompt d table (some i) = codePrompt d table none) ∧
      (i.inputs ≠ [] → i.errors = [] →
        (∀ f, codePrompt d table (some i) = .error f ↔ codePrompt d table none = .error f) ∧
        (∀ prompt, codePrompt d table (some i) = .ok prompt → ∃ rest, prompt =
          joinLines (openingLines d table ++ (
            declarationHeading ++ i.inputs.map (·.declaration memberIndent) ++
            bindingHeading ++ bindingRows i.bindings ++
            summaryRows i.summary) ++
            [[], "CONSTRAINTS:".toList] ++ (constraints (some i)).map String.toList ++
            [] :: "REQUIRED IMPORTS:".toList :: rest)) ∧
        inputConstraint ∈ constraints (some i) ∧
        (bindingConstraint ∈ constraints (some i) ↔ i.bindings ≠ [])) := by
  have husable := usable_some i
  refine ⟨fun hunusable => ?_, fun hinputs herrors => ⟨fun f => codePrompt_eq_error_iff,
    fun prompt hprompt => ?_, inputConstraint_mem i, bindingConstraint_mem_iff⟩⟩
  · rw [if_pos hunusable] at husable
    exact codePrompt_of_usable_eq husable d table
  · rw [if_neg (not_or.2 ⟨hinputs, not_not.2 herrors⟩)] at husable
    exact codePrompt_rows hprompt husable hinputs

/-- An input with a default that is quoted in source, and a binding to it. -/
def captionInputs : InferredInputs where
  inputs := [⟨"caption", .string, some (.text "Let's go"), none, some .text⟩]
  bindings := [⟨.interpolation, "h1", "\x7b\x7b caption \x7d\x7d"⟩]
  warnings := []

/-- The same input twice. -/
def repeatedInputs : InferredInputs where
  inputs := captionInputs.inputs ++ captionInputs.inputs
  bindings := captionInputs.bindings
  warnings := ["Skipped"]

/-- A screen with a title and nothing else. -/
def titleDesign : Design where
  screenName := "Title"
  flow := .vertical
  components := [.heading "Title"]
  tokens := {}

theorem codePrompt_usable_inputs_caption :
    codePrompt titleDesign .standard (some repeatedInputs) = codePrompt titleDesign .standard none ∧
      ∃ prompt rest, codePrompt titleDesign .standard (some captionInputs) = .ok prompt ∧
        prompt = joinLines (openingLines titleDesign .standard ++ (
          declarationHeading ++ ["  @Input() caption: string = 'Let\\'s go';".toList] ++
          bindingHeading ++ ["- interpolation: h1 = \"\x7b\x7b caption \x7d\x7d\"".toList] ++
          summaryRows captionInputs.summary) ++
          [[], "CONSTRAINTS:".toList] ++ (constraints (some captionInputs)).map String.toList ++
          [] :: "REQUIRED IMPORTS:".toList :: rest) ∧
        bindingConstraint ∈ constraints (some captionInputs) := by
  have hrepeated := (codePrompt_usable_inputs titleDesign .standard repeatedInputs).1
    (.inr (by decide +kernel))
  obtain ⟨-, hrows, -, hbinding⟩ := (codePrompt_usable_inputs titleDesign .standard captionInputs).2
    (by decide) (by decide +kernel)
  obtain ⟨prompt, hprompt⟩ := codePrompt_standard (d := titleDesign) rfl (some captionInputs)
  obtain ⟨rest, hrest⟩ := hrows prompt hprompt
  exact ⟨hrepeated, prompt, rest, hprompt, hrest, hbinding.2 (by decide)⟩

end Wireframe
