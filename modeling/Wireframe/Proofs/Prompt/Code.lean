import Wireframe.Prompt.Code
import Wireframe.Proofs.Markup.Mapping

/-!
# When there is a prompt

A prompt for code fails for three reasons only: a screen without a name, a screen without components,
and a table without an entry for one of the kinds. The standard table has an entry for every kind.

* `Prompt.checkDesign_eq_ok` — what a design needs in order to have a prompt.
* `Prompt.codePrompt_of_not_covers`, `Prompt.codePrompt_of_covers` — whether the table suffices.
* `Prompt.codePrompt_standard` — with the standard table, every named design with components has one.
* `Prompt.promptLines`, `Prompt.exists_promptLines` — the lines of a prompt, from its design to the form
  of the answer.
-/

set_option autoImplicit false

namespace Wireframe

/-- The kinds of a design in JSON are those of its components. -/
theorem Design.map_kind_toJson (d : Design) :
    d.components.map (fun c => c.kind.toJson) = d.kinds.map (·.toJson) := by
  rw [Design.kinds, List.map_map]
  rfl

namespace Prompt

variable {d : Design} {table : MappingTable} {inferred : Option InferredInputs} {prompt : List Char}

/-! ## What a design needs -/

/-- A design has a prompt only when its screen has a name and there is something on it. -/
theorem checkDesign_eq_ok : checkDesign d = .ok () ↔ d.screenName ≠ "" ∧ d.components ≠ [] := by
  unfold checkDesign
  by_cases hname : d.screenName = ""
  · rw [if_pos hname]
    exact iff_of_false nofun fun h => h.1 hname
  · rw [if_neg hname]
    by_cases hcomponents : d.components = []
    · rw [hcomponents]
      exact iff_of_false nofun fun h => h.2 rfl
    · rw [if_neg (by rwa [List.isEmpty_iff])]
      exact iff_of_true rfl ⟨hname, hcomponents⟩

/-- A design that lacks either is at fault. -/
theorem checkDesign_eq_error (h : d.screenName = "" ∨ d.components = []) :
    ∃ f, checkDesign d = .error (.fault f) ∧ f.kind = .prompt := by
  unfold checkDesign
  split
  · exact ⟨_, rfl, rfl⟩
  · rename_i hname
    rw [if_pos (List.isEmpty_iff.2 (h.resolve_left hname))]
    exact ⟨_, rfl, rfl⟩

/-! ## The lines of a prompt -/

/-- The lines of a prompt in front of its inputs: the task, the design, the mapping table. -/
def openingLines (d : Design) (table : MappingTable) : List (List Char) := [
  codeInstructions.toList,
  [],
  "DESIGN IR INPUT:".toList,
  Json.indentedAt 0 d.toJson,
  [],
  "COMPONENT MAPPING RULES:".toList,
  Json.indentedAt 0 table.toJson]

/-- The lines of a prompt in front of the modules that it lists; `active` are the usable inputs. -/
def frontLines (d : Design) (table : MappingTable) (active : Option InferredInputs) :
    List (List Char) :=
  openingLines d table ++ [
    (active.map inputSection).getD [],
    "CONSTRAINTS:".toList,
    Text.joinLines ((constraints active).map String.toList),
    []]

/-- The lines that a prompt ends with: the files asked for and the form of the answer. -/
def closingLines (base : List Char) : List (List Char) :=
  ["GENERATE FILES:".toList, [], fileLines base, [], "OUTPUT FORMAT:".toList] ++ answerForm base ++
    [[], "Generate the code now:".toList]

/-- The lines of a prompt behind the modules that it lists. -/
def backLines (d : Design) (instructions : List Char) : List (List Char) := [
    [],
    "DESIGN TOKENS TO CSS VARIABLES:".toList,
    tokenLines d.tokens,
    [],
    "COMPONENT INSTRUCTIONS:".toList,
    instructions,
    []] ++ closingLines (Text.lower d.screenName.toList)

def promptLines (d : Design) (table : MappingTable) (active : Option InferredInputs)
    (imports : List String) (instructions : List Char) : List (List Char) :=
  frontLines d table active ++
    "REQUIRED IMPORTS:".toList :: (importLine imports).toList :: backLines d instructions

/-! ## Prompts for code -/

theorem codePrompt_of_checkDesign {f : Failure} (h : checkDesign d = .error f) (table : MappingTable)
    (inferred : Option InferredInputs) : codePrompt d table inferred = .error f := by
  unfold codePrompt
  rw [h]
  rfl

/-- A table without an entry for some kind of a design is reported with all such kinds. -/
theorem codePrompt_of_not_covers (h : checkDesign d = .ok ()) (hcovers : ¬table.Covers d.kinds)
    (inferred : Option InferredInputs) : codePrompt d table inferred =
      .error (.fault (.unmapped ((table.lackingFrom 0 d.kinds).map .at))) := by
  unfold codePrompt
  rw [h, d.map_kind_toJson]
  simp only [MappingTable.checkAll_of_not_covers hcovers]
  rfl

theorem exists_instructionsFrom {components : List DesignComponent}
    (h : table.Covers (components.map (·.kind))) (inferred : Option InferredInputs) (position : Nat) :
    ∃ lines, instructionsFrom table inferred position components = .ok lines := by
  induction components generalizing position with
  | nil => exact ⟨[], rfl⟩
  | cons c rest ih =>
    obtain ⟨hkind, hrest⟩ := List.forall_mem_cons.1 h
    obtain ⟨entry, hentry⟩ := Option.isSome_iff_exists.1 hkind
    obtain ⟨lines, hlines⟩ := ih hrest (position + 1)
    refine ⟨instructionLine position c entry inferred :: lines, ?_⟩
    rw [instructionsFrom, MappingTable.entryFor_toJson hentry, hlines]
    rfl

/-- With an entry for every kind, nothing that is looked up for a design fails. -/
theorem codePrompt_of_covers (h : checkDesign d = .ok ()) (hcovers : table.Covers d.kinds)
    (inferred : Option InferredInputs) :
    ∃ imports instructions, table.importsFor (d.kinds.map (·.toJson)) = .ok imports ∧
      codePrompt d table inferred =
        .ok (Text.joinLines (promptLines d table (usable inferred) imports instructions)) := by
  obtain ⟨imports, himports, -⟩ := MappingTable.exists_importsFor hcovers
  obtain ⟨lines, hlines⟩ := exists_instructionsFrom hcovers (usable inferred) 1
  have hinstructions :
      componentInstructions d (usable inferred) table = .ok (Text.joinLines lines) := by
    unfold componentInstructions
    rw [hlines]
    rfl
  refine ⟨imports, Text.joinLines lines, himports, ?_⟩
  unfold codePrompt
  rw [h, d.map_kind_toJson]
  simp only [MappingTable.checkAll_of_covers hcovers, himports, hinstructions]
  rfl

/-- Every prompt has these lines. -/
theorem exists_promptLines (h : codePrompt d table inferred = .ok prompt) :
    ∃ imports instructions, table.importsFor (d.kinds.map (·.toJson)) = .ok imports ∧
      prompt = Text.joinLines (promptLines d table (usable inferred) imports instructions) := by
  cases hcheck : checkDesign d with
  | error f =>
    rw [codePrompt_of_checkDesign hcheck] at h
    cases h
  | ok u =>
    by_cases hcovers : table.Covers d.kinds
    · obtain ⟨imports, instructions, himports, hprompt⟩ := codePrompt_of_covers hcheck hcovers inferred
      rw [hprompt] at h
      exact ⟨imports, instructions, himports, (Except.ok.inj h).symm⟩
    · rw [codePrompt_of_not_covers hcheck hcovers] at h
      cases h

/-- With the standard table, a design that passes the check has a prompt. -/
theorem codePrompt_standard (h : checkDesign d = .ok ()) (inferred : Option InferredInputs) :
    ∃ prompt, codePrompt d .standard inferred = .ok prompt := by
  obtain ⟨_, _, -, hprompt⟩ := codePrompt_of_covers h (MappingTable.covers_standard d.kinds) inferred
  exact ⟨_, hprompt⟩

/-- A prompt begins with its design and table and ends with its files. Behind the table stands the
section about inputs, which may be empty, and then the constraints. -/
theorem codePrompt_lines (h : codePrompt d table inferred = .ok prompt) :
    ∃ middle, prompt = Text.joinLines (openingLines d table ++
      ((usable inferred).map inputSection).getD [] :: "CONSTRAINTS:".toList ::
        (middle ++ closingLines (Text.lower d.screenName.toList))) := by
  obtain ⟨imports, instructions, -, rfl⟩ := exists_promptLines h
  exact ⟨[_, _, _, _, _, _, _, _, _, _, _], rfl⟩

end Prompt

end Wireframe
