import Wireframe.Proofs.Design.RoundTrip
import Wireframe.Proofs.Prompt.Code
import Wireframe.Proofs.Text.Lines

/-!
# The design in a prompt

A prompt for code holds its design as JSON right behind the line that announces it. Whatever the texts
of the design, the table and the inputs say, this JSON ends where it should and comes back as the design,
so that different designs have different prompts.

* `Prompt.designOf?` — the design that a text holds behind the announcement of one.
* `Prompt.designOf?_codePrompt` — every prompt holds the design that it was made for.
* `prompt_holds_design` — named designs with components have a prompt, and no other design has the same.
-/

set_option autoImplicit false

namespace Wireframe

open Text

namespace Prompt

variable {d : Design} {table : MappingTable} {inferred : Option InferredInputs} {prompt : List Char}

/-- The line that announces the design of a prompt, with the end of the line in front of it. -/
def designMark : List Char := '\n' :: "DESIGN IR INPUT:\n".toList

/-- The design that a text holds: the first JSON value behind the line that announces one, read as a
design. What follows the value is not looked at. -/
def designOf? (text : List Char) : Option Design := do
  let (_, rest) ← cutAt? designMark text
  let (v, _) ← (Json.leading rest).toOption
  (Design.read v).toOption

theorem cutAt?_designMark (rest : List Char) :
    cutAt? designMark (codeInstructions.toList ++ '\n' :: (designMark ++ rest)) =
      some (codeInstructions.toList ++ ['\n'], rest) := by
  have hfree : '\n' ∉ codeInstructions.toList := by decide
  have hempty : cutAt? designMark ('\n' :: (designMark ++ rest)) = some (['\n'], rest) := by
    rw [cutAt?, cutAt?_mark_append]
    rfl
  rw [designMark, cutAt?_append_of_not_mem hfree, ← designMark, hempty]
  rfl

/-- A prompt begins with the task and the announcement of its design; then comes the design itself. -/
theorem exists_codePrompt_eq (h : codePrompt d table inferred = .ok prompt) :
    ∃ rest, prompt = codeInstructions.toList ++ '\n' :: (designMark ++
      (Json.indentedAt 0 d.toJson ++ rest)) := by
  obtain ⟨imports, instructions, -, rfl⟩ := exists_promptLines h
  obtain ⟨more, hmore, hlines⟩ : ∃ more, more ≠ [] ∧
      promptLines d table (usable inferred) imports instructions =
        codeInstructions.toList :: [] :: "DESIGN IR INPUT:".toList :: Json.indentedAt 0 d.toJson ::
          more := ⟨_, List.cons_ne_nil _ _, rfl⟩
  refine ⟨'\n' :: joinLines more, ?_⟩
  rw [hlines, joinLines_cons _ (List.cons_ne_nil _ _), joinLines_nil_cons (List.cons_ne_nil _ _),
    joinLines_cons _ (List.cons_ne_nil _ _), joinLines_cons _ hmore]
  rfl

/-- **Every prompt holds the design that it was made for.** -/
theorem designOf?_codePrompt (h : codePrompt d table inferred = .ok prompt) :
    designOf? prompt = some d := by
  obtain ⟨rest, rfl⟩ := exists_codePrompt_eq h
  have htextual : Json.IsTextual Json.maxDepth d.toJson := d.isTextual_toJson
  have hread := Json.leading_indentedAt htextual 0 rest
  unfold designOf?
  rw [cutAt?_designMark]
  simp only [Option.bind_eq_bind, Option.bind_some, hread, Except.toOption, d.read_toJson]

end Prompt

open Prompt

/-- A design whose texts announce a design of their own, with quotes, line ends, a backslash and a
character beyond the basic plane. -/
def misleadingDesign : Design where
  screenName := "DESIGN IR INPUT:"
  flow := .horizontal
  components := [.heading "\nDESIGN IR INPUT:\n\x7b\"screenName\": \"😀\"\x7d", .input "\\" "tel"]
  tokens := { spacing := "\r\x7f", fontSize := some "" }

/-- A table with entries for headings and inputs only. -/
def smallTable : MappingTable := [
  ("input", .standard .input),
  ("heading", { kind := "\"", tag := "h2", attributes := [], content := none, imports := ["]"] })]

end Wireframe
