import Wireframe.Proofs.Prompt.Code

/-!
# How a prompt comes out

A design, a table and inputs come to a prompt or to one of two faults. The check in front decides: what
is looked up for each component afterwards is there.

* `Prompt.codePrompt_cases` — the three ways, which exclude each other.
* `codePrompt_outcome` — when each of them is taken, what the fault names and which modules the prompt
  lists.
-/

set_option autoImplicit false

namespace Wireframe

open Text

variable {d : Design} {table : MappingTable} {inferred : Option InferredInputs}

/-- Some kind has no entry unless the table covers the kinds. -/
theorem MappingTable.not_covers_iff {kinds : List Kind} :
    ¬table.Covers kinds ↔ ∃ k ∈ kinds, table.find? k.tag = none := by
  simp only [Covers, Option.isSome_iff_ne_none, not_forall, not_not, exists_prop]

namespace Prompt

theorem importLine_eq (imports : List String) :
    importLine imports = if imports = [] then "none" else String.intercalate ", " imports := by
  cases imports <;> rfl

/-- A design without a name or components is at fault; then a table without an entry for one of its
kinds; else there is a prompt. -/
theorem codePrompt_cases (d : Design) (table : MappingTable) (inferred : Option InferredInputs) :
    ((d.screenName = "" ∨ d.components = []) ∧
        ∃ f, codePrompt d table inferred = .error (.fault f) ∧ f.kind = .prompt) ∨
      ((d.screenName ≠ "" ∧ d.components ≠ []) ∧ ¬table.Covers d.kinds ∧
        codePrompt d table inferred =
          .error (.fault (.unmapped ((table.lackingFrom 0 d.kinds).map .at)))) ∨
      ((d.screenName ≠ "" ∧ d.components ≠ []) ∧ table.Covers d.kinds ∧
        ∃ imports instructions, table.importsFor (d.kinds.map (·.toJson)) = .ok imports ∧
          codePrompt d table inferred =
            .ok (joinLines (promptLines d table (usable inferred) imports instructions))) := by
  by_cases hnamed : d.screenName = "" ∨ d.components = []
  · obtain ⟨f, hcheck, hkind⟩ := checkDesign_eq_error hnamed
    exact .inl ⟨hnamed, f, codePrompt_of_checkDesign hcheck table inferred, hkind⟩
  · rw [not_or] at hnamed
    have hcheck := checkDesign_eq_ok.2 hnamed
    by_cases hcovers : table.Covers d.kinds
    · exact .inr (.inr ⟨hnamed, hcovers, codePrompt_of_covers hcheck hcovers inferred⟩)
    · exact .inr (.inl ⟨hnamed, hcovers, codePrompt_of_not_covers hcheck hcovers inferred⟩)

/-! ## Each of the ways -/

/-- A result that is a fault of a family. -/
def FailsWith (r : Except Failure (List Char)) (kind : FaultKind) : Prop :=
  ∃ f, r = .error (.fault f) ∧ f.kind = kind

theorem failsWith_prompt_iff :
    FailsWith (codePrompt d table inferred) .prompt ↔ d.screenName = "" ∨ d.components = [] := by
  rcases codePrompt_cases d table inferred with
    ⟨hnamed, hfails⟩ | ⟨hnamed, -, hfault⟩ | ⟨hnamed, -, imports, instructions, -, hok⟩
  · exact iff_of_true hfails hnamed
  · refine iff_of_false (fun hfails => ?_) (not_or.2 hnamed)
    obtain ⟨f, hf, hkind⟩ := hfails
    rw [hfault] at hf
    cases hf
    cases hkind
  · refine iff_of_false (fun hfails => ?_) (not_or.2 hnamed)
    obtain ⟨f, hf, -⟩ := hfails
    rw [hok] at hf
    cases hf

/-- The fault of a table names the kinds without an entry, with their places in order. -/
theorem eq_unmapped_of_kind {f : Fault} (hf : codePrompt d table inferred = .error (.fault f))
    (hkind : f.kind = .unmappedKind) :
    (d.screenName ≠ "" ∧ d.components ≠ []) ∧ ¬table.Covers d.kinds ∧
      f = .unmapped ((table.lackingFrom 0 d.kinds).map .at) := by
  rcases codePrompt_cases d table inferred with
    ⟨-, f', hf', hkind'⟩ | ⟨hnamed, hcovers, hfault⟩ | ⟨-, -, imports, instructions, -, hok⟩
  · rw [hf'] at hf
    cases hf
    rw [hkind] at hkind'
    cases hkind'
  · rw [hfault] at hf
    cases hf
    exact ⟨hnamed, hcovers, rfl⟩
  · rw [hok] at hf
    cases hf

theorem failsWith_unmappedKind_iff :
    FailsWith (codePrompt d table inferred) .unmappedKind ↔
      (d.screenName ≠ "" ∧ d.components ≠ []) ∧ ∃ k ∈ d.kinds, table.find? k.tag = none := by
  rw [← MappingTable.not_covers_iff]
  constructor
  · rintro ⟨f, hf, hkind⟩
    obtain ⟨hnamed, hcovers, -⟩ := eq_unmapped_of_kind hf hkind
    exact ⟨hnamed, hcovers⟩
  · rintro ⟨hnamed, hcovers⟩
    exact ⟨_, codePrompt_of_not_covers (checkDesign_eq_ok.2 hnamed) hcovers inferred, rfl⟩

end Prompt

open Prompt

/-- **How a prompt comes out.** It fails with a fault of prompts exactly when the screen has no name or
nothing on it, and else with one of unmapped kinds exactly when a kind has no entry; the latter names
these kinds with their places, in order, and no others. Else there is a prompt, which lists the modules
that the entries of the kinds need, in order and each once. -/
theorem codePrompt_outcome (d : Design) (table : MappingTable) (inferred : Option InferredInputs) :
    (FailsWith (codePrompt d table inferred) .prompt ↔ d.screenName = "" ∨ d.components = []) ∧
      (FailsWith (codePrompt d table inferred) .unmappedKind ↔
        (d.screenName ≠ "" ∧ d.components ≠ []) ∧ ∃ k ∈ d.kinds, table.find? k.tag = none) ∧
      (∀ f, codePrompt d table inferred = .error (.fault f) → f.kind = .unmappedKind →
        ∃ places : List (Nat × Kind), f = .unmapped (places.map .at) ∧
          (places.Pairwise fun p q => p.1 < q.1) ∧
          ∀ i k, (i, k) ∈ places ↔ d.kinds[i]? = some k ∧ table.find? k.tag = none) ∧
      (d.screenName ≠ "" ∧ d.components ≠ [] → (∀ k ∈ d.kinds, table.find? k.tag ≠ none) →
        ∃ (imports : List String) (instructions : List Char),
          codePrompt d table inferred = .ok (joinLines (frontLines d table (usable inferred) ++
            "REQUIRED IMPORTS:".toList ::
              (if imports = [] then "none" else String.intercalate ", " imports).toList ::
              backLines d instructions)) ∧
          imports.Pairwise (· < ·) ∧
          ∀ m, m ∈ imports ↔
            ∃ k ∈ d.kinds, ∃ entry, table.find? k.tag = some entry ∧ m ∈ entry.imports) := by
  refine ⟨failsWith_prompt_iff, failsWith_unmappedKind_iff, fun f hf hkind => ?_,
    fun hnamed hentries => ?_⟩
  · obtain ⟨-, -, rfl⟩ := eq_unmapped_of_kind hf hkind
    exact ⟨_, rfl, MappingTable.pairwise_lackingFrom table d.kinds,
      fun i k => MappingTable.mem_lackingFrom⟩
  · have hcovers : table.Covers d.kinds := fun k hk => Option.isSome_iff_ne_none.2 (hentries k hk)
    obtain ⟨imports, instructions, himports, hprompt⟩ :=
      codePrompt_of_covers (checkDesign_eq_ok.2 hnamed) hcovers inferred
    obtain ⟨listed, hlisted, hordered, hmem⟩ := MappingTable.exists_importsFor hcovers
    obtain rfl : listed = imports := by
      rw [himports] at hlisted
      exact (Except.ok.inj hlisted).symm
    refine ⟨listed, instructions, ?_, hordered, hmem⟩
    rw [hprompt, promptLines, importLine_eq]

example : codePrompt ⟨"Login", .vertical, [.heading "Login", .input "Email" "text", .text "or"], {}⟩
    [("text", .standard .text)] none =
      .error (.fault (.unmapped [.at (0, .heading), .at (1, .input)])) := rfl

end Wireframe
