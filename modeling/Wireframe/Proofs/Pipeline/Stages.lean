import Wireframe.Pipeline.CodeStages
import Wireframe.Pipeline.LayoutStages
import Wireframe.Proofs.Pipeline.Act
import Wireframe.Proofs.Pipeline.Run

/-!
# What the stages do to a context

Stages put entries, add errors and warnings and ask, and that is all: whatever a relation between
contexts says that these steps leave alone, the stages leave alone.

* `Context.AdmitsWrites` — relations that entries, warnings and errors do not break.
* `LayoutStage.keeps`, `CodeStage.keeps` — the stages of the two pipelines keep to such a relation.
-/

set_option autoImplicit false

namespace Wireframe

/-- A relation that admits what stages write into a context. -/
structure Context.AdmitsWrites (r : Context → Context → Prop) : Prop where
  put : ∀ key d, Act.Keeps r (Act.put key d)
  warn : ∀ warnings, Act.Keeps r (Act.warn warnings)
  addErrors : ∀ errors, Act.Keeps r (Act.addErrors errors)

/-- A relation that admits questions too. -/
def Context.AdmitsQuestions (r : Context → Context → Prop) : Prop :=
  ∀ answer q, Act.Keeps r (Act.ask answer q)

/-- A stage that changes a context only in a way that a relation admits, whether it passes or fails. -/
def Stage.Keeps (r : Context → Context → Prop) (s : Stage) : Prop := ∀ c, r (s.leave c) c

namespace Stage

variable {name : String} {act : Act Json} {c next : Context}

theorem execute_ofAct_of_ok {v : Json} (h : act.run c = .ok v next) :
    (ofAct name act).execute c = ⟨next, .ok v⟩ := by
  unfold ofAct
  dsimp only
  rw [h]

theorem execute_ofAct_of_error {f : Failure} (h : act.run c = .error f next) :
    (ofAct name act).execute c = ⟨next, .error f⟩ := by
  unfold ofAct
  dsimp only
  rw [h]

theorem run_of_passes_ofAct (h : (ofAct name act).failure? c = none) :
    ∃ v next, act.run c = .ok v next := by
  cases hrun : act.run c with
  | ok v next => exact ⟨v, next, rfl⟩
  | error f next =>
    rw [failure?, execute_ofAct_of_error hrun] at h
    cases h

theorem leave_ofAct (name : String) (act : Act Json) (c : Context) :
    (ofAct name act).leave c = act.left c := by
  unfold leave ofAct Act.left
  dsimp only
  cases act.run c <;> rfl

theorem keeps_ofAct {r : Context → Context → Prop} (h : act.Keeps r) : (ofAct name act).Keeps r := by
  intro c
  rw [leave_ofAct]
  exact h c

end Stage

open Stage

section Keeping

variable {r : Context → Context → Prop} [IsPreorder Context r] (h : Context.AdmitsWrites r)

include h

namespace LayoutStage

theorem keeps_buildPrompt : buildPrompt.Keeps r := by
  refine keeps_ofAct (.bind (.need _) fun entry => ?_)
  split
  · exact .bind (h.put _ _) fun _ => .pure _
  · exact .throw _

theorem keeps_validateSchema : validateSchema.Keeps r := by
  refine keeps_ofAct (.bind (.need _) fun entry => .bind (.ofExcept _) fun judged =>
    .bind (h.warn _) fun _ => ?_)
  split
  · exact .bind (h.put _ _) fun _ => .bind (.ofExcept _) fun _ => .bind (h.put _ _) fun _ => .pure _
  · exact .throw _

theorem keeps_withCanvasOf (config : ArchetypeConfig) (l : EnhancedLayout) :
    (withCanvasOf config l).Keeps r := by
  unfold withCanvasOf
  split
  · exact .pure _
  · exact .bind (.ofExcept _) fun _ => .bind (h.warn _) fun _ => .pure _

/-- The stages from a description to an enhanced layout. Only one of them asks. -/
theorem keeps {b : Backend} {s : Stage} (hs : s ∈ all b)
    (hask : s.name = "backend_call" → Context.AdmitsQuestions r) : s.Keeps r := by
  unfold all at hs
  simp only [List.mem_cons, List.not_mem_nil, or_false] at hs
  rcases hs with rfl | rfl | rfl | rfl | rfl | rfl | rfl
  · exact keeps_buildPrompt h
  · exact keeps_ofAct (.bind (.ofExcept _) fun _ => .bind (.need _) fun _ =>
      .bind (.ofExcept _) fun _ => .bind (hask rfl _ _) fun _ => .bind (h.put _ _) fun _ => .pure _)
  · exact keeps_ofAct (.bind (.need _) fun _ => .bind (.ofExcept _) fun _ =>
      .bind (.ofExcept _) fun _ => .bind (h.put _ _) fun _ => .pure _)
  · exact keeps_validateSchema h
  · exact keeps_ofAct (.bind (.need _) fun _ => .bind (.ofExcept _) fun _ =>
      .bind (.ofExcept _) fun _ => .bind (h.put _ _) fun _ => .pure _)
  · exact keeps_ofAct (.bind (.need _) fun _ => .bind (.ofExcept _) fun _ =>
      .bind (.ofExcept _) fun _ => .bind (keeps_withCanvasOf h _ _) fun _ =>
      .bind (h.warn _) fun _ => .bind (h.put _ _) fun _ => .bind (h.put _ _) fun _ => .pure _)
  · exact keeps_ofAct (.bind (.need _) fun _ => .bind (.ofExcept _) fun _ =>
      .bind (h.put _ _) fun _ => .pure _)

end LayoutStage

namespace CodeStage

theorem keeps_inferNodeInputs : inferNodeInputs.Keeps r := by
  refine keeps_ofAct (.bind (.bind (.find? _) fun _ => .pure _) fun node => ?_)
  split
  · exact .bind (.need _) fun _ => .bind (.ofExcept _) fun _ => .bind (h.put _ _) fun _ =>
      .bind (h.warn _) fun _ => .pure _
  · exact .pure _

theorem keeps_sampleCode : sampleCode.Keeps r :=
  .bind (.need _) fun _ => .bind (.find? _) fun _ => .bind (.ofExcept _) fun _ =>
    .bind (.ofExcept _) fun _ => .bind (h.put _ _) fun _ => .pure _

theorem keeps_generateCode (b : Backend) (hask : Context.AdmitsQuestions r) :
    (generateCode b).Keeps r := by
  refine keeps_ofAct (.bind (.need _) fun entry => ?_)
  split
  · exact keeps_sampleCode h
  · exact .bind (.ofExcept _) fun _ => .bind (.need _) fun _ => .bind (hask _ _) fun _ =>
      .bind (h.put _ _) fun _ => .pure _

/-- The stages from a layout to source files. Only one of them asks. -/
theorem keeps {b : Backend} {s : Stage} (hs : s ∈ all b)
    (hask : s.name = "code_generation" → Context.AdmitsQuestions r) : s.Keeps r := by
  unfold all at hs
  simp only [List.mem_cons, List.not_mem_nil, or_false] at hs
  rcases hs with rfl | rfl | rfl | rfl | rfl | rfl | rfl | rfl
  · exact keeps_ofAct (.bind (.need _) fun _ => .bind (.need _) fun _ =>
      .bind (.ofExcept _) fun _ => .bind (h.put _ _) fun _ => .pure _)
  · exact keeps_ofAct (.bind (.need _) fun _ => .bind (.ofExcept _) fun _ => .pure _)
  · exact keeps_ofAct (.bind (.need _) fun _ => .bind (.ofExcept _) fun _ =>
      .bind (.ofExcept _) fun _ => .pure _)
  · exact keeps_inferNodeInputs h
  · exact keeps_ofAct (.bind (.need _) fun _ => .bind (.ofExcept _) fun _ =>
      .bind (.ofExcept _) fun _ => .bind (.find? _) fun _ => .bind (.ofExcept _) fun _ =>
      .bind (.ofExcept _) fun _ => .bind (h.put _ _) fun _ => .pure _)
  · exact keeps_generateCode h b (hask rfl)
  · exact keeps_ofAct (.bind (.need _) fun _ => .bind (.need _) fun _ =>
      .bind (.ofExcept _) fun _ => .bind (.ofExcept _) fun _ => .bind (h.put _ _) fun _ =>
      .bind (h.put _ _) fun _ => .bind (h.addErrors _) fun _ => .bind (h.warn _) fun _ => .pure _)
  · exact keeps_ofAct (.bind (.need _) fun _ => .bind (.ofExcept _) fun _ =>
      .bind (h.put _ _) fun _ => .pure _)

end CodeStage

end Keeping

end Wireframe
