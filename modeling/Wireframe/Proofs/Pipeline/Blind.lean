import Wireframe.Proofs.Pipeline.Leads

/-!
# Entries that a run does not look at

Stages that do not look at an entry do the same whatever it is. Two contexts that agree but for the
entry are left in agreement by them, and what they come to is the same.

* `Act.Blind` — steps that do not look at an entry, closed under doing one thing after another.
* `run_agreeBut` — runs of such stages.
* `CodeStage.blind_behind_convertLayout` — only the first stage towards code looks at the layout.
-/

set_option autoImplicit false

namespace Wireframe

/-- Contexts that agree in everything but the entry of a key. -/
structure Context.AgreeBut (key : String) (c c' : Context) : Prop where
  entries : ∀ other, other ≠ key → c.get? other = c'.get? other
  errors : c.errors = c'.errors
  warnings : c.warnings = c'.warnings
  asked : c.asked = c'.asked

/-- Endings with the same record, whose contexts agree in everything but the entry of a key. -/
structure Ending.AgreeBut (key : String) (e e' : Ending) : Prop where
  context : e.toContext.AgreeBut key e'.toContext
  ran : e.ran = e'.ran
  failedStage : e.failedStage = e'.failedStage
  errorDetail : e.errorDetail = e'.errorDetail

namespace Context.AgreeBut

variable {key : String} {c c' : Context}

theorem put (h : c.AgreeBut key c') (other : String) (d : Datum) :
    (c.put other d).AgreeBut key (c'.put other d) where
  entries k hk := by rw [get?_put, get?_put, h.entries k hk]
  errors := h.errors
  warnings := h.warnings
  asked := h.asked

theorem addErrors (h : c.AgreeBut key c') (errors : List String) :
    (c.addErrors errors).AgreeBut key (c'.addErrors errors) :=
  ⟨h.entries, congrArg (· ++ errors) h.errors, h.warnings, h.asked⟩

theorem halt (h : c.AgreeBut key c') (name : String) (f : Failure) :
    (c.halt name f).AgreeBut key (c'.halt name f) :=
  ⟨h.addErrors _, rfl, rfl, rfl⟩

end Context.AgreeBut

theorem Ending.AgreeBut.after {key : String} {e e' : Ending} (h : e.AgreeBut key e') (name : String) :
    (e.after name).AgreeBut key (e'.after name) :=
  ⟨h.context, by unfold Ending.after; rw [h.ran], h.failedStage, h.errorDetail⟩

namespace Act

/-- Results that agree but for the entry of a key in the contexts left behind. -/
inductive SameResult {α : Type} (key : String) :
    EStateM.Result Failure Context α → EStateM.Result Failure Context α → Prop where
  | ok (a : α) {c c' : Context} (h : c.AgreeBut key c') : SameResult key (.ok a c) (.ok a c')
  | error (f : Failure) {c c' : Context} (h : c.AgreeBut key c') :
      SameResult key (.error f c) (.error f c')

/-- Steps that do not look at the entry of a key. -/
def Blind {α : Type} (key : String) (x : Act α) : Prop :=
  ∀ c c', Context.AgreeBut key c c' → SameResult key (x.run c) (x.run c')

namespace Blind

variable {α β : Type} {key other : String}

theorem bind {x : Act α} {g : α → Act β} (hx : Blind key x) (hg : ∀ a, Blind key (g a)) :
    Blind key (x >>= g) := by
  intro c c' h
  have hfirst := hx c c' h
  rw [EStateM.run_bind, EStateM.run_bind]
  generalize x.run c = r at hfirst ⊢
  generalize x.run c' = r' at hfirst ⊢
  cases hfirst with
  | ok a hnext => exact hg a _ _ hnext
  | error f hleft => exact .error f hleft

theorem pure (a : α) : Blind key (pure a : Act α) := fun _ _ h => .ok a h

theorem throw (f : Failure) : Blind key (throw f : Act α) := fun _ _ h => .error f h

theorem ofExcept (e : Except Failure α) : Blind key (liftM e : Act α) := by
  cases e with
  | ok a => exact pure a
  | error f => exact throw f

theorem find? (h : other ≠ key) : Blind key (find? other) := by
  intro c c' hagree
  rw [run_find?, run_find?, hagree.entries other h]
  exact .ok _ hagree

theorem need (h : other ≠ key) : Blind key (need other) := by
  intro c c' hagree
  have hneed : c.need other = c'.need other := by
    unfold Context.need
    rw [hagree.entries other h]
  rw [run_need, run_need, hneed]
  exact ofExcept _ c c' hagree

theorem put (other : String) (d : Datum) : Blind key (put other d) :=
  fun _ _ h => .ok () (h.put other d)

theorem warn (warnings : List String) : Blind key (warn warnings) := fun _ _ h =>
  .ok () ⟨h.entries, h.errors, congrArg (· ++ warnings) h.warnings, h.asked⟩

theorem addErrors (errors : List String) : Blind key (addErrors errors) :=
  fun _ _ h => .ok () (h.addErrors errors)

theorem ask (answer : Question → Except Failure String) (q : Question) :
    Blind key (ask answer q) := by
  refine bind (ofExcept _) fun record => bind (fun c c' h => ?_) fun _ => bind (ofExcept _) fun _ =>
    ofExcept _
  exact .ok () ⟨h.entries, h.errors, h.warnings, congrArg (· ++ [record]) h.asked⟩

end Blind

end Act

/-! ## Stages and runs -/

/-- A stage that does not look at the entry of a key. -/
def Stage.Blind (key : String) (s : Stage) : Prop := ∀ c c', Context.AgreeBut key c c' →
  (s.leave c).AgreeBut key (s.leave c') ∧ s.failure? c = s.failure? c'

theorem Stage.blind_ofAct {key name : String} {act : Act Json} (h : act.Blind key) :
    (ofAct name act).Blind key := by
  intro c c' hagree
  have hact := h c c' hagree
  unfold leave failure? ofAct
  dsimp only
  generalize act.run c = r at hact ⊢
  generalize act.run c' = r' at hact ⊢
  cases hact with
  | ok v hnext => exact ⟨hnext, rfl⟩
  | error f hleft => exact ⟨hleft, rfl⟩

/-- **Runs of stages that do not look at an entry agree but for it.** -/
theorem run_agreeBut {key : String} {stages : List Stage} (hstages : ∀ s ∈ stages, s.Blind key)
    {c c' : Context} (h : c.AgreeBut key c') : (run stages c).AgreeBut key (run stages c') := by
  induction stages generalizing c c' with
  | nil => exact ⟨h, rfl, rfl, rfl⟩
  | cons s rest ih =>
    obtain ⟨hs, hrest⟩ := List.forall_mem_cons.1 hstages
    obtain ⟨hcontext, hfailure⟩ := hs c c' h
    cases hf : s.failure? c' with
    | none =>
      rw [run_cons_of_pass (hfailure.trans hf), run_cons_of_pass hf]
      exact (ih hrest hcontext).after s.name
    | some f =>
      rw [run_cons_of_failure (hfailure.trans hf), run_cons_of_failure hf]
      exact hcontext.halt s.name f

/-! ## The stages behind the design -/

namespace CodeStage

open Stage

theorem blind_inferNodeInputs : inferNodeInputs.Blind "layout_document" := by
  refine blind_ofAct (.bind (.bind (.find? (by decide)) fun _ => .pure _) fun node => ?_)
  split
  · exact .bind (.need (by decide)) fun _ => .bind (.ofExcept _) fun _ => .bind (.put _ _) fun _ =>
      .bind (.warn _) fun _ => .pure _
  · exact .pure _

theorem blind_generateCode (b : Backend) : (generateCode b).Blind "layout_document" := by
  refine blind_ofAct (.bind (.need (by decide)) fun entry => ?_)
  split
  · exact .bind (.need (by decide)) fun _ => .bind (.find? (by decide)) fun _ =>
      .bind (.ofExcept _) fun _ => .bind (.ofExcept _) fun _ => .bind (.put _ _) fun _ => .pure _
  · exact .bind (.ofExcept _) fun _ => .bind (.need (by decide)) fun _ => .bind (.ask _ _) fun _ =>
      .bind (.put _ _) fun _ => .pure _

/-- The stages behind the first look at the design and no longer at the layout. -/
theorem blind_behind_convertLayout {b : Backend} {s : Stage} (h : s ∈ (all b).tail) :
    s.Blind "layout_document" := by
  unfold all at h
  simp only [List.tail_cons, List.mem_cons, List.not_mem_nil, or_false] at h
  rcases h with rfl | rfl | rfl | rfl | rfl | rfl | rfl
  · exact blind_ofAct (.bind (.need (by decide)) fun _ => .bind (.ofExcept _) fun _ => .pure _)
  · exact blind_ofAct (.bind (.need (by decide)) fun _ => .bind (.ofExcept _) fun _ =>
      .bind (.ofExcept _) fun _ => .pure _)
  · exact blind_inferNodeInputs
  · exact blind_ofAct (.bind (.need (by decide)) fun _ => .bind (.ofExcept _) fun _ =>
      .bind (.ofExcept _) fun _ => .bind (.find? (by decide)) fun _ => .bind (.ofExcept _) fun _ =>
      .bind (.ofExcept _) fun _ => .bind (.put _ _) fun _ => .pure _)
  · exact blind_generateCode b
  · exact blind_ofAct (.bind (.need (by decide)) fun _ => .bind (.need (by decide)) fun _ =>
      .bind (.ofExcept _) fun _ => .bind (.ofExcept _) fun _ => .bind (.put _ _) fun _ =>
      .bind (.put _ _) fun _ => .bind (.addErrors _) fun _ => .bind (.warn _) fun _ => .pure _)
  · exact blind_ofAct (.bind (.need (by decide)) fun _ => .bind (.ofExcept _) fun _ =>
      .bind (.put _ _) fun _ => .pure _)

end CodeStage

end Wireframe
