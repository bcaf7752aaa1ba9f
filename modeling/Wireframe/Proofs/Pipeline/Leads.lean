import Wireframe.Proofs.Pipeline.Stages

/-!
# Runs that are followed stage by stage

What a run comes to is followed from one context to the next: what each stage finds there, and what it
leaves behind.

* `Context.get?_put` — what a context answers for a key when another entry was put.
* `run_cons_of_leads`, `run_cons_of_error` — a run goes on behind a stage that passes, and ends at one
  that fails.
-/

set_option autoImplicit false

namespace Wireframe

/-! ## Entries -/

namespace Context

variable (c : Context) (key other : String) (d : Datum) (texts : List String)

theorem get?_put : (c.put key d).get? other = if other = key then some d else c.get? other := by
  unfold get? put
  dsimp only
  induction c.data with
  | nil =>
    by_cases h : other = key
    · simp [Data.set, h]
    · simp [Data.set, h, List.lookup_cons, beq_false_of_ne h]
  | cons entry rest ih =>
    obtain ⟨k, e⟩ := entry
    unfold Data.set
    by_cases hk : k = key
    · subst hk
      by_cases h : other = k
      · simp [h]
      · simp [h, List.lookup_cons, beq_false_of_ne h]
    · rw [if_neg hk]
      by_cases h : other = k
      · subst h
        simp [hk]
      · simp only [List.lookup_cons, beq_false_of_ne h, ih]

@[simp] theorem get?_warn : (c.warn texts).get? key = c.get? key := rfl

@[simp] theorem get?_addErrors : (c.addErrors texts).get? key = c.get? key := rfl

end Context

/-! ## Stages that pass -/

/-- A stage passes in a context and leaves another behind. -/
def Stage.Leads (s : Stage) (c next : Context) : Prop := ∃ v, s.execute c = ⟨next, .ok v⟩

theorem Stage.leads_ofAct {name : String} {act : Act Json} {c next : Context} {v : Json}
    (h : act.run c = .ok v next) : (Stage.ofAct name act).Leads c next :=
  ⟨v, execute_ofAct_of_ok h⟩

theorem Stage.Leads.leave {s : Stage} {c next : Context} (h : s.Leads c next) : s.leave c = next := by
  obtain ⟨v, hv⟩ := h
  rw [Stage.leave, hv]

theorem run_cons_of_leads {s : Stage} {c next : Context} (h : s.Leads c next) (rest : List Stage) :
    run (s :: rest) c = (run rest next).after s.name := by
  obtain ⟨v, hv⟩ := h
  simp only [run, hv]

theorem run_cons_of_error {s : Stage} {c next : Context} {f : Failure}
    (h : s.execute c = ⟨next, .error f⟩) (rest : List Stage) :
    run (s :: rest) c = (s.onError f next).halt s.name f := by
  simp only [run, h]

/-- A run that a failure stops has an error. -/
theorem errors_run_cons_ne_nil {s : Stage} {c next : Context} {f : Failure}
    (h : s.execute c = ⟨next, .error f⟩) (rest : List Stage) : (run (s :: rest) c).errors ≠ [] := by
  rw [run_cons_of_error h]
  exact List.append_ne_nil_of_right_ne_nil _ (List.cons_ne_nil _ _)

end Wireframe
