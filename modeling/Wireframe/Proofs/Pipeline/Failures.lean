import Wireframe.Proofs.Layout.Validation
import Wireframe.Proofs.Pipeline.Stages

/-!
# What failures leave behind

No failure is undone, and yet a stage that fails leaves the entries, the errors and the warnings of
the context alone: whatever can fail in it comes ahead of what it changes. Questions that reached a
backend stay recorded.

One stage is different. `validateSchema` keeps the warnings of a layout that it refuses, and it puts
an entry ahead of reading the layout, which can fail; but it reads what has been judged valid, and
that never fails.

* `failed_stage_changes_nothing` — the stages of the two pipelines in any context.
* `halted_run_keeps_what_passed` — what a run that stops early leaves behind.
-/

set_option autoImplicit false

namespace Wireframe

/-- A context with the same entries, errors and warnings as another. -/
structure Context.SameContent (d c : Context) : Prop where
  data : d.data = c.data
  errors : d.errors = c.errors
  warnings : d.warnings = c.warnings

instance : IsPreorder Context Context.SameContent where
  refl _ := ⟨rfl, rfl, rfl⟩
  trans _ _ _ h h' :=
    ⟨h.data.trans h'.data, h.errors.trans h'.errors, h.warnings.trans h'.warnings⟩

/-- The layout of a context is refused with a judgement. -/
def Context.Refuses (c : Context) (judged : ValidationResult) : Prop :=
  ∃ entry, c.get? "raw_layout" = some entry ∧ validateLayout entry.toJson = .ok judged ∧
    judged.valid = false

/-- A stage that leaves the content of a context alone where it fails. -/
def Stage.FailsCleanly (s : Stage) : Prop :=
  ∀ c f, (s.execute c).result = .error f → (s.execute c).context.SameContent c

namespace Context.SameContent

theorem ask (answer : Question → Except Failure String) (q : Question) :
    Act.Keeps SameContent (Act.ask answer q) :=
  .bind (.ofExcept _) fun _ => .bind (fun _ => ⟨rfl, rfl, rfl⟩) fun _ => .bind (.ofExcept _) fun _ =>
    .ofExcept _

end Context.SameContent

namespace Stage

variable {name : String} {act : Act Json}

theorem failsCleanly_ofAct (h : act.FailsWithin Context.SameContent) :
    (ofAct name act).FailsCleanly := by
  intro c f hf
  cases hrun : act.run c with
  | ok v next => rw [execute_ofAct_of_ok hrun] at hf; cases hf
  | error e left =>
    rw [execute_ofAct_of_error hrun]
    exact h c e left hrun

end Stage

open Stage

namespace LayoutStage

theorem failsCleanly_buildPrompt : buildPrompt.FailsCleanly := by
  refine failsCleanly_ofAct (.bind (.need _) fun entry => ?_)
  split
  · exact .ofSure (.bind (.put _ _) fun _ => .pure _)
  · exact .ofKeeps (.throw _)

theorem failsWithin_withCanvasOf (config : ArchetypeConfig) (l : EnhancedLayout) :
    (withCanvasOf config l).FailsWithin Context.SameContent := by
  unfold withCanvasOf
  split
  · exact .ofSure (.pure _)
  · exact .bind (.ofExcept _) fun _ => .ofSure (.bind (.warn _) fun _ => .pure _)

/-! ## The stage that judges a layout -/

/-- A layout that is refused leaves the warnings of the judgement behind, and nothing else. -/
theorem execute_validateSchema_of_refuses {c : Context} {judged : ValidationResult}
    (h : c.Refuses judged) : (validateSchema.execute c).context = c.warn judged.warnings := by
  obtain ⟨entry, hentry, hjudged, hinvalid⟩ := h
  have hrun : validateSchema.execute c = ⟨c.warn judged.warnings, .error (.fault (.schema
      "Layout JSON failed schema validation" judged.errors judged.warnings entry.toJson))⟩ :=
    execute_ofAct_of_error (by
      simp only [EStateM.run_bind, Act.run_need_of_get? hentry, hjudged, Act.run_ofExcept_ok,
        Act.run_warn, hinvalid, Bool.false_eq_true, if_false, Act.run_fail])
  rw [hrun]

/-- A layout that is judged valid is read, so that nothing fails behind the judgement. -/
theorem validateSchema_passes {c : Context} {entry : Datum} {judged : ValidationResult}
    (hentry : c.get? "raw_layout" = some entry) (hjudged : validateLayout entry.toJson = .ok judged)
    (hvalid : judged.valid = true) : ∃ v, (validateSchema.execute c).result = .ok v := by
  obtain ⟨d, hd⟩ := exists_mirrors_of_valid hjudged hvalid
  have hread : LayoutDocument.ofWire entry.toJson = .ok d := ofWire_of_mirrors hd
  have hrun : validateSchema.execute c =
      ⟨((c.warn judged.warnings).put "validation_valid" (.given (.bool true))).put "layout"
        (.layout d), .ok (.obj [("warnings", .ofNat judged.warnings.length)])⟩ :=
    execute_ofAct_of_ok (by
      simp only [EStateM.run_bind, Act.run_need_of_get? hentry, hjudged, Act.run_ofExcept_ok,
        Act.run_warn, hvalid, if_true, Act.run_put, hread, EStateM.run_pure])
  exact ⟨_, congrArg Outcome.result hrun⟩

/-- Where no layout is refused, the stage fails without having changed anything. -/
theorem validateSchema_sameContent {c : Context} {f : Failure}
    (hf : (validateSchema.execute c).result = .error f) (h : ∀ judged, ¬c.Refuses judged) :
    (validateSchema.execute c).context.SameContent c := by
  cases hentry : c.get? "raw_layout" with
  | none =>
    unfold validateSchema
    rw [execute_ofAct_of_error (Act.run_bind_of_error (Act.run_need_of_none hentry))]
    exact refl_of _ c
  | some entry =>
    cases hjudged : validateLayout entry.toJson with
    | error e =>
      have hrun : validateSchema.execute c = ⟨c, .error e⟩ :=
        execute_ofAct_of_error (by
          simp only [EStateM.run_bind, Act.run_need_of_get? hentry, hjudged,
            Act.run_ofExcept_error])
      rw [hrun]
      exact refl_of _ c
    | ok judged =>
      cases hvalid : judged.valid with
      | false => exact absurd ⟨entry, hentry, hjudged, hvalid⟩ (h judged)
      | true =>
        obtain ⟨v, hv⟩ := validateSchema_passes hentry hjudged hvalid
        rw [hv] at hf
        cases hf

/-! ## The other stages -/

/-- Every stage from a description to an enhanced layout but the one that judges it fails cleanly. -/
theorem failsCleanly {b : Backend} {s : Stage} (h : s ∈ all b) (hs : s ≠ validateSchema) :
    s.FailsCleanly := by
  unfold all at h
  simp only [List.mem_cons, List.not_mem_nil, or_false] at h
  rcases h with rfl | rfl | rfl | rfl | rfl | rfl | rfl
  · exact failsCleanly_buildPrompt
  · exact failsCleanly_ofAct (.bind (.ofExcept _) fun _ => .bind (.need _) fun _ =>
      .bind (.ofExcept _) fun _ => .bind (.ask _ _) fun _ =>
      .ofSure (.bind (.put _ _) fun _ => .pure _))
  · exact failsCleanly_ofAct (.bind (.need _) fun _ => .bind (.ofExcept _) fun _ =>
      .bind (.ofExcept _) fun _ => .ofSure (.bind (.put _ _) fun _ => .pure _))
  · exact absurd rfl hs
  · exact failsCleanly_ofAct (.bind (.need _) fun _ => .bind (.ofExcept _) fun _ =>
      .bind (.ofExcept _) fun _ => .ofSure (.bind (.put _ _) fun _ => .pure _))
  · exact failsCleanly_ofAct (.bind (.need _) fun _ => .bind (.ofExcept _) fun _ =>
      .bind (.ofExcept _) fun _ => .bindSure (failsWithin_withCanvasOf _ _) fun _ =>
      .bind (.warn _) fun _ => .bind (.put _ _) fun _ => .bind (.put _ _) fun _ => .pure _)
  · exact failsCleanly_ofAct (.bind (.need _) fun _ => .bind (.ofExcept _) fun _ =>
      .ofSure (.bind (.put _ _) fun _ => .pure _))

end LayoutStage

namespace CodeStage

theorem failsCleanly_inferNodeInputs : inferNodeInputs.FailsCleanly := by
  refine failsCleanly_ofAct (.bind (.bind (.find? _) fun _ => .pure _) fun node => ?_)
  split
  · exact .bind (.need _) fun _ => .bind (.ofExcept _) fun _ =>
      .ofSure (.bind (.put _ _) fun _ => .bind (.warn _) fun _ => .pure _)
  · exact .ofSure (.pure _)

theorem failsWithin_sampleCode : sampleCode.FailsWithin Context.SameContent :=
  .bind (.need _) fun _ => .bind (.find? _) fun _ => .bind (.ofExcept _) fun _ =>
    .bind (.ofExcept _) fun _ => .ofSure (.bind (.put _ _) fun _ => .pure _)

theorem failsWithin_askForCode (b : Backend) : (askForCode b).FailsWithin Context.SameContent :=
  .bind (.ofExcept _) fun _ => .bind (.need _) fun _ => .bind (.ask _ _) fun _ =>
    .ofSure (.bind (.put _ _) fun _ => .pure _)

theorem failsCleanly_generateCode (b : Backend) : (generateCode b).FailsCleanly := by
  refine failsCleanly_ofAct (.bind (.need _) fun entry => ?_)
  split
  · exact failsWithin_sampleCode
  · exact failsWithin_askForCode b

/-- The stages from a layout to source files fail cleanly. -/
theorem failsCleanly {b : Backend} {s : Stage} (h : s ∈ all b) : s.FailsCleanly := by
  unfold all at h
  simp only [List.mem_cons, List.not_mem_nil, or_false] at h
  rcases h with rfl | rfl | rfl | rfl | rfl | rfl | rfl | rfl
  · exact failsCleanly_ofAct (.bind (.need _) fun _ => .bind (.need _) fun _ =>
      .bind (.ofExcept _) fun _ => .ofSure (.bind (.put _ _) fun _ => .pure _))
  · exact failsCleanly_ofAct (.bind (.need _) fun _ => .bind (.ofExcept _) fun _ =>
      .ofSure (.pure _))
  · exact failsCleanly_ofAct (.bind (.need _) fun _ => .bind (.ofExcept _) fun _ =>
      .bind (.ofExcept _) fun _ => .ofSure (.pure _))
  · exact failsCleanly_inferNodeInputs
  · exact failsCleanly_ofAct (.bind (.need _) fun _ => .bind (.ofExcept _) fun _ =>
      .bind (.ofExcept _) fun _ => .bind (.find? _) fun _ => .bind (.ofExcept _) fun _ =>
      .bind (.ofExcept _) fun _ => .ofSure (.bind (.put _ _) fun _ => .pure _))
  · exact failsCleanly_generateCode b
  · exact failsCleanly_ofAct (.bind (.need _) fun _ => .bind (.need _) fun _ =>
      .bind (.ofExcept _) fun _ => .bind (.ofExcept _) fun _ => .ofSure (.bind (.put _ _) fun _ =>
      .bind (.put _ _) fun _ => .bind (.addErrors _) fun _ => .bind (.warn _) fun _ => .pure _))
  · exact failsCleanly_ofAct (.bind (.need _) fun _ => .bind (.ofExcept _) fun _ =>
      .ofSure (.bind (.put _ _) fun _ => .pure _))

end CodeStage

/-! ## The stages of both pipelines -/

/-- A stage that fails has refused a layout and kept the warnings of the judgement, or it has changed
nothing. -/
theorem refuses_or_sameContent {b : Backend} {s : Stage}
    (hs : s ∈ LayoutStage.all b ∨ s ∈ CodeStage.all b) {c : Context} {f : Failure}
    (hf : (s.execute c).result = .error f) :
    (∃ judged, s = LayoutStage.validateSchema ∧ c.Refuses judged ∧
        (s.execute c).context = c.warn judged.warnings) ∨
      (s = LayoutStage.validateSchema → ∀ judged, ¬c.Refuses judged) ∧
        (s.execute c).context.SameContent c := by
  by_cases hschema : s = LayoutStage.validateSchema
  · subst hschema
    by_cases hrefuses : ∃ judged, c.Refuses judged
    · obtain ⟨judged, hjudged⟩ := hrefuses
      exact .inl ⟨judged, rfl, hjudged, LayoutStage.execute_validateSchema_of_refuses hjudged⟩
    · have hnone : ∀ judged, ¬c.Refuses judged := fun judged h => hrefuses ⟨judged, h⟩
      exact .inr ⟨fun _ => hnone, LayoutStage.validateSchema_sameContent hf hnone⟩
  · refine .inr ⟨fun h => absurd h hschema, ?_⟩
    rcases hs with hlayout | hcode
    · exact LayoutStage.failsCleanly hlayout hschema c f hf
    · exact CodeStage.failsCleanly hcode c f hf

/-- No stage does anything about its own failure. -/
theorem onError_eq {b : Backend} {s : Stage} (hs : s ∈ LayoutStage.all b ∨ s ∈ CodeStage.all b)
    (f : Failure) (c : Context) : s.onError f c = c := by
  simp only [LayoutStage.all, CodeStage.all, List.mem_cons, List.not_mem_nil, or_false] at hs
  rcases hs with (rfl | rfl | rfl | rfl | rfl | rfl | rfl) |
    (rfl | rfl | rfl | rfl | rfl | rfl | rfl | rfl) <;> rfl

/-- A run that stops early has the entries that the passing stages left, and one error more. -/
theorem halted_run_keeps_what_passed {b : Backend} {before after : List Stage} {s : Stage}
    (hs : s ∈ LayoutStage.all b ∨ s ∈ CodeStage.all b) {c : Context} {f : Failure}
    (hpasses : Passes before c) (hf : (s.execute (effects before c)).result = .error f) :
    (run (before ++ s :: after) c).data = (effects before c).data ∧
      (run (before ++ s :: after) c).errors =
        (effects before c).errors ++ [s!"{s.name}: {f.message}"] := by
  have hfails : s.failure? (effects before c) = some f := by
    unfold Stage.failure?
    rw [hf]
  have hleave : s.leave (effects before c) = (s.execute (effects before c)).context := by
    unfold Stage.leave
    rw [hf]
    exact onError_eq hs f _
  rw [run_append_of_passes hpasses, run_cons_of_failure hfails, Ending.toContext_behind, hleave]
  rcases refuses_or_sameContent hs hf with ⟨judged, -, -, hleft⟩ | ⟨-, hsame⟩
  · rw [hleft]
    exact ⟨rfl, rfl⟩
  · exact ⟨hsame.data, congrArg (· ++ _) hsame.errors⟩

/-- **A stage that fails changes nothing.** In every context, whatever its entries are and however
it came about, a failing stage of the two pipelines leaves the entries and the errors as they were.
It leaves the warnings as they were too, unless it refuses a layout: then the warnings of the
judgement are added, and only these. -/
theorem failed_stage_changes_nothing {b : Backend} {s : Stage}
    (hs : s ∈ LayoutStage.all b ∨ s ∈ CodeStage.all b) {c : Context} {f : Failure}
    (hf : (s.execute c).result = .error f) :
    (s.execute c).context.data = c.data ∧ (s.execute c).context.errors = c.errors ∧
      (∀ judged, s = LayoutStage.validateSchema → c.Refuses judged →
        (s.execute c).context.warnings = c.warnings ++ judged.warnings) ∧
      ((s = LayoutStage.validateSchema → ∀ judged, ¬c.Refuses judged) →
        (s.execute c).context.warnings = c.warnings) := by
  rcases refuses_or_sameContent hs hf with ⟨judged, hschema, hjudged, hleft⟩ | ⟨hnone, hsame⟩
  · refine ⟨by rw [hleft]; rfl, by rw [hleft]; rfl, ?_, fun h => absurd hjudged (h hschema judged)⟩
    rintro other rfl hother
    rw [LayoutStage.execute_validateSchema_of_refuses hother]
    rfl
  · exact ⟨hsame.data, hsame.errors, fun judged hschema h => absurd h (hnone hschema judged),
      fun _ => hsame.warnings⟩

/-- A context with an empty object for a layout. -/
def bareContext : Context := .ofFields [("raw_layout", .obj [])]

/-- The judgement on an empty object. -/
def bareJudgement : ValidationResult where
  valid := false
  errors := requiredFields.map ("Missing required field: " ++ ·)
  warnings := ["Missing canvas_size, archetype default will be used"]

theorem bareContext_refuses : bareContext.Refuses bareJudgement := ⟨.given (.obj []), rfl, rfl, rfl⟩

/-- The refusal of an empty object keeps its warning. -/
theorem bareContext_keeps_warning :
    ∃ f, (LayoutStage.validateSchema.execute bareContext).result = .error f ∧
      (LayoutStage.validateSchema.execute bareContext).context.data = bareContext.data ∧
      (LayoutStage.validateSchema.execute bareContext).context.errors = [] ∧
      (LayoutStage.validateSchema.execute bareContext).context.warnings = bareJudgement.warnings := by
  have hf : (LayoutStage.validateSchema.execute bareContext).result =
    .error (.fault (.schema "Layout JSON failed schema validation" bareJudgement.errors
      bareJudgement.warnings (.obj []))) := rfl
  obtain ⟨hdata, herrors, hwarnings, -⟩ :=
    failed_stage_changes_nothing (b := .unconfigured) (.inl (by simp [LayoutStage.all])) hf
  exact ⟨_, hf, hdata, herrors, hwarnings _ rfl bareContext_refuses⟩

end Wireframe
