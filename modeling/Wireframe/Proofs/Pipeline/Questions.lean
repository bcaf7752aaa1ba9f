import Wireframe.Proofs.Pipeline.Handover

/-!
# The questions of a run

A run puts one question to get a layout and at most one to get code, whatever the backend says to them:
nothing is asked twice, and a failure asks nothing.

* `Context.SameQuestions`, `asked_run_cons` — only the stage that asks adds to the questions of a run.
* `CodeOrder.questions`, `ScreenOrder.followUps` — what there is to ask for an order.
* `Puts` — a run puts these questions, and a backend counts for the run by its answers to them alone.
* `backend_is_asked_once` — the questions of the three kinds of runs.
-/

set_option autoImplicit false

namespace Wireframe

variable {answer : Question → Except Failure String} {q : Question} {record : QuestionRecord}

/-! ## Stages that do not ask -/

/-- A context with the same questions as another. -/
def Context.SameQuestions (d c : Context) : Prop := d.asked = c.asked

instance : IsPreorder Context Context.SameQuestions where
  refl _ := rfl
  trans _ _ _ h h' := Eq.trans h h'

theorem Context.SameQuestions.admitsWrites : Context.AdmitsWrites Context.SameQuestions where
  put _ _ _ := rfl
  warn _ _ := rfl
  addErrors _ _ := rfl

/-- On the way to a layout only one stage asks. -/
theorem LayoutStage.sameQuestions {b : Backend} {s : Stage} (hs : s ∈ all b)
    (hname : s.name ≠ "backend_call") : s.Keeps Context.SameQuestions :=
  keeps Context.SameQuestions.admitsWrites hs fun h => absurd h hname

/-- On the way to code only one stage asks. -/
theorem CodeStage.sameQuestions {b : Backend} {s : Stage} (hs : s ∈ all b)
    (hname : s.name ≠ "code_generation") : s.Keeps Context.SameQuestions :=
  keeps Context.SameQuestions.admitsWrites hs fun h => absurd h hname

theorem asked_run {stages : List Stage} (h : ∀ s ∈ stages, s.Keeps Context.SameQuestions) (c : Context) :
    (run stages c).asked = c.asked := by
  induction stages generalizing c with
  | nil => rfl
  | cons s rest ih =>
    obtain ⟨hs, hrest⟩ := List.forall_mem_cons.1 h
    cases hf : s.failure? c with
    | none =>
      rw [run_cons_of_pass hf]
      exact (ih hrest _).trans (hs c)
    | some f =>
      rw [run_cons_of_failure hf]
      exact hs c

/-- Behind the stage that asks, a run asks nothing, also when the stage fails. -/
theorem asked_run_cons {s : Stage} {rest : List Stage}
    (h : ∀ s ∈ rest, s.Keeps Context.SameQuestions) (c : Context) :
    (run (s :: rest) c).asked = (s.leave c).asked := by
  cases hf : s.failure? c with
  | none =>
    rw [run_cons_of_pass hf]
    exact asked_run h _
  | some f =>
    rw [run_cons_of_failure hf]
    rfl

/-! ## Asking -/

namespace Act

variable {α β : Type} {x : Act α} {g : α → Act β} {c next : Context}

theorem ask_congr {answer' : Question → Except Failure String} (h : answer' q = answer q) :
    ask answer' q = ask answer q := by
  unfold ask
  rw [h]

/-- A question that is put is on record, whatever becomes of it. -/
theorem asked_left_ask (hq : q.record = .ok record) {g : Answer → Act β}
    (hg : ∀ a, (g a).Keeps Context.SameQuestions) (c : Context) :
    ((ask answer q >>= g).left c).asked = c.asked ++ [record] := by
  have hrun : (ask answer q).run c = _ := run_ask hq c
  cases ha : answer q >>= Answer.ofContent with
  | ok a =>
    rw [ha] at hrun
    have hafter := hg a (c.recordQuestion record)
    unfold left at hafter ⊢
    rw [run_bind_of_ok hrun]
    exact hafter
  | error f =>
    rw [ha] at hrun
    unfold left
    rw [run_bind_of_error hrun]
    rfl

end Act

namespace Stage

variable {name : String} {act act' : Act Json} {c : Context}

theorem run_ofAct_congr (h : act.run c = act'.run c) (rest : List Stage) :
    run (ofAct name act :: rest) c = run (ofAct name act' :: rest) c := by
  simp only [run, ofAct, h]

/-- A stage that asks, and that keeps an answer, if there is one. -/
def asking (name : String) (answer : Question → Except Failure String) (q : Question)
    (keep : Answer → Act Json) : Stage := ofAct name (Act.ask answer q >>= keep)

theorem asked_asking (hq : q.record = .ok record) {keep : Answer → Act Json}
    (hkeep : ∀ a, (keep a).Keeps Context.SameQuestions) (c : Context) :
    ((asking name answer q keep).leave c).asked = c.asked ++ [record] := by
  rw [asking, leave_ofAct]
  exact Act.asked_left_ask hq hkeep c

end Stage

open Stage

def LayoutStage.keepAnswer (a : Answer) : Act Json := do
  Act.put "llm_response" (.answer a)
  return .obj [("characters", .ofNat a.content.length), ("tokens", .null)]

def CodeStage.keepAnswer (a : Answer) : Act Json := do
  Act.put "model_text" (.given (.str a.content))
  return .obj [("mode", .str "backend"), ("characters", .ofNat a.content.length)]

/-- Once the messages are there, they are asked with. -/
theorem LayoutStage.run_callBackend {c : Context} {description : String}
    (hmessages : c.get? "messages" = some (.messages (layoutQuestion description).messages))
    (rest : List Stage) : run (callBackend (.answering answer) :: rest) c =
      run (asking "backend_call" answer (layoutQuestion description) keepAnswer :: rest) c := by
  refine run_ofAct_congr ?_ rest
  have hprovider : (liftM (Backend.provider (.answering answer)) :
      Act (Question → Except Failure String)).run c = .ok answer c := rfl
  rw [Act.run_bind_of_ok hprovider, Act.run_bind_of_ok (Act.run_need_of_get? hmessages)]
  rfl

/-- The question that a run for code puts about a prompt. -/
def codeQuestion (prompt : List Char) : Question :=
  ⟨[.ofTexts "user" (String.ofList prompt)], Settings.standard.minResponseLength⟩

/-- Once the prompt is there, it is asked with, unless a sample reply is to be written. -/
theorem CodeStage.run_generateCode {c : Context} {prompt : List Char}
    (hsample : c.get? "test_mode" = some (.given (.bool false)))
    (hprompt : c.get? "prompt" = some (.given (.str (String.ofList prompt)))) (rest : List Stage) :
    run (generateCode (.answering answer) :: rest) c =
      run (asking "code_generation" answer (codeQuestion prompt) keepAnswer :: rest) c := by
  refine run_ofAct_congr ?_ rest
  have hprovider : (liftM (Backend.provider (.answering answer)) :
      Act (Question → Except Failure String)).run c = .ok answer c := rfl
  rw [Act.run_bind_of_ok (Act.run_need_of_get? hsample)]
  show (askForCode (.answering answer)).run c = _
  rw [askForCode, Act.run_bind_of_ok hprovider, Act.run_bind_of_ok (Act.run_need_of_get? hprompt)]
  rfl

/-! ## Questions of a run -/

/-- A run, as a function of what its backend says, puts just these questions to the backend: they are
what is on record, and a backend that gives the same answers to them leads to the same run. -/
structure Puts {α : Type} (made : (Question → Except Failure String) → α)
    (asked : α → List QuestionRecord) (answer : Question → Except Failure String)
    (questions : List Question) : Prop where
  recorded : questions.mapM (·.record) = .ok (asked (made answer))
  suffice : ∀ answer', (∀ q ∈ questions, answer' q = answer q) → made answer' = made answer

variable {α : Type} {made : (Question → Except Failure String) → α} {asked : α → List QuestionRecord}

theorem length_of_mapM_eq_ok {α β : Type} {f : α → Except Failure β} {xs : List α} {ys : List β}
    (h : xs.mapM f = .ok ys) : ys.length = xs.length := by
  induction xs generalizing ys with
  | nil =>
    cases h
    rfl
  | cons x rest ih =>
    rw [List.mapM_cons] at h
    cases hx : f x with
    | error e =>
      rw [hx] at h
      cases h
    | ok y =>
      cases hrest : rest.mapM f with
      | error e =>
        rw [hx, hrest] at h
        cases h
      | ok zs =>
        rw [hx, hrest] at h
        cases h
        exact congrArg (· + 1) (ih hrest)

/-- There is one record for each question. -/
theorem Puts.length_asked {questions : List Question} (h : Puts made asked answer questions) :
    (asked (made answer)).length = questions.length := length_of_mapM_eq_ok h.recorded

/-- A run that does without the backend puts no question. -/
theorem Puts.nil {r : α} (h : ∀ answer, made answer = r) (hasked : asked r = []) :
    Puts made asked answer [] where
  recorded := by
    rw [h answer, hasked]
    rfl
  suffice answer' _ := (h answer').trans (h answer).symm

/-- A run whose first stage asks, with none behind it that does, puts one question. -/
theorem Puts.singleton {name : String} {keep : Answer → Act Json} {rest : List Stage} {c : Context}
    (sum : Ending → α) (hq : q.record = .ok record)
    (hkeep : ∀ a, (keep a).Keeps Context.SameQuestions)
    (hrest : ∀ s ∈ rest, s.Keeps Context.SameQuestions) (hc : c.asked = [])
    (hasked : ∀ e, asked (sum e) = e.asked)
    (hmade : ∀ answer, made answer = sum (run (asking name answer q keep :: rest) c)) :
    Puts made asked answer [q] where
  recorded := by
    rw [hmade answer, hasked, asked_run_cons hrest, asked_asking hq hkeep, hc, List.mapM_cons, hq]
    rfl
  suffice answer' h := by
    rw [hmade answer', hmade answer, asking, asking,
      Act.ask_congr (h q (List.mem_singleton_self q))]

/-! ## Runs for layouts -/

namespace LayoutStage

/-- The stages behind the one that asks. -/
def behindCall : List Stage :=
  [extractLayout, validateSchema, enhanceLayout, resolveArchetype, flattenLayout]

theorem sameQuestions_behindCall : ∀ s ∈ behindCall, s.Keeps Context.SameQuestions := by
  intro s hs
  have hname : ∀ s ∈ behindCall, s.name ≠ "backend_call" := by decide
  have hbehind : behindCall <:+ all .unconfigured := List.drop_suffix 2 (all .unconfigured)
  exact sameQuestions (hbehind.subset hs) (hname s hs)

theorem sameQuestions_keepAnswer (a : Answer) : (keepAnswer a).Keeps Context.SameQuestions :=
  .bind (Context.SameQuestions.admitsWrites.put _ _) fun _ => .pure _

end LayoutStage

/-- A run for a layout puts one question. -/
theorem generateLayout_puts (answer : Question → Except Failure String) (description : String) :
    Puts (fun answer => generateLayout (.answering answer) (.str description)) (·.asked) answer
      [layoutQuestion description] := by
  have hmade (answer : Question → Except Failure String) :
      generateLayout (.answering answer) (.str description) = .ofEnding ((run
        (asking "backend_call" answer (layoutQuestion description) LayoutStage.keepAnswer ::
          LayoutStage.behindCall) (LayoutRun.prompted description)).after
            LayoutStage.buildPrompt.name) := by
    rw [generateLayout_eq, LayoutStage.run_callBackend rfl]
    rfl
  exact .singleton (fun e => .ofEnding (e.after LayoutStage.buildPrompt.name))
    (record_layoutQuestion description) LayoutStage.sameQuestions_keepAnswer
    LayoutStage.sameQuestions_behindCall rfl (fun _ => rfl) hmade

/-! ## Runs for code -/

namespace CodeStage

/-- The stages ahead of the one that asks. -/
def preparing : List Stage := [convertLayout, checkDesign, checkMapping, inferNodeInputs, compilePrompt]

/-- The stages behind the one that asks. -/
def behindGeneration : List Stage := [parseReply, exportFiles]

theorem sameQuestions_behindGeneration :
    ∀ s ∈ behindGeneration, s.Keeps Context.SameQuestions := by
  intro s hs
  have hname : ∀ s ∈ behindGeneration, s.name ≠ "code_generation" := by decide
  have hbehind : behindGeneration <:+ all .unconfigured := List.drop_suffix 6 (all .unconfigured)
  exact sameQuestions (hbehind.subset hs) (hname s hs)

theorem sameQuestions_keepAnswer (a : Answer) : (keepAnswer a).Keeps Context.SameQuestions :=
  .bind (Context.SameQuestions.admitsWrites.put _ _) fun _ => .pure _

end CodeStage

namespace CodeOrder

variable {o : CodeOrder} {d : Design} {prompt : List Char}

/-- What there is to ask for an order: nothing where a sample reply is written, nothing without a design
that has a prompt, and else one question. -/
def questions (o : CodeOrder) : List Question :=
  match o.sample, Design.ofLayout o.layout.toJson o.nameOrDefault with
  | false, .ok d =>
    match Prompt.codePrompt d .standard (nodeInputs o.node d) with
    | .ok prompt => [codeQuestion prompt]
    | .error _ => []
  | _, _ => []

theorem questions_of_sample (h : o.sample = true) : o.questions = [] := by
  unfold questions
  rw [h]

theorem questions_of_no_design {f : Failure}
    (h : Design.ofLayout o.layout.toJson o.nameOrDefault = .error f) : o.questions = [] := by
  unfold questions
  rw [h]
  cases o.sample <;> rfl

theorem questions_of_no_prompt {f : Failure}
    (hd : Design.ofLayout o.layout.toJson o.nameOrDefault = .ok d)
    (h : Prompt.checkDesign d = .error f) : o.questions = [] := by
  have hprompt : Prompt.codePrompt d .standard (nodeInputs o.node d) = .error f := by
    unfold Prompt.codePrompt
    rw [h]
    rfl
  unfold questions
  rw [hd]
  cases o.sample with
  | true => rfl
  | false => simp only [hprompt]

theorem questions_of_prompt (hsample : o.sample = false)
    (hd : Design.ofLayout o.layout.toJson o.nameOrDefault = .ok d)
    (hprompt : Prompt.codePrompt d .standard (nodeInputs o.node d) = .ok prompt) :
    o.questions = [codeQuestion prompt] := by
  unfold questions
  rw [hsample, hd]
  simp only [hprompt]

/-- The name of a screen, given or not, counts as given. -/
theorem isTruthy_nameOrDefault (o : CodeOrder) : o.nameOrDefault.isTruthy = true := by
  unfold nameOrDefault Json.orElse
  split
  · assumption
  · rfl

/-- What a screen that has a design is called by is the text of its name. -/
theorem nameOrDefault_eq (hd : Design.ofLayout o.layout.toJson o.nameOrDefault = .ok d) :
    o.nameOrDefault = .str d.screenName :=
  Design.eq_text_of_screenNameOf o.isTruthy_nameOrDefault (Design.screenNameOf_of_ofLayout hd)

/-- A screen that has a design has a name that is not empty. -/
theorem screenName_ne (hd : Design.ofLayout o.layout.toJson o.nameOrDefault = .ok d) :
    d.screenName ≠ "" := by
  have hgiven := o.isTruthy_nameOrDefault
  rw [nameOrDefault_eq hd] at hgiven
  simpa [Json.isTruthy] using hgiven

/-- An order gives rise to a question exactly when a backend is to be asked about a component. -/
theorem questions_iff (o : CodeOrder) : o.questions.length ≤ 1 ∧ (o.questions.length = 1 ↔
    o.sample = false ∧ ∃ d, Design.ofLayout o.layout.toJson o.nameOrDefault = .ok d ∧
      d.components ≠ []) := by
  cases hd : Design.ofLayout o.layout.toJson o.nameOrDefault with
  | error f =>
    rw [questions_of_no_design hd]
    exact ⟨Nat.zero_le 1, iff_of_false nofun fun ⟨_, _, h, _⟩ => nomatch h⟩
  | ok d =>
  cases hcheck : Prompt.checkDesign d with
  | error f =>
    have hcomponents : d.components = [] := by
      by_contra hne
      rw [Prompt.checkDesign_eq_ok.2 ⟨screenName_ne hd, hne⟩] at hcheck
      cases hcheck
    rw [questions_of_no_prompt hd hcheck]
    refine ⟨Nat.zero_le 1, iff_of_false nofun ?_⟩
    rintro ⟨-, e, he, hne⟩
    cases he
    exact hne hcomponents
  | ok _ =>
  have hcomponents := (Prompt.checkDesign_eq_ok.1 hcheck).2
  cases hsample : o.sample with
  | true =>
    rw [questions_of_sample hsample]
    exact ⟨Nat.zero_le 1, iff_of_false nofun fun h => nomatch h.1⟩
  | false =>
    obtain ⟨prompt, hprompt⟩ := Prompt.codePrompt_standard hcheck (nodeInputs o.node d)
    rw [questions_of_prompt hsample hd hprompt]
    exact ⟨Nat.le_refl 1, iff_of_true rfl ⟨rfl, d, rfl, hcomponents⟩⟩

end CodeOrder

section Ways

variable {o : CodeOrder} {d : Design} {prompt : List Char}
  (hd : Design.ofLayout o.layout.toJson o.nameOrDefault = .ok d)

include hd

/-- With a prompt, a run for code comes to the stage that asks. -/
theorem run_eq_run_prompted (hcheck : Prompt.checkDesign d = .ok ())
    (hprompt : Prompt.codePrompt d .standard (nodeInputs o.node d) = .ok prompt) (b : Backend) :
    run (CodeStage.all b) o.context = (run (CodeStage.generateCode b :: CodeStage.behindGeneration)
      (o.prompted d (String.ofList prompt))).behind CodeStage.preparing := by
  rw [CodeOrder.run_eq_run_prepared b hd (CodeOrder.screenName_ne hd), run_cons_of_leads
    (CodeStage.leads_compilePrompt o.get?_prepared_design o.get?_prepared_inputs hcheck hprompt)]
  rfl

theorem puts_of_no_prompt {f : Failure} (hcheck : Prompt.checkDesign d = .error f) :
    Puts (fun answer => generateCode (.answering answer) o) (·.asked) answer [] := by
  have hstops := CodeStage.execute_compilePrompt_of_error (o.get?_prepared_design (d := d)) hcheck
  have hmade (b : Backend) := CodeOrder.run_eq_run_prepared b hd (CodeOrder.screenName_ne hd)
  simp only [run_cons_of_error hstops] at hmade
  obtain ⟨-, hasked⟩ := o.prepared_eq d
  exact .nil (fun answer => congrArg CodeRun.ofEnding (hmade (.answering answer))) hasked

variable (hcheck : Prompt.checkDesign d = .ok ())
  (hprompt : Prompt.codePrompt d .standard (nodeInputs o.node d) = .ok prompt)

include hcheck hprompt

/-- A sample reply is written without a question. -/
theorem puts_of_sample (hsample : o.sample = true) :
    Puts (fun answer => generateCode (.answering answer) o) (·.asked) answer [] := by
  let c := o.prompted d (String.ofList prompt)
  have hdesign : c.get? "design_ir" = some (.design d) :=
    (CodeOrder.get?_prompted_of_ne (by decide)).trans CodeOrder.get?_prepared_design
  have hinputs : c.get? "inferred_inputs" = (nodeInputs o.node d).map .inputs :=
    (CodeOrder.get?_prompted_of_ne (by decide)).trans CodeOrder.get?_prepared_inputs
  have htest : c.get? "test_mode" = some (.given (.bool true)) := by
    rw [CodeOrder.get?_prompted_of_ne (by decide), CodeOrder.get?_prepared_sample, hsample]
  let replied := o.replied d (String.ofList prompt) (String.ofList (sampleReply d (nodeInputs o.node d)))
  have hmade (answer : Question → Except Failure String) : generateCode (.answering answer) o =
      .ofEnding ((run CodeStage.behindGeneration replied).behind (CodeStage.early .unconfigured)) := by
    unfold generateCode
    rw [run_eq_run_prompted hd hcheck hprompt,
      run_cons_of_leads (CodeStage.leads_generateCode hdesign hinputs htest)]
    rfl
  obtain ⟨-, hasked⟩ := o.prepared_eq d
  exact .nil hmade ((asked_run CodeStage.sameQuestions_behindGeneration replied).trans hasked)

/-- Without a sample reply, the prompt is asked with. -/
theorem puts_of_prompt (hsample : o.sample = false) :
    Puts (fun answer => generateCode (.answering answer) o) (·.asked) answer
      [codeQuestion prompt] := by
  let c := o.prompted d (String.ofList prompt)
  have htest : c.get? "test_mode" = some (.given (.bool false)) := by
    rw [CodeOrder.get?_prompted_of_ne (by decide), CodeOrder.get?_prepared_sample, hsample]
  have hentry : c.get? "prompt" = some (.given (.str (String.ofList prompt))) := by
    simp [c, CodeOrder.prompted, Context.get?_put]
  have hmade (answer : Question → Except Failure String) : generateCode (.answering answer) o =
      .ofEnding ((run (asking "code_generation" answer (codeQuestion prompt) CodeStage.keepAnswer ::
        CodeStage.behindGeneration) c).behind CodeStage.preparing) := by
    unfold generateCode
    rw [run_eq_run_prompted hd hcheck hprompt, CodeStage.run_generateCode htest hentry]
  obtain ⟨-, hasked⟩ := o.prepared_eq d
  have hbegun : c.asked = [] := hasked
  exact .singleton (fun e => .ofEnding (e.behind CodeStage.preparing)) rfl
    CodeStage.sameQuestions_keepAnswer CodeStage.sameQuestions_behindGeneration hbegun
    (fun _ => rfl) hmade

end Ways

/-- A run for code puts what there is to ask for its order. -/
theorem generateCode_puts (answer : Question → Except Failure String) (o : CodeOrder) :
    Puts (fun answer => generateCode (.answering answer) o) (·.asked) answer o.questions := by
  cases hd : Design.ofLayout o.layout.toJson o.nameOrDefault with
  | error f =>
    rw [CodeOrder.questions_of_no_design hd]
    have hstops := CodeStage.execute_convertLayout_of_error (c := o.context) rfl rfl hd
    exact .nil (fun _ => congrArg CodeRun.ofEnding (run_cons_of_error hstops _)) rfl
  | ok d =>
  cases hcheck : Prompt.checkDesign d with
  | error f =>
    rw [CodeOrder.questions_of_no_prompt hd hcheck]
    exact puts_of_no_prompt hd hcheck
  | ok _ =>
  obtain ⟨prompt, hprompt⟩ := Prompt.codePrompt_standard hcheck (nodeInputs o.node d)
  cases hsample : o.sample with
  | true =>
    rw [CodeOrder.questions_of_sample hsample]
    exact puts_of_sample hd hcheck hprompt hsample
  | false =>
    rw [CodeOrder.questions_of_prompt hsample hd hprompt]
    exact puts_of_prompt hd hcheck hprompt hsample

/-! ## Runs for screens -/

/-- What there is to ask for a screen once there was a run for its layout. -/
def ScreenOrder.followUps (o : ScreenOrder) (r : LayoutRun) : List Question :=
  match r.layout with
  | some l => (o.codeOrder l).questions
  | none => []

/-- The sum of a run for a screen without a layout. -/
theorem generateScreen_of_no_layout {b : Backend} {o : ScreenOrder}
    (h : (generateLayout b o.description).layout = none) :
    generateScreen b o = ⟨false, generateLayout b o.description, none,
      (generateLayout b o.description).errors⟩ := by
  unfold generateScreen
  simp only [h]

/-- A run for a screen depends on its backend by way of its two halves. -/
theorem generateScreen_congr {b b' : Backend} {o : ScreenOrder}
    (hlayout : generateLayout b' o.description = generateLayout b o.description)
    (hcode : ∀ l, (generateLayout b o.description).layout = some l →
      generateCode b' (o.codeOrder l) = generateCode b (o.codeOrder l)) :
    generateScreen b' o = generateScreen b o := by
  unfold generateScreen
  rw [hlayout]
  cases hl : (generateLayout b o.description).layout with
  | none => simp only [hl]
  | some l => simp only [hl, hcode l hl]

/-- A run for a screen puts the question about its layout, and then what there is to ask about its
code. -/
theorem generateScreen_puts (answer : Question → Except Failure String) (description : String)
    (screenName : Json) (sample : Bool) (node : Json) :
    let o : ScreenOrder := ⟨.str description, screenName, sample, node⟩
    Puts (fun answer => generateScreen (.answering answer) o) (·.asked) answer
      (layoutQuestion description ::
        o.followUps (generateLayout (.answering answer) (.str description))) := by
  intro o
  have hfirst := generateLayout_puts answer description
  cases hl : (generateLayout (.answering answer) (.str description)).layout with
  | none =>
    have hnone : o.followUps (generateLayout (.answering answer) (.str description)) = [] := by
      unfold ScreenOrder.followUps
      rw [hl]
    rw [hnone]
    refine ⟨?_, fun answer' h => ?_⟩
    · rw [generateScreen_of_no_layout (o := o) hl]
      exact hfirst.recorded.trans (congrArg _ (List.append_nil _).symm)
    · refine generateScreen_congr (hfirst.suffice answer' h) fun l hsome => ?_
      rw [hl] at hsome
      cases hsome
  | some l =>
    have hsecond := generateCode_puts answer (o.codeOrder l)
    have hsome : o.followUps (generateLayout (.answering answer) (.str description)) =
        (o.codeOrder l).questions := by
      unfold ScreenOrder.followUps
      rw [hl]
    rw [hsome]
    refine ⟨?_, fun answer' h => ?_⟩
    · obtain ⟨hlayout, hcode, -⟩ := generateScreen_of_layout (o := o) hl
      rw [ScreenRun.asked, hlayout, hcode]
      show ([layoutQuestion description] ++ (o.codeOrder l).questions).mapM (·.record) = _
      rw [List.mapM_append, hfirst.recorded, hsecond.recorded]
      rfl
    · obtain ⟨hq, hrest⟩ := List.forall_mem_cons.1 h
      have hlayout := hfirst.suffice answer' (List.forall_mem_singleton.2 hq)
      refine generateScreen_congr hlayout fun l' hl' => ?_
      obtain rfl : l' = l := Option.some.inj (hl'.symm.trans hl)
      exact hsecond.suffice answer' hrest

/-- There is something to ask about the code of a screen exactly when a layout with a component was
handed out and no sample reply is to be written. -/
theorem followUps_iff (b : Backend) (description : String) (name? : Option String) (sample : Bool)
    (node : Json) :
    let o : ScreenOrder := ⟨.str description, .ofText? name?, sample, node⟩
    let r := generateLayout b (.str description)
    (o.followUps r).length ≤ 1 ∧ ((o.followUps r).length = 1 ↔
      r.success = true ∧ r.components ≠ [] ∧ sample = false) := by
  intro o r
  obtain ⟨stage, f, hr⟩ | ⟨fields, judged, d, config, l, -, -, -, hr⟩ :=
    (generateLayout_ending b description).failsAt_or_delivers
  · have hnone : o.followUps r = [] := by
      unfold ScreenOrder.followUps
      rw [hr.layout]
    rw [hnone, hr.success]
    exact ⟨Nat.zero_le 1, iff_of_false nofun fun h => nomatch h.1⟩
  · have hsome : o.followUps r = (o.codeOrder l).questions := by
      unfold ScreenOrder.followUps
      rw [hr.layout]
    obtain ⟨hle, hone⟩ := (o.codeOrder l).questions_iff
    obtain ⟨name, hname, hne⟩ := nameOrDefault_text (o := o.codeOrder l) rfl
    have hdesign : Design.ofLayout l.toWire (o.codeOrder l).nameOrDefault = .ok
        { screenName := name, flow := .ofScreenType (.str l.plain.screenType.text)
          components := l.plain.components.map .ofComponent
          tokens := .ofScreenType (.str l.plain.screenType.text) } := by
      rw [Design.ofLayout_enhanced_toWire, hname, Design.ofDocument, Design.screenNameOf_text hne]
      rfl
    have hcomponents : r.components ≠ [] ↔ l.plain.components.map DesignComponent.ofComponent ≠ [] := by
      rw [hr.components, ← l.map_plain_flattened, List.map_map, ne_eq, ne_eq, List.map_eq_nil_iff]
    have hsuccess : r.success = true := hr.success
    rw [hsome]
    refine ⟨hle, hone.trans ?_⟩
    rw [and_iff_right hsuccess, hcomponents, and_comm]
    refine and_congr_left fun _ => ?_
    constructor
    · rintro ⟨e, he, hcs⟩
      obtain rfl := Except.ok.inj (hdesign.symm.trans he)
      exact hcs
    · exact fun hcs => ⟨_, hdesign, hcs⟩

/-! ## All runs -/

/-- **A backend is asked once for a layout and at most once for code, whatever it says.** For every
backend:

* a run for a layout puts one question, with a system and a user message and no least length;
* a run for code puts one when no sample reply is to be written and the layout has a design with a
  component, and else none;
* a run for a screen puts the question about its layout, and one more when the layout is handed out with
  a component and no sample reply is to be written.

Nothing but the answers to these questions counts for the run, so that a failure leads to no other. -/
theorem backend_is_asked_once (answer : Question → Except Failure String) :
    (∀ description : String,
      let run := generateLayout (.answering answer) (.str description)
      (layoutQuestion description).messages.map (·.role) = [.str "system", .str "user"] ∧
        (layoutQuestion description).minLength = 0 ∧
        Puts (fun answer => generateLayout (.answering answer) (.str description)) (·.asked) answer
          [layoutQuestion description] ∧
        run.asked = [layoutRecord description]) ∧
    (∀ o : CodeOrder,
      let run := generateCode (.answering answer) o
      Puts (fun answer => generateCode (.answering answer) o) (·.asked) answer o.questions ∧
        run.asked.length ≤ 1 ∧
        (run.asked.length = 1 ↔ o.sample = false ∧
          ∃ d, Design.ofLayout o.layout.toJson o.nameOrDefault = .ok d ∧ d.components ≠ [])) ∧
    ∀ (description : String) (name? : Option String) (sample : Bool) (node : Json),
      let o : ScreenOrder := ⟨.str description, .ofText? name?, sample, node⟩
      let layoutRun := generateLayout (.answering answer) (.str description)
      let run := generateScreen (.answering answer) o
      Puts (fun answer => generateScreen (.answering answer) o) (·.asked) answer
          (layoutQuestion description :: o.followUps layoutRun) ∧
        1 ≤ run.asked.length ∧ run.asked.length ≤ 2 ∧
        (run.asked.length = 2 ↔
          layoutRun.success = true ∧ layoutRun.components ≠ [] ∧ sample = false) := by
  refine ⟨fun description => ?_, fun o => ?_, fun description name? sample node => ?_⟩
  · have hputs := generateLayout_puts answer description
    exact ⟨rfl, rfl, hputs, (Except.ok.inj hputs.recorded).symm⟩
  · have hputs := generateCode_puts answer o
    obtain ⟨hle, hone⟩ := o.questions_iff
    rw [← hputs.length_asked] at hle hone
    exact ⟨hputs, hle, hone⟩
  · intro o layoutRun run
    have hputs := generateScreen_puts answer description (.ofText? name?) sample node
    obtain ⟨hle, hone⟩ := followUps_iff (.answering answer) description name? sample node
    have hlength : run.asked.length = (o.followUps layoutRun).length + 1 := hputs.length_asked
    have htwo : (o.followUps layoutRun).length + 1 = 2 ↔ (o.followUps layoutRun).length = 1 := by omega
    rw [hlength]
    exact ⟨hputs, Nat.le_add_left 1 _, Nat.succ_le_succ hle, htwo.trans hone⟩

end Wireframe
