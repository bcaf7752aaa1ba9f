import Mathlib.Data.List.TakeWhile
import Wireframe.Pipeline.Layout
import Wireframe.Proofs.Layout.Placement
import Wireframe.Proofs.Pipeline.LayoutAnswer
import Wireframe.Proofs.Pipeline.Leads

/-!
# How a run for a layout ends

A run for the layout of a described screen fails in one of five stages, or hands out a layout. Which of
them it is, is up to the answer of the backend and to what is made of it.

* `LayoutStage.leads_buildPrompt` and its like — what each stage makes of a context.
* `LayoutRun.Ends` — the ways in which a run can end.
* `generateLayout_ending` — every run ends in one of them.
-/

set_option autoImplicit false

namespace Wireframe

/-- The warning about a canvas that a document lacks. -/
def LayoutDocument.canvasWarnings (d : LayoutDocument) (config : ArchetypeConfig) : List String :=
  if d.canvas = none then
    [s!"canvas_size missing, using {config.canvasType.text} default {config.canvasType.size.text}"]
  else []

namespace Context

theorem warn_nil (c : Context) : c.warn [] = c := by
  unfold warn
  rw [List.append_nil]

/-- The context with a question that was answered. -/
def withAnswer (c : Context) (record : QuestionRecord) (a : Answer) : Context :=
  (c.recordQuestion record).put "llm_response" (.answer a)

/-- The context with a document that was judged valid, and with the warnings about it. -/
def withDocument (c : Context) (warnings : List String) (d : LayoutDocument) : Context :=
  ((c.warn warnings).put "validation_valid" (.given (.bool true))).put "layout" (.layout d)

/-- The context with a layout in its place, and with what is to be said about it. -/
def withPlaced (c : Context) (warnings : List String) (l : EnhancedLayout) (config : ArchetypeConfig) :
    Context :=
  (((c.warn warnings).warn l.plain.fitWarnings).put "enhanced" (.enhanced l)).put "archetype_config"
    (.given config.toJson)

end Context

/-! ## What the stages make of a context -/

namespace LayoutStage

open Stage

variable {b : Backend} {c : Context} {description : String} {a : Answer} {fields : Fields}
  {d : LayoutDocument} {l : EnhancedLayout} {f : Failure}

theorem leads_buildPrompt (h : c.get? "user_prompt" = some (.given (.str description))) :
    buildPrompt.Leads c (c.put "messages" (.messages (layoutQuestion description).messages)) :=
  leads_ofAct (by
    simp only [EStateM.run_bind, Act.run_need_of_get? h, Datum.toJson, Act.run_put, EStateM.run_pure]
    rfl)

theorem execute_buildPrompt_of_not_text {v : Json} (h : c.get? "user_prompt" = some (.given v))
    (hv : ∀ text, v ≠ .str text) :
    buildPrompt.execute c = ⟨c, .error (.noMember v.typeName "strip")⟩ :=
  execute_ofAct_of_error (by
    simp only [EStateM.run_bind, Act.run_need_of_get? h, Datum.toJson]
    cases v with
    | str text => exact absurd rfl (hv text)
    | _ => rfl)

theorem leads_callBackend (hmessages : c.get? "messages" =
      some (.messages (layoutQuestion description).messages))
    (ha : b.answerTo (layoutQuestion description) = .ok a) :
    (callBackend b).Leads c (c.withAnswer (layoutRecord description) a) := by
  cases b with
  | unconfigured => cases ha
  | answering answer =>
    have hask : (Act.ask answer ⟨(layoutQuestion description).messages, 0⟩).run c =
        .ok a (c.recordQuestion (layoutRecord description)) :=
      (Act.run_ask (record_layoutQuestion description) c).trans
        (congrArg (fun x => (liftM x : Act Answer).run _) ha)
    exact leads_ofAct (by
      simp only [EStateM.run_bind, Backend.provider, Act.run_ofExcept_ok,
        Act.run_need_of_get? hmessages, Datum.asMessages, hask, Act.run_put, EStateM.run_pure]
      rfl)

theorem execute_callBackend_of_error (hmessages : c.get? "messages" =
      some (.messages (layoutQuestion description).messages))
    (hf : b.answerTo (layoutQuestion description) = .error f) :
    ∃ left, (callBackend b).execute c = ⟨left, .error f⟩ ∧ left.errors = c.errors := by
  cases b with
  | unconfigured =>
    have hfault : Backend.unconfiguredFault = f := Except.error.inj hf
    subst hfault
    exact ⟨c, execute_ofAct_of_error rfl, rfl⟩
  | answering answer =>
    have hask : (Act.ask answer ⟨(layoutQuestion description).messages, 0⟩).run c =
        .error f (c.recordQuestion (layoutRecord description)) :=
      (Act.run_ask (record_layoutQuestion description) c).trans
        (congrArg (fun x => (liftM x : Act Answer).run _) hf)
    refine ⟨c.recordQuestion (layoutRecord description), execute_ofAct_of_error ?_, rfl⟩
    simp only [EStateM.run_bind, Backend.provider, Act.run_ofExcept_ok,
      Act.run_need_of_get? hmessages, Datum.asMessages, hask]

theorem leads_extractLayout (h : c.get? "llm_response" = some (.answer a))
    (hfields : layoutOf a = .ok fields) :
    extractLayout.Leads c (c.put "raw_layout" (.given (.obj fields))) :=
  leads_ofAct (by
    simp only [EStateM.run_bind, Act.run_need_of_get? h, Datum.asAnswer, Act.run_ofExcept_ok, hfields,
      Act.run_put, EStateM.run_pure]
    rfl)

theorem execute_extractLayout_of_error (h : c.get? "llm_response" = some (.answer a))
    (hf : layoutOf a = .error f) : extractLayout.execute c = ⟨c, .error f⟩ :=
  execute_ofAct_of_error (by
    simp only [EStateM.run_bind, Act.run_need_of_get? h, Datum.asAnswer, Act.run_ofExcept_ok, hf,
      Act.run_ofExcept_error])

section Validation

variable {raw : Json} {judged : ValidationResult} (h : c.get? "raw_layout" = some (.given raw))

include h

theorem leads_validateSchema (hjudged : validateLayout raw = .ok judged) (hvalid : judged.valid = true)
    (hd : LayoutDocument.ofWire raw = .ok d) :
    validateSchema.Leads c (c.withDocument judged.warnings d) :=
  leads_ofAct (by
    simp only [EStateM.run_bind, Act.run_need_of_get? h, Datum.toJson, hjudged, Act.run_ofExcept_ok,
      Act.run_warn, hvalid, if_true, Act.run_put, hd, EStateM.run_pure]
    rfl)

theorem execute_validateSchema_of_error (hf : validateLayout raw = .error f) :
    validateSchema.execute c = ⟨c, .error f⟩ :=
  execute_ofAct_of_error (by
    simp only [EStateM.run_bind, Act.run_need_of_get? h, Datum.toJson, hf, Act.run_ofExcept_error])

/-- The fault of a layout that was judged not to be valid. -/
def refusal (judged : ValidationResult) (raw : Json) : Failure :=
  .fault (.schema "Layout JSON failed schema validation" judged.errors judged.warnings raw)

theorem execute_validateSchema_of_invalid (hjudged : validateLayout raw = .ok judged)
    (hvalid : judged.valid = false) :
    validateSchema.execute c = ⟨c.warn judged.warnings, .error (refusal judged raw)⟩ :=
  execute_ofAct_of_error (by
    simp only [EStateM.run_bind, Act.run_need_of_get? h, Datum.toJson, hjudged, Act.run_ofExcept_ok,
      Act.run_warn, hvalid, Bool.false_eq_true, if_false, Act.run_fail, refusal])

end Validation

theorem leads_enhanceLayout (h : c.get? "layout" = some (.layout d)) (hl : d.enhance = .ok l) :
    enhanceLayout.Leads c (c.put "enhanced" (.enhanced l)) :=
  leads_ofAct (by
    simp only [EStateM.run_bind, Act.run_need_of_get? h, Datum.asLayout, hl, Act.run_ofExcept_ok,
      Act.run_put, EStateM.run_pure]
    rfl)

theorem execute_enhanceLayout_of_error (h : c.get? "layout" = some (.layout d))
    (hf : d.enhance = .error f) : enhanceLayout.execute c = ⟨c, .error f⟩ :=
  execute_ofAct_of_error (by
    simp only [EStateM.run_bind, Act.run_need_of_get? h, Datum.asLayout, hf, Act.run_ofExcept_ok,
      Act.run_ofExcept_error])

section Archetype

variable {e : EnhancedLayout} {config : ArchetypeConfig}

/-- The fault of a layout whose archetype is not in the table. -/
def unknownArchetype (d : LayoutDocument) : Failure :=
  .fault (.archetype (.str d.archetype)
    (.str (expectedArchetype d.applicationType d.screenType.text)) archetypeNames)

/-- An archetype in the table has its configuration, whatever was expected. -/
theorem requireConfig_of_some {name : String} (h : configFor? name = some config) (expected : Json) :
    requireConfig (.str name) expected = .ok config := by
  unfold requireConfig
  simp only [Json.asKey, bind, Except.bind, Option.bind_some, h]

theorem requireConfig_of_none {name : String} (h : configFor? name = none) (expected : Json) :
    requireConfig (.str name) expected =
      .error (.fault (.archetype (.str name) expected archetypeNames)) := by
  unfold requireConfig
  simp only [Json.asKey, bind, Except.bind, Option.bind_some, h]

/-- Where a document lacks a canvas, its layout is put on the frame of the archetype with a warning. -/
theorem run_withCanvasOf (he : d.enhance = .ok e) (config : ArchetypeConfig) :
    ∃ l, d.IsPlaced config l ∧
      ∀ c, (withCanvasOf config e).run c = .ok l (c.warn (d.canvasWarnings config)) := by
  have hcanvas : e.canvas = d.canvas := by
    obtain ⟨m, -, rfl⟩ := LayoutDocument.enhance_eq_ok.1 he
    rfl
  unfold withCanvasOf LayoutDocument.canvasWarnings
  rw [hcanvas]
  cases hd : d.canvas with
  | some canvas =>
    refine ⟨e, d.isPlaced_of_canvas he hd config, fun c => ?_⟩
    rw [if_neg (Option.some_ne_none canvas), Context.warn_nil]
    rfl
  | none =>
    obtain ⟨l, hl, hplaced⟩ := d.isPlaced_onCanvas he hd config
    refine ⟨l, hplaced, fun c => ?_⟩
    simp only [EStateM.run_bind, hl, Act.run_ofExcept_ok, Act.run_warn, EStateM.run_pure, if_true]

variable (h : c.get? "enhanced" = some (.enhanced e))

include h

theorem leads_resolveArchetype (hconfig : configFor? e.archetype = some config) {warnings : List String}
    (hplaced : ∀ c, (withCanvasOf config e).run c = .ok l (c.warn warnings)) :
    resolveArchetype.Leads c (c.withPlaced warnings l config) :=
  leads_ofAct (by
    simp only [EStateM.run_bind, Act.run_need_of_get? h, Datum.asEnhanced, Act.run_ofExcept_ok,
      requireConfig_of_some hconfig, hplaced, Act.run_warn, Act.run_put, EStateM.run_pure]
    rfl)

theorem execute_resolveArchetype_of_none (hconfig : configFor? e.archetype = none) :
    resolveArchetype.execute c = ⟨c, .error (unknownArchetype e.plain)⟩ :=
  execute_ofAct_of_error (by
    simp only [EStateM.run_bind, Act.run_need_of_get? h, Datum.asEnhanced, Act.run_ofExcept_ok,
      requireConfig_of_none hconfig, Act.run_ofExcept_error]
    rfl)

end Archetype

theorem leads_flattenLayout (h : c.get? "enhanced" = some (.enhanced l)) :
    flattenLayout.Leads c (c.put "components" (.components l.flattened)) :=
  leads_ofAct (by
    simp only [EStateM.run_bind, Act.run_need_of_get? h, Datum.asEnhanced, Act.run_ofExcept_ok,
      Act.run_put, EStateM.run_pure]
    rfl)

/-- The names of the stages ahead of one with a name. -/
def ahead (stage : String) : List String :=
  ((all .unconfigured).map (·.name)).takeWhile (· != stage)

end LayoutStage

/-! ## Whole runs -/

namespace LayoutRun

variable (description : String) (a : Answer) (fields : Fields) (warnings : List String)
  (d : LayoutDocument) (e : EnhancedLayout) (config : ArchetypeConfig) (l : EnhancedLayout)

def begun : Context := .ofFields [("user_prompt", .str description)]

def prompted : Context :=
  (begun description).put "messages" (.messages (layoutQuestion description).messages)

def answered : Context := (prompted description).withAnswer (layoutRecord description) a

def extracted : Context := (answered description a).put "raw_layout" (.given (.obj fields))

def accepted : Context := (extracted description a fields).withDocument warnings d

def enhanced : Context := (accepted description a fields warnings d).put "enhanced" (.enhanced e)

def placed : Context :=
  (enhanced description a fields warnings d e).withPlaced (d.canvasWarnings config) l config

def ended : Context :=
  (placed description a fields warnings d e config l).put "components" (.components l.flattened)

section Steps

variable {description a fields warnings d e config l} {b : Backend} (rest : List Stage)

open LayoutStage

theorem run_begun : run (buildPrompt :: rest) (begun description) =
    (run rest (prompted description)).after buildPrompt.name :=
  run_cons_of_leads (leads_buildPrompt rfl) rest

theorem run_prompted (h : b.answerTo (layoutQuestion description) = .ok a) :
    run (callBackend b :: rest) (prompted description) =
      (run rest (answered description a)).after (callBackend b).name :=
  run_cons_of_leads (leads_callBackend rfl h) rest

theorem run_answered (h : layoutOf a = .ok fields) :
    run (extractLayout :: rest) (answered description a) =
      (run rest (extracted description a fields)).after extractLayout.name :=
  run_cons_of_leads (leads_extractLayout rfl h) rest

theorem run_extracted {judged : ValidationResult} (h : Accepts fields judged d) :
    run (validateSchema :: rest) (extracted description a fields) =
      (run rest (accepted description a fields judged.warnings d)).after validateSchema.name :=
  run_cons_of_leads (leads_validateSchema rfl h.isJudged h.isValid h.isRead) rest

theorem run_accepted (h : d.enhance = .ok e) :
    run (enhanceLayout :: rest) (accepted description a fields warnings d) =
      (run rest (enhanced description a fields warnings d e)).after enhanceLayout.name :=
  run_cons_of_leads (leads_enhanceLayout rfl h) rest

theorem run_enhanced (hconfig : configFor? e.archetype = some config)
    (h : ∀ c, (withCanvasOf config e).run c = .ok l (c.warn (d.canvasWarnings config))) :
    run (resolveArchetype :: rest) (enhanced description a fields warnings d e) =
      (run rest (placed description a fields warnings d e config l)).after resolveArchetype.name :=
  run_cons_of_leads (leads_resolveArchetype rfl hconfig h) rest

theorem run_placed :
    run (flattenLayout :: rest) (placed description a fields warnings d e config l) =
      (run rest (ended description a fields warnings d e config l)).after flattenLayout.name :=
  run_cons_of_leads (leads_flattenLayout rfl) rest

end Steps

/-- A run that ends with the failure of a stage: there is no layout, and the only error is that of the
stage. -/
structure FailsAt (r : LayoutRun) (stage : String) (f : Failure) : Prop where
  success : r.success = false
  layout : r.layout = none
  errors : r.errors = [s!"{stage}: {f.message}"]
  detail : r.detail = some f.report
  stages : r.stages = LayoutStage.ahead stage ++ [stage]

/-- A run that ends with a layout, on a canvas and with its components listed. -/
structure Delivers (r : LayoutRun) (warnings : List String) (d : LayoutDocument)
    (config : ArchetypeConfig) (l : EnhancedLayout) : Prop where
  success : r.success = true
  errors : r.errors = []
  layout : r.layout = some l
  placed : d.IsPlaced config l
  archetype : r.archetype = some config.toJson
  components : r.components = l.flattened
  warnings : r.warnings = warnings ++ d.canvasWarnings config ++ l.plain.fitWarnings
  stages : r.stages = (LayoutStage.all .unconfigured).map (·.name)

/-- The names ahead of a stage are different ones, and its own is not among them. -/
theorem nodup_ahead (stage : String) : (LayoutStage.ahead stage ++ [stage]).Nodup := by
  have hall : ((LayoutStage.all .unconfigured).map (·.name)).Nodup := by decide
  have hahead : (LayoutStage.ahead stage).Nodup := hall.sublist (List.takeWhile_sublist _)
  refine List.nodup_append.2 ⟨hahead, List.pairwise_singleton _ _, fun name hmem other hother => ?_⟩
  rw [List.mem_singleton.1 hother]
  simpa using List.mem_takeWhile_imp hmem

theorem failsAt_of_error (before : List Stage) {s : Stage} {c left : Context} {f : Failure}
    (h : s.execute c = ⟨left, .error f⟩) (hleft : s.onError f left = left) (herrors : left.errors = [])
    (hbefore : before.map (·.name) = LayoutStage.ahead s.name) (rest : List Stage) :
    (ofEnding ((run (s :: rest) c).behind before)).FailsAt s.name f := by
  have hnames : (before.map (·.name) ++ (left.halt s.name f).ran).Nodup := by
    rw [hbefore]
    exact nodup_ahead s.name
  have hran := Ending.ran_behind hnames
  have hadded : (left.addErrors [s!"{s.name}: {f.message}"]).errors = [s!"{s.name}: {f.message}"] := by
    rw [Context.addErrors, herrors, List.nil_append]
  rw [run_cons_of_error h, hleft]
  constructor
  · simp only [ofEnding, Ending.toContext_behind, Context.halt, hadded, List.isEmpty_cons]
  · simp only [ofEnding, Ending.toContext_behind, Context.halt, hadded, List.isEmpty_cons,
      Bool.false_eq_true, if_false]
  · simp only [ofEnding, Ending.toContext_behind, Context.halt, hadded]
  · simp only [ofEnding, Ending.errorDetail_behind, Context.halt]
  · simp only [ofEnding, hran, hbefore]
    rfl

variable {d config l}

theorem delivers_ended (b : Backend) (h : d.IsPlaced config l) :
    (ofEnding (Ending.behind (LayoutStage.all b)
      { ended description a fields warnings d e config l with })).Delivers warnings d config l where
  success := rfl
  errors := rfl
  layout := rfl
  placed := h
  archetype := rfl
  components := rfl
  warnings := rfl
  stages := rfl

/-- The ways in which a run for the layout of a described screen can end. -/
inductive Ends (b : Backend) (description : String) (r : LayoutRun) : Prop where
  /-- There is no answer. -/
  | unanswered (f : Failure) (hf : b.answerTo (layoutQuestion description) = .error f)
      (hr : r.FailsAt "backend_call" f)
  /-- There is no object in the answer. -/
  | unfound (a : Answer) (f : Failure) (ha : b.answerTo (layoutQuestion description) = .ok a)
      (hf : LayoutStage.layoutOf a = .error f) (hr : r.FailsAt "json_extraction" f)
  /-- The object cannot be judged. -/
  | unjudged (fields : Fields) (f : Failure) (hfields : b.Gives description fields)
      (hf : validateLayout (.obj fields) = .error f) (hr : r.FailsAt "schema_validation" f)
  /-- The object is no valid layout. -/
  | refused (fields : Fields) (judged : ValidationResult) (hfields : b.Gives description fields)
      (hjudged : validateLayout (.obj fields) = .ok judged) (hvalid : judged.valid = false)
      (hr : r.FailsAt "schema_validation" (LayoutStage.refusal judged (.obj fields)))
  /-- The layout has no density on its canvas. -/
  | unenhanced (fields : Fields) (judged : ValidationResult) (d : LayoutDocument) (f : Failure)
      (hfields : b.Gives description fields) (hd : Accepts fields judged d)
      (hf : d.enhance = .error f) (hr : r.FailsAt "enhancement" f)
  /-- The archetype is not in the table. -/
  | unplaced (fields : Fields) (judged : ValidationResult) (d : LayoutDocument) (e : EnhancedLayout)
      (hfields : b.Gives description fields) (hd : Accepts fields judged d) (he : d.enhance = .ok e)
      (hconfig : configFor? d.archetype = none)
      (hr : r.FailsAt "archetype_resolution" (LayoutStage.unknownArchetype d))
  /-- There is a layout. -/
  | delivered (fields : Fields) (judged : ValidationResult) (d : LayoutDocument)
      (config : ArchetypeConfig) (l : EnhancedLayout) (hfields : b.Gives description fields)
      (hd : Accepts fields judged d) (hconfig : configFor? d.archetype = some config)
      (hr : r.Delivers judged.warnings d config l)

theorem Ends.failsAt_or_delivers {b : Backend} {r : LayoutRun} (h : Ends b description r) :
    (∃ stage f, r.FailsAt stage f) ∨ ∃ fields judged d config l, b.Gives description fields ∧
      Accepts fields judged d ∧ configFor? d.archetype = some config ∧
      r.Delivers judged.warnings d config l := by
  cases h with
  | unanswered f hf hr => exact .inl ⟨_, _, hr⟩
  | unfound a f ha hf hr => exact .inl ⟨_, _, hr⟩
  | unjudged fields f hfields hf hr => exact .inl ⟨_, _, hr⟩
  | refused fields judged hfields hjudged hvalid hr => exact .inl ⟨_, _, hr⟩
  | unenhanced fields judged d f hfields hd hf hr => exact .inl ⟨_, _, hr⟩
  | unplaced fields judged d e hfields hd he hconfig hr => exact .inl ⟨_, _, hr⟩
  | delivered fields judged d config l hfields hd hconfig hr =>
    exact .inr ⟨fields, judged, d, config, l, hfields, hd, hconfig, hr⟩

end LayoutRun

open LayoutRun LayoutStage

section Ends

variable {b : Backend} {description : String} {a : Answer} {fields : Fields}
  {judged : ValidationResult} {d : LayoutDocument} {e : EnhancedLayout} {f : Failure}

theorem generateLayout_eq (b : Backend) (description : String) :
    generateLayout b (.str description) = .ofEnding ((run [callBackend b, extractLayout, validateSchema,
      enhanceLayout, resolveArchetype, flattenLayout] (prompted description)).after buildPrompt.name) :=
  congrArg ofEnding (run_begun _)

theorem failsAt_backend_call (hf : b.answerTo (layoutQuestion description) = .error f) :
    (generateLayout b (.str description)).FailsAt "backend_call" f := by
  obtain ⟨left, hleft, herrors⟩ := execute_callBackend_of_error (c := prompted description) rfl hf
  rw [generateLayout_eq]
  exact failsAt_of_error [buildPrompt] hleft rfl herrors rfl _

theorem failsAt_json_extraction (ha : b.answerTo (layoutQuestion description) = .ok a)
    (hf : layoutOf a = .error f) :
    (generateLayout b (.str description)).FailsAt "json_extraction" f := by
  rw [generateLayout_eq, run_prompted _ ha]
  exact failsAt_of_error [buildPrompt, callBackend b]
    (execute_extractLayout_of_error rfl hf) rfl rfl rfl _

theorem failsAt_schema_validation (hfields : b.Gives description fields)
    (hf : validateLayout (.obj fields) = .error f) :
    (generateLayout b (.str description)).FailsAt "schema_validation" f := by
  obtain ⟨a, ha, hfields⟩ := hfields
  rw [generateLayout_eq, run_prompted _ ha, run_answered _ hfields]
  exact failsAt_of_error [buildPrompt, callBackend b, extractLayout]
    (execute_validateSchema_of_error rfl hf) rfl rfl rfl _

theorem failsAt_of_invalid (hfields : b.Gives description fields)
    (hjudged : validateLayout (.obj fields) = .ok judged) (hvalid : judged.valid = false) :
    (generateLayout b (.str description)).FailsAt "schema_validation"
      (refusal judged (.obj fields)) := by
  obtain ⟨a, ha, hfields⟩ := hfields
  rw [generateLayout_eq, run_prompted _ ha, run_answered _ hfields]
  exact failsAt_of_error [buildPrompt, callBackend b, extractLayout]
    (execute_validateSchema_of_invalid rfl hjudged hvalid) rfl rfl rfl _

theorem failsAt_enhancement (hfields : b.Gives description fields) (hd : Accepts fields judged d)
    (hf : d.enhance = .error f) :
    (generateLayout b (.str description)).FailsAt "enhancement" f := by
  obtain ⟨a, ha, hfields⟩ := hfields
  rw [generateLayout_eq, run_prompted _ ha, run_answered _ hfields, run_extracted _ hd]
  exact failsAt_of_error [buildPrompt, callBackend b, extractLayout, validateSchema]
    (execute_enhanceLayout_of_error rfl hf) rfl rfl rfl _

theorem failsAt_archetype_resolution (hfields : b.Gives description fields)
    (hd : Accepts fields judged d) (he : d.enhance = .ok e) (hconfig : configFor? d.archetype = none) :
    (generateLayout b (.str description)).FailsAt "archetype_resolution" (unknownArchetype d) := by
  obtain ⟨a, ha, hfields⟩ := hfields
  have hplain : e.plain = d := LayoutDocument.plain_of_enhance he
  rw [generateLayout_eq, run_prompted _ ha, run_answered _ hfields, run_extracted _ hd,
    run_accepted _ he]
  subst hplain
  exact failsAt_of_error [buildPrompt, callBackend b, extractLayout, validateSchema, enhanceLayout]
    (execute_resolveArchetype_of_none rfl hconfig) rfl rfl rfl _

theorem exists_delivers {config : ArchetypeConfig} (hfields : b.Gives description fields)
    (hd : Accepts fields judged d) (he : d.enhance = .ok e)
    (hconfig : configFor? d.archetype = some config) :
    ∃ l, (generateLayout b (.str description)).Delivers judged.warnings d config l := by
  obtain ⟨a, ha, hfields⟩ := hfields
  have hplain : e.plain = d := LayoutDocument.plain_of_enhance he
  obtain ⟨l, hplaced, hcanvas⟩ := run_withCanvasOf he config
  rw [generateLayout_eq, run_prompted _ ha, run_answered _ hfields, run_extracted _ hd,
    run_accepted _ he]
  subst hplain
  rw [run_enhanced _ hconfig hcanvas, run_placed]
  exact ⟨l, delivers_ended description a fields judged.warnings e b hplaced⟩

end Ends

/-- **Every run for the layout of a described screen ends in one of the ways listed.** -/
theorem generateLayout_ending (b : Backend) (description : String) :
    Ends b description (generateLayout b (.str description)) := by
  -- one question for each stage that can fail, asked only where the one before was answered well
  cases ha : b.answerTo (layoutQuestion description) with
  | error f => exact .unanswered f ha (failsAt_backend_call ha)
  | ok a =>
  cases hfields : layoutOf a with
  | error f => exact .unfound a f ha hfields (failsAt_json_extraction ha hfields)
  | ok fields =>
  have hgives : b.Gives description fields := ⟨a, ha, hfields⟩
  cases hjudged : validateLayout (.obj fields) with
  | error f => exact .unjudged fields f hgives hjudged (failsAt_schema_validation hgives hjudged)
  | ok judged =>
  cases hvalid : judged.valid with
  | false =>
    exact .refused fields judged hgives hjudged hvalid (failsAt_of_invalid hgives hjudged hvalid)
  | true =>
  obtain ⟨d, hd⟩ := exists_accepts hjudged hvalid
  cases he : d.enhance with
  | error f => exact .unenhanced fields judged d f hgives hd he (failsAt_enhancement hgives hd he)
  | ok e =>
  cases hconfig : configFor? d.archetype with
  | none =>
    exact .unplaced fields judged d e hgives hd he hconfig
      (failsAt_archetype_resolution hgives hd he hconfig)
  | some config =>
  obtain ⟨l, hl⟩ := exists_delivers hgives hd he hconfig
  exact .delivered fields judged d config l hgives hd hconfig hl

end Wireframe
