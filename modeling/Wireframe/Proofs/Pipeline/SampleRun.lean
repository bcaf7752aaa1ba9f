import Wireframe.Pipeline.Code
import Wireframe.Proofs.Design.Conversion
import Wireframe.Proofs.Pipeline.Leads
import Wireframe.Proofs.Prompt.Code
import Wireframe.Proofs.Reply.Encoding

/-!
# Runs without a backend

A run for code that takes a sample reply in place of a backend's answer depends on its order alone,
and every stage does what it finds prepared by those before it. It can stop for three reasons: the
layout has no collection of components, there is no component in it, or the content of a file is torn.

* `CodeStage.leads_convertLayout` and its like — what each stage makes of a context in such a run.
* `CodeOrder.run_eq_ended`, `CodeOrder.run_eq_torn` — the run of a design with components.
* `sample_run_stops_for_layout` — where such a run stops, and that nothing else stops it.
-/

set_option autoImplicit false

namespace Wireframe

/-! ## What the stages make of a context -/

/-- The inputs that a design gets from a node, none unless the node counts as given. -/
def nodeInputs (node : Json) (d : Design) : Option InferredInputs :=
  if node.isTruthy then some (inferInputs node d.screenName) else none

/-- The files of a sample reply. -/
def sampleFiles (d : Design) (inferred : Option InferredInputs) : FileSet :=
  Reply.extractFiles (sampleReply d inferred) d.screenName.toList Settings.standard.minMarkupLength

namespace Context

/-- The context with inferred inputs and what was found wrong with them. -/
def withInputs (c : Context) : Option InferredInputs → Context
  | some i => (c.put "inferred_inputs" (.inputs i)).warn i.warnings
  | none => c

/-- The context with files and what was found wrong with them. -/
def withFiles (c : Context) (s : FileSet) : Context :=
  (((c.put "generated_files" (.files s)).put "summary" (.given s.summary)).addErrors s.errors).warn
    s.warnings

variable {c : Context}

theorem get?_withInputs_self (h : c.get? "inferred_inputs" = none) (inferred : Option InferredInputs) :
    (c.withInputs inferred).get? "inferred_inputs" = inferred.map .inputs := by
  cases inferred with
  | none => exact h
  | some i => rw [withInputs, get?_warn, get?_put, if_pos rfl, Option.map_some]

theorem get?_withInputs_of_ne {key : String} (h : key ≠ "inferred_inputs")
    (inferred : Option InferredInputs) : (c.withInputs inferred).get? key = c.get? key := by
  cases inferred with
  | none => rfl
  | some i => rw [withInputs, get?_warn, get?_put, if_neg h]

end Context

namespace CodeStage

open Stage

/-- The stages ahead of the one that reads the reply. -/
def early (b : Backend) : List Stage :=
  [convertLayout, checkDesign, checkMapping, inferNodeInputs, compilePrompt, generateCode b]

theorem all_eq (b : Backend) : all b = early b ++ [parseReply, exportFiles] := rfl

theorem nodup_names (b : Backend) : ((all b).map (·.name)).Nodup := by
  show ["ir_conversion", "ir_validation", "mapping_validation", "input_inference",
    "prompt_compilation", "code_generation", "response_parsing", "export"].Nodup
  decide

variable {b : Backend} {c : Context} {d : Design} {inferred : Option InferredInputs}

theorem asInputs_map (member : String) (inferred : Option InferredInputs) :
    Datum.asInputs member (inferred.map .inputs) = .ok inferred := by
  cases inferred <;> rfl

theorem leads_convertLayout {layout screenName : Datum}
    (hlayout : c.get? "layout_document" = some layout)
    (hname : c.get? "screen_name" = some screenName)
    (hd : Design.ofLayout layout.toJson screenName.toJson = .ok d) :
    convertLayout.Leads c (c.put "design_ir" (.design d)) :=
  leads_ofAct (by
    simp only [EStateM.run_bind, Act.run_need_of_get? hlayout, Act.run_need_of_get? hname, hd,
      Act.run_ofExcept_ok, Act.run_put, EStateM.run_pure]
    rfl)

theorem execute_convertLayout_of_error {layout screenName : Datum} {f : Failure}
    (hlayout : c.get? "layout_document" = some layout)
    (hname : c.get? "screen_name" = some screenName)
    (hd : Design.ofLayout layout.toJson screenName.toJson = .error f) :
    convertLayout.execute c = ⟨c, .error f⟩ :=
  execute_ofAct_of_error (by
    simp only [EStateM.run_bind, Act.run_need_of_get? hlayout, Act.run_need_of_get? hname, hd,
      Act.run_ofExcept_error])

variable (hd : c.get? "design_ir" = some (.design d))

include hd

theorem leads_checkDesign (hname : d.screenName ≠ "") : checkDesign.Leads c c :=
  leads_ofAct (by
    simp only [EStateM.run_bind, Act.run_need_of_get? hd, Datum.toJson,
      Design.checkShape_toJson hname, Act.run_ofExcept_ok, EStateM.run_pure]
    rfl)

theorem leads_checkMapping : checkMapping.Leads c c :=
  leads_ofAct (by
    simp only [EStateM.run_bind, Act.run_need_of_get? hd, Datum.asDesign, Design.map_kind_toJson,
      MappingTable.checkAll_of_covers (MappingTable.covers_standard _), Act.run_ofExcept_ok, EStateM.run_pure]
    rfl)

theorem leads_inferNodeInputs {node : Json} (hnode : c.get? "source_node" = some (.given node)) :
    inferNodeInputs.Leads c (c.withInputs (nodeInputs node d)) := by
  have hfind : findNode.run c = .ok node c := by
    simp only [findNode, EStateM.run_bind, Act.run_find?, hnode, EStateM.run_pure, Option.map_some,
      Option.getD_some, Datum.toJson]
  unfold nodeInputs
  by_cases h : node.isTruthy = true
  · rw [if_pos h]
    exact leads_ofAct (by
      simp only [EStateM.run_bind, hfind, h, if_true, Act.run_need_of_get? hd, Datum.asDesign,
        Act.run_ofExcept_ok, Act.run_put, Act.run_warn, EStateM.run_pure]
      rfl)
  · rw [if_neg h]
    exact leads_ofAct (by
      simp only [EStateM.run_bind, hfind, h]
      rfl)

variable (hi : c.get? "inferred_inputs" = inferred.map .inputs)

include hi

theorem leads_compilePrompt {prompt : List Char} (h : Prompt.checkDesign d = .ok ())
    (hprompt : Prompt.codePrompt d .standard inferred = .ok prompt) :
    compilePrompt.Leads c (c.put "prompt" (.given (.str (String.ofList prompt)))) :=
  leads_ofAct (by
    simp only [EStateM.run_bind, Act.run_need_of_get? hd, Datum.asDesign, h, Act.run_ofExcept_ok,
      Act.run_find?, hi, asInputs_map, hprompt, Act.run_put, EStateM.run_pure]
    rfl)

theorem leads_generateCode (hsample : c.get? "test_mode" = some (.given (.bool true))) :
    (generateCode b).Leads c
      (c.put "model_text" (.given (.str (String.ofList (sampleReply d inferred))))) :=
  leads_ofAct (by
    simp only [EStateM.run_bind, Act.run_need_of_get? hsample, Datum.toJson, Json.isTruthy, if_true,
      sampleCode, Act.run_need_of_get? hd, Act.run_find?, hi, asInputs_map, Datum.asDesign,
      Act.run_ofExcept_ok, Act.run_put, EStateM.run_pure]
    rfl)

omit hi

theorem execute_compilePrompt_of_error {f : Failure} (h : Prompt.checkDesign d = .error f) :
    compilePrompt.execute c = ⟨c, .error f⟩ :=
  execute_ofAct_of_error (by
    simp only [EStateM.run_bind, Act.run_need_of_get? hd, Datum.asDesign, h, Act.run_ofExcept_ok,
      Act.run_ofExcept_error])

theorem leads_parseReply {reply : List Char} {files : FileSet}
    (hreply : c.get? "model_text" = some (.given (.str (String.ofList reply))))
    (hfiles : Reply.parse reply d.screenName.toList Settings.standard.minMarkupLength = .ok files) :
    parseReply.Leads c (c.withFiles files) :=
  leads_ofAct (by
    simp only [EStateM.run_bind, Act.run_need_of_get? hreply, Act.run_need_of_get? hd,
      Datum.asDesign, Datum.toJson, Json.text?, Option.getD_some, String.toList_ofList, hfiles,
      Act.run_ofExcept_ok, Act.run_put, Act.run_addErrors, Act.run_warn, EStateM.run_pure]
    rfl)

theorem execute_parseReply_of_error {reply : List Char} {f : Failure}
    (hreply : c.get? "model_text" = some (.given (.str (String.ofList reply))))
    (hf : Reply.parse reply d.screenName.toList Settings.standard.minMarkupLength = .error f) :
    parseReply.execute c = ⟨c, .error f⟩ :=
  execute_ofAct_of_error (by
    simp only [EStateM.run_bind, Act.run_need_of_get? hreply, Act.run_need_of_get? hd,
      Datum.asDesign, Datum.toJson, Json.text?, Option.getD_some, String.toList_ofList, hf,
      Act.run_ofExcept_ok, Act.run_ofExcept_error])

omit hd

theorem leads_exportFiles {files : FileSet} (h : c.get? "generated_files" = some (.files files)) :
    exportFiles.Leads c
      (c.put "export_manifest" (.exports (files.exports Settings.standard.outputDir))) :=
  leads_ofAct (by
    simp only [EStateM.run_bind, Act.run_need_of_get? h, Datum.asFiles, Act.run_ofExcept_ok,
      Act.run_put, EStateM.run_pure]
    rfl)

end CodeStage

/-! ## Files that are handed out -/

structure CodeRun.HandsOut (r : CodeRun) (s : FileSet) : Prop where
  files : r.files = some s
  exports : r.exports = s.exports Settings.standard.outputDir
  summary : r.summary = some s.summary

/-- The context behind the last two stages, which make files of a reply and list what is to be written. -/
def Context.finished (c : Context) (files : FileSet) : Context :=
  (c.withFiles files).put "export_manifest" (.exports (files.exports Settings.standard.outputDir))

/-- A run that ends there hands out the files. -/
theorem handsOut_of_finished {e : Ending} {c : Context} {files : FileSet}
    (h : e.toContext = c.finished files) : (CodeRun.ofEnding e).HandsOut files := by
  have hget (key : String) : (c.finished files).get? key =
      if key = "export_manifest" then some (.exports (files.exports Settings.standard.outputDir))
      else if key = "summary" then some (.given files.summary)
      else if key = "generated_files" then some (.files files)
      else c.get? key := by
    simp only [Context.finished, Context.withFiles, Context.get?_warn, Context.get?_addErrors,
      Context.get?_put]
  constructor
  · simp [CodeRun.ofEnding, Context.files?, h, hget]
  · simp [CodeRun.ofEnding, Context.exports, h, hget]
  · simp [CodeRun.ofEnding, h, hget, Datum.toJson]

/-! ## Whole runs -/

namespace CodeOrder

variable {o : CodeOrder} {d : Design} {prompt : String}

/-- The context behind the stages that prepare a design, when they pass. -/
def prepared (o : CodeOrder) (d : Design) : Context :=
  (o.context.put "design_ir" (.design d)).withInputs (nodeInputs o.node d)

/-- The context behind the stage that writes the prompt. -/
def prompted (o : CodeOrder) (d : Design) (prompt : String) : Context :=
  (o.prepared d).put "prompt" (.given (.str prompt))

/-- The context behind the stage that writes the reply. -/
def replied (o : CodeOrder) (d : Design) (prompt reply : String) : Context :=
  (o.prompted d prompt).put "model_text" (.given (.str reply))

theorem get?_prepared_design : (o.prepared d).get? "design_ir" = some (.design d) := by
  rw [prepared, Context.get?_withInputs_of_ne (by decide)]
  simp [Context.get?_put]

theorem get?_prepared_inputs :
    (o.prepared d).get? "inferred_inputs" = (nodeInputs o.node d).map .inputs := by
  rw [prepared]
  apply Context.get?_withInputs_self
  simp only [Context.get?_put]
  rfl

theorem get?_prepared_sample :
    (o.prepared d).get? "test_mode" = some (.given (.bool o.sample)) := by
  rw [prepared, Context.get?_withInputs_of_ne (by decide)]
  simp only [Context.get?_put]
  rfl

theorem get?_prompted_of_ne {key : String} (h : key ≠ "prompt") :
    (o.prompted d prompt).get? key = (o.prepared d).get? key := by
  rw [prompted, Context.get?_put, if_neg h]

theorem prepared_eq (o : CodeOrder) (d : Design) :
    (o.prepared d).errors = [] ∧ (o.prepared d).asked = [] := by
  unfold prepared
  cases nodeInputs o.node d <;> exact ⟨rfl, rfl⟩

variable (b : Backend)

/-- Once a design of a named screen is there, the four stages that prepare it pass. -/
theorem run_eq_run_prepared (hlayout : Design.ofLayout o.layout.toJson o.nameOrDefault = .ok d)
    (hname : d.screenName ≠ "") :
    run (CodeStage.all b) o.context =
      (run [CodeStage.compilePrompt, CodeStage.generateCode b, CodeStage.parseReply,
        CodeStage.exportFiles] (o.prepared d)).behind
        [CodeStage.convertLayout, CodeStage.checkDesign, CodeStage.checkMapping,
          CodeStage.inferNodeInputs] := by
  have hdesign : (o.context.put "design_ir" (.design d)).get? "design_ir" = some (.design d) := by
    simp [Context.get?_put]
  unfold CodeStage.all
  rw [run_cons_of_leads (CodeStage.leads_convertLayout rfl rfl hlayout),
    run_cons_of_leads (CodeStage.leads_checkDesign hdesign hname),
    run_cons_of_leads (CodeStage.leads_checkMapping hdesign),
    run_cons_of_leads (CodeStage.leads_inferNodeInputs hdesign rfl)]
  rfl

variable (hsample : o.sample = true)
  (hlayout : Design.ofLayout o.layout.toJson o.nameOrDefault = .ok d)
  (h : Prompt.checkDesign d = .ok ())

include hsample hlayout h

/-- With a component on a named screen, a reply is written, and only reading it can go wrong. -/
theorem run_eq_run_replied : ∃ prompt, run (CodeStage.all b) o.context =
    (run [CodeStage.parseReply, CodeStage.exportFiles] (o.replied d prompt
      (String.ofList (sampleReply d (nodeInputs o.node d))))).behind (CodeStage.early b) := by
  obtain ⟨text, htext⟩ := Prompt.codePrompt_standard h (nodeInputs o.node d)
  let prompt := String.ofList text
  have hprompt : CodeStage.compilePrompt.Leads (o.prepared d) (o.prompted d prompt) :=
    CodeStage.leads_compilePrompt get?_prepared_design get?_prepared_inputs h htext
  have hdesign : (o.prompted d prompt).get? "design_ir" = some (.design d) :=
    (get?_prompted_of_ne (by decide)).trans get?_prepared_design
  have hinputs : (o.prompted d prompt).get? "inferred_inputs" =
      (nodeInputs o.node d).map .inputs :=
    (get?_prompted_of_ne (by decide)).trans get?_prepared_inputs
  have htest : (o.prompted d prompt).get? "test_mode" = some (.given (.bool true)) := by
    rw [get?_prompted_of_ne (by decide), get?_prepared_sample, hsample]
  refine ⟨prompt, ?_⟩
  rw [run_eq_run_prepared b hlayout (Prompt.checkDesign_eq_ok.1 h).1, run_cons_of_leads hprompt,
    run_cons_of_leads (CodeStage.leads_generateCode hdesign hinputs htest)]
  rfl

omit hsample hlayout h

theorem get?_replied_design (prompt reply : String) :
    (o.replied d prompt reply).get? "design_ir" = some (.design d) := by
  rw [replied, Context.get?_put, if_neg (by decide), get?_prompted_of_ne (by decide),
    get?_prepared_design]

theorem get?_replied_inputs (prompt reply : String) :
    (o.replied d prompt reply).get? "inferred_inputs" = (nodeInputs o.node d).map .inputs := by
  rw [replied, Context.get?_put, if_neg (by decide), get?_prompted_of_ne (by decide),
    get?_prepared_inputs]

theorem get?_replied_reply (prompt reply : String) :
    (o.replied d prompt reply).get? "model_text" = some (.given (.str reply)) := by
  rw [replied, Context.get?_put, if_pos rfl]

include hsample hlayout h

/-- When no content is torn, the last two stages pass too. -/
theorem run_eq_ended (hwhole : (sampleFiles d (nodeInputs o.node d)).isTorn = false) :
    ∃ prompt reply, run (CodeStage.all b) o.context = Ending.behind (CodeStage.all b)
      { (o.replied d prompt reply).finished (sampleFiles d (nodeInputs o.node d)) with } := by
  obtain ⟨prompt, hrun⟩ := run_eq_run_replied b hsample hlayout h
  have hparse := CodeStage.leads_parseReply (get?_replied_design (o := o) prompt _)
    (get?_replied_reply prompt _) (Reply.parse_eq_ok_iff.2 ⟨hwhole, rfl⟩)
  have hfiles (c : Context) (files : FileSet) :
      (c.withFiles files).get? "generated_files" = some (.files files) := by
    simp [Context.withFiles, Context.get?_put]
  refine ⟨prompt, String.ofList (sampleReply d (nodeInputs o.node d)), ?_⟩
  rw [hrun, run_cons_of_leads hparse, run_cons_of_leads (CodeStage.leads_exportFiles (hfiles _ _))]
  rfl

/-- When a content is torn, the reply is not taken apart. -/
theorem run_eq_torn (htorn : (sampleFiles d (nodeInputs o.node d)).isTorn = true) :
    ∃ prompt reply f, run (CodeStage.all b) o.context =
      ((o.replied d prompt reply).halt CodeStage.parseReply.name f).behind (CodeStage.early b) := by
  obtain ⟨prompt, hrun⟩ := run_eq_run_replied b hsample hlayout h
  obtain ⟨t, ht⟩ := Reply.parse_of_isTorn htorn
  refine ⟨prompt, String.ofList (sampleReply d (nodeInputs o.node d)), .unencodable t, ?_⟩
  rw [hrun, run_cons_of_error (CodeStage.execute_parseReply_of_error
    (get?_replied_design prompt _) (get?_replied_reply prompt _) ht)]
  rfl

end CodeOrder

/-- What a run that writes a sample reply comes to when nothing stops it. -/
structure CodeRun.IsSample (r : CodeRun) (d : Design) (inferred : Option InferredInputs) : Prop where
  design : r.design = some d
  inputs : r.inputs = inferred
  files : r.files = some (sampleFiles d inferred)
  exports : r.exports = (sampleFiles d inferred).exports Settings.standard.outputDir
  summary : r.summary = some (sampleFiles d inferred).summary
  errors : r.errors = (sampleFiles d inferred).errors
  stages : r.stages = (CodeStage.all .unconfigured).map (·.name)
  asked : r.asked = []

theorem isSample_of_finished (b : Backend) (o : CodeOrder) (d : Design) (prompt reply : String) :
    (CodeRun.ofEnding (Ending.behind (CodeStage.all b) { (o.replied d prompt reply).finished
      (sampleFiles d (nodeInputs o.node d)) with })).IsSample d (nodeInputs o.node d) := by
  generalize hfiles : sampleFiles d (nodeInputs o.node d) = files
  generalize hending : Ending.behind (CodeStage.all b)
    { (o.replied d prompt reply).finished files with } = e
  have hcontext : e.toContext = (o.replied d prompt reply).finished files := by
    rw [← hending, Ending.toContext_behind]
  obtain ⟨herrors, hasked⟩ := o.prepared_eq d
  have hget (key : String) (hkey : key ∉ ["prompt", "model_text", "generated_files", "summary",
      "export_manifest"]) : e.get? key = (o.prepared d).get? key := by
    simp only [List.mem_cons, List.not_mem_nil, or_false, not_or] at hkey
    simp [hcontext, Context.finished, CodeOrder.replied, CodeOrder.prompted, Context.withFiles,
      Context.get?_put, hkey]
  have hout : (CodeRun.ofEnding e).HandsOut files := handsOut_of_finished hcontext
  constructor
  · unfold CodeRun.ofEnding Context.design?
    simp only [hget "design_ir" (by decide), CodeOrder.get?_prepared_design]
  · unfold CodeRun.ofEnding Context.inputs?
    simp only [hget "inferred_inputs" (by decide), CodeOrder.get?_prepared_inputs]
    cases nodeInputs o.node d <;> rfl
  · rw [hfiles]
    exact hout.files
  · rw [hfiles]
    exact hout.exports
  · rw [hfiles]
    exact hout.summary
  · rw [hfiles]
    show e.errors = _
    rw [hcontext]
    exact congrArg (· ++ _) herrors
  · show e.ran = _
    rw [← hending]
    exact (Ending.ran_behind (by rw [List.append_nil]; exact CodeStage.nodup_names b)).trans rfl
  · show e.asked = _
    rw [hcontext]
    exact hasked

/-! ## Where a run stops -/

/-- A run stops at the conversion of a layout that has no design. -/
theorem failedStage_of_no_design (b : Backend) {o : CodeOrder} {f : Failure}
    (h : Design.ofLayout o.layout.toJson o.nameOrDefault = .error f) :
    (run (CodeStage.all b) o.context).failedStage = some "ir_conversion" := by
  have hstops := CodeStage.execute_convertLayout_of_error (c := o.context) rfl rfl h
  unfold CodeStage.all
  rw [run_cons_of_error hstops]
  rfl

/-- A run stops at the prompt for a design without components. -/
theorem failedStage_of_no_components (b : Backend) {o : CodeOrder} {d : Design}
    (hlayout : Design.ofLayout o.layout.toJson o.nameOrDefault = .ok d) (hname : d.screenName ≠ "")
    (h : d.components = []) :
    (run (CodeStage.all b) o.context).failedStage = some "prompt_compilation" := by
  obtain ⟨f, hf⟩ : ∃ f, Prompt.checkDesign d = .error f := by
    cases hcheck : Prompt.checkDesign d with
    | ok u => exact absurd h (Prompt.checkDesign_eq_ok.1 hcheck).2
    | error f => exact ⟨f, rfl⟩
  have hstops := CodeStage.execute_compilePrompt_of_error (o.get?_prepared_design (d := d)) hf
  rw [CodeOrder.run_eq_run_prepared b hlayout hname, Ending.failedStage_behind,
    run_cons_of_error hstops]
  rfl

section Components

variable (b : Backend) {o : CodeOrder} {d : Design} (hsample : o.sample = true)
  (hlayout : Design.ofLayout o.layout.toJson o.nameOrDefault = .ok d)
  (h : Prompt.checkDesign d = .ok ())

include hsample hlayout h

/-- With a component on a named screen and without a torn content, a run that writes a sample reply does
not stop. -/
theorem isSample_of_component (hwhole : (sampleFiles d (nodeInputs o.node d)).isTorn = false) :
    (run (CodeStage.all b) o.context).failedStage = none ∧
      (generateCode b o).IsSample d (nodeInputs o.node d) := by
  obtain ⟨prompt, reply, hrun⟩ := CodeOrder.run_eq_ended b hsample hlayout h hwhole
  unfold generateCode
  rw [hrun, Ending.failedStage_behind]
  exact ⟨rfl, isSample_of_finished b o d prompt reply⟩

/-- A run that writes a sample reply stops where the reply is read when a content is torn. -/
theorem failedStage_of_isTorn (htorn : (sampleFiles d (nodeInputs o.node d)).isTorn = true) :
    (run (CodeStage.all b) o.context).failedStage = some "response_parsing" ∧
      (generateCode b o).design = some d ∧ (generateCode b o).inputs = nodeInputs o.node d := by
  obtain ⟨prompt, reply, f, hrun⟩ := CodeOrder.run_eq_torn b hsample hlayout h htorn
  have hcontext : (run (CodeStage.all b) o.context).toContext =
      (o.replied d prompt reply).addErrors [s!"{CodeStage.parseReply.name}: {f.message}"] := by
    rw [hrun, Ending.toContext_behind]
    rfl
  refine ⟨by rw [hrun, Ending.failedStage_behind]; rfl, ?_, ?_⟩
  · simp only [generateCode, CodeRun.ofEnding, Context.design?, hcontext, Context.get?_addErrors,
      CodeOrder.get?_replied_design]
  · simp only [generateCode, CodeRun.ofEnding, Context.inputs?, hcontext, Context.get?_addErrors,
      CodeOrder.get?_replied_inputs]
    cases nodeInputs o.node d <;> rfl

/-- A run that succeeds has read a whole reply. -/
theorem isTorn_sampleFiles_of_success (hsuccess : (generateCode b o).success = true) :
    (sampleFiles d (nodeInputs o.node d)).isTorn = false := by
  rw [← Bool.not_eq_true]
  intro htorn
  obtain ⟨prompt, reply, f, hrun⟩ := CodeOrder.run_eq_torn b hsample hlayout h htorn
  have herrors : (run (CodeStage.all b) o.context).errors = [] := List.isEmpty_iff.1 hsuccess
  rw [hrun, Ending.toContext_behind] at herrors
  exact absurd herrors (List.append_ne_nil_of_right_ne_nil _ (List.cons_ne_nil _ _))

/-- The design and the inputs of a run are there before its reply is read. -/
theorem design_inputs_of_component :
    (generateCode b o).design = some d ∧ (generateCode b o).inputs = nodeInputs o.node d := by
  cases htorn : (sampleFiles d (nodeInputs o.node d)).isTorn with
  | true => exact (failedStage_of_isTorn b hsample hlayout h htorn).2
  | false =>
    have hr := (isSample_of_component b hsample hlayout h htorn).2
    exact ⟨hr.design, hr.inputs⟩

end Components

/-- The name of an order's screen, when it is given as a text or left out, is a text that is not
empty. -/
theorem nameOrDefault_text {o : CodeOrder} {name? : Option String} (h : o.screenName = .ofText? name?) :
    ∃ name, o.nameOrDefault = .str name ∧ name ≠ "" := by
  unfold CodeOrder.nameOrDefault
  rw [h]
  cases name? with
  | none => exact ⟨_, rfl, by decide⟩
  | some name =>
    by_cases hname : name = ""
    · subst hname
      exact ⟨_, rfl, by decide⟩
    · exact ⟨name, by simp [Json.ofText?, Json.orElse, Json.isTruthy, hname], hname⟩

/-- **Where a run that writes a sample reply stops.** Whatever the screen is called and whatever the node
holds, the run stops at the conversion exactly when the layout is no object with a list of components or
of sections, and at the prompt exactly when it is one but no object stands among its components. With a
component there is a design, and the run stops where its reply is read exactly when the content of a file
is torn; otherwise nothing stops it: there are files and a summary, and all eight stages were run. -/
theorem sample_run_stops_for_layout (b : Backend) (layout : Datum) (name? : Option String)
    (node : Json) :
    let o : CodeOrder := ⟨layout, .ofText? name?, true, node⟩
    let c := run (CodeStage.all b) o.context
    let r := generateCode b o
    (c.failedStage = some "ir_conversion" ↔ ¬layout.toJson.IsObject Design.HasCollection) ∧
      (c.failedStage = some "prompt_compilation" ↔
        layout.toJson.IsObject Design.HasCollection ∧
          ¬layout.toJson.IsObject Design.HasComponent) ∧
      (layout.toJson.IsObject Design.HasComponent → ∃ d, r.design = some d ∧
        (c.failedStage = some "response_parsing" ↔ (sampleFiles d (nodeInputs node d)).isTorn = true) ∧
        ((sampleFiles d (nodeInputs node d)).isTorn = false →
          c.failedStage = none ∧ r.files.isSome = true ∧ r.summary.isSome = true ∧
            r.stages = ["ir_conversion", "ir_validation", "mapping_validation", "input_inference",
              "prompt_compilation", "code_generation", "response_parsing", "export"])) := by
  intro o c r
  obtain ⟨name, hname, hne⟩ := nameOrDefault_text (o := o) rfl
  by_cases hcollection : layout.toJson.IsObject Design.HasCollection
  · obtain ⟨d, hd, hscreen, hcomponents⟩ := Design.ofLayout_of_collection hcollection hne
    rw [← hname] at hd
    rw [← hscreen] at hne
    by_cases hcomponent : layout.toJson.IsObject Design.HasComponent
    · have hcheck := Prompt.checkDesign_eq_ok.2 ⟨hne, hcomponents.2 hcomponent⟩
      cases htorn : (sampleFiles d (nodeInputs node d)).isTorn with
      | true =>
        obtain ⟨hfailed, hdesign, -⟩ := failedStage_of_isTorn b (o := o) rfl hd hcheck htorn
        have hstops : c.failedStage = some "response_parsing" := hfailed
        rw [hstops]
        refine ⟨iff_of_false (by decide) fun h => h hcollection,
          iff_of_false (by decide) fun h => h.2 hcomponent, fun _ => ⟨d, hdesign, ?_⟩⟩
        rw [htorn]
        exact ⟨iff_of_true rfl rfl, nofun⟩
      | false =>
        obtain ⟨hfailed, hr⟩ := isSample_of_component b (o := o) rfl hd hcheck htorn
        have hnone : c.failedStage = none := hfailed
        rw [hnone]
        refine ⟨iff_of_false nofun fun h => h hcollection, iff_of_false nofun fun h => h.2 hcomponent,
          fun _ => ⟨d, hr.design, ?_⟩⟩
        rw [htorn]
        refine ⟨iff_of_false nofun nofun, fun _ => ⟨rfl, ?_, ?_, hr.stages⟩⟩
        · rw [hr.files, Option.isSome_some]
        · rw [hr.summary, Option.isSome_some]
    · have hstops : c.failedStage = some "prompt_compilation" :=
        failedStage_of_no_components b hd hne (Classical.not_not.1 (mt hcomponents.1 hcomponent))
      rw [hstops]
      exact ⟨iff_of_false (by decide) fun h => h hcollection,
        iff_of_true rfl ⟨hcollection, hcomponent⟩, fun h => absurd h hcomponent⟩
  · obtain ⟨f, hf⟩ := Design.ofLayout_of_no_collection hcollection o.nameOrDefault
    have hstops : c.failedStage = some "ir_conversion" := failedStage_of_no_design b hf
    rw [hstops]
    exact ⟨iff_of_true rfl hcollection, iff_of_false (by decide) fun h => hcollection h.1,
      fun ⟨layout, hlayout, h⟩ => absurd ⟨layout, hlayout, h.hasCollection⟩ hcollection⟩

end Wireframe
