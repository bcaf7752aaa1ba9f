import Wireframe.Proofs.Pipeline.SampleRun
import Wireframe.Proofs.Reply.SampleIssues

/-!
# Whether runs without a backend succeed

A run that writes a sample reply and is not stopped succeeds unless something is found wrong with its own
reply. For a screen whose name is an identifier that does not begin with a dollar sign, and whole files
without a fence mark, that can only be the advice on a template that names a button but no part of the
component library: advice is among the errors of a run.

* `sample_run_succeeds` — when such a run succeeds, and what it reports when it does not.
* `sample_run_can_fail` — the advice, a fence mark in a text and a dollar sign each make a run fail.
* `sample_run_stops_for_half` — half of a surrogate pair in a text stops a run.
-/

set_option autoImplicit false

namespace Wireframe

open Reply Text Sample

variable {d : Design} {inferred : Option InferredInputs}

/-- Every issue with a sample reply counts as an error, advice too. -/
theorem errors_sampleFiles_eq (d : Design) (inferred : Option InferredInputs) :
    (sampleFiles d inferred).errors =
      (extractFiles (sampleReply d inferred) d.screenName.toList
        Settings.standard.minMarkupLength).issues.map (·.message) := by
  unfold sampleFiles
  simp only [extractFiles]

/-- The errors of the files of a sample reply: the advice on its template or none. -/
theorem errors_sampleFiles (hname : Naming.isIdentifierText d.screenName.toList = true)
    (hdollar : d.screenName.toList.head? ≠ some '$')
    (hmark : ∀ k, ¬fenceMark <:+: fileText d inferred k) :
    (sampleFiles d inferred).errors =
      if NamesLibrary (fileText d inferred .html) then [] else [libraryAdvice.message] := by
  have hlength : (Settings.standard.minMarkupLength : Int) ≤ 12 := by decide
  have hissues := sampleReply_issues hname hdollar hmark hlength
  by_cases h : NamesLibrary (fileText d inferred .html)
  · rw [if_pos h] at hissues ⊢
    rw [errors_sampleFiles_eq, hissues, List.map_nil]
  · rw [if_neg h] at hissues ⊢
    rw [errors_sampleFiles_eq, hissues, List.map_singleton]

theorem success_eq (b : Backend) (o : CodeOrder) :
    (generateCode b o).success = (generateCode b o).errors.isEmpty := rfl

/-- **A run that writes a sample reply succeeds without errors**, for every layout with a component,
whatever its texts and the node are, when the name of the screen, given or not, is an identifier
that does not begin with a dollar sign and the files that are written are whole and without a fence mark.
One thing is excepted: when the template names a button but no part of the component library, the advice
against that is the run's only error. -/
theorem sample_run_succeeds (b : Backend) {o : CodeOrder} {name : String} (hsample : o.sample = true)
    (hscreen : o.nameOrDefault = .str name) (hname : Naming.isIdentifierText name.toList = true)
    (hdollar : name.toList.head? ≠ some '$')
    (hcomponent : o.layout.toJson.IsObject Design.HasComponent) :
    let r := generateCode b o
    ∃ d, r.design = some d ∧ d.screenName = name ∧
      ((∀ k, ¬fenceMark <:+: fileText d r.inputs k) → (∀ k, isTorn (fileText d r.inputs k) = false) →
        (NamesLibrary (fileText d r.inputs .html) → r.success = true ∧ r.errors = []) ∧
          (¬NamesLibrary (fileText d r.inputs .html) →
            r.success = false ∧ r.errors = ["HTML may be missing PrimeNG components"])) := by
  intro r
  have hne : name ≠ "" := by
    rintro rfl
    exact absurd hname (by decide)
  have hcollection : o.layout.toJson.IsObject Design.HasCollection := by
    obtain ⟨layout, hlayout, h⟩ := hcomponent
    exact ⟨layout, hlayout, h.hasCollection⟩
  obtain ⟨d, hd, rfl, hcomponents⟩ := Design.ofLayout_of_collection hcollection hne
  rw [← hscreen] at hd
  have hcheck := Prompt.checkDesign_eq_ok.2 ⟨hne, hcomponents.2 hcomponent⟩
  have hsuccess : r.success = r.errors.isEmpty := success_eq b o
  obtain ⟨hdesign, hinputs⟩ := design_inputs_of_component b hsample hd hcheck
  refine ⟨d, hdesign, rfl, fun hmark hwhole => ?_⟩
  have hinputs : r.inputs = nodeInputs o.node d := hinputs
  rw [hinputs] at hmark hwhole ⊢
  obtain ⟨-, hr⟩ := isSample_of_component b hsample hd hcheck
    ((isTorn_extractFiles_sampleReply hmark _ _).2 hwhole)
  have herrors : r.errors = _ := hr.errors.trans (errors_sampleFiles hname hdollar hmark)
  constructor
  · intro hlibrary
    rw [if_pos hlibrary] at herrors
    rw [hsuccess, herrors]
    exact ⟨rfl, rfl⟩
  · intro hlibrary
    rw [if_neg hlibrary] at herrors
    rw [hsuccess, herrors]
    exact ⟨rfl, rfl⟩

/-! ## Screens with one component -/

/-- A component of a kind with a text, as it stands in a layout. -/
def singleFields (key text : String) : Fields := [("componentKey", .str key), ("text", .str text)]

/-- An order for a named screen with one component. -/
def singleOrder (name key text : String) : CodeOrder where
  layout := .given (.obj [("components", .arr [.obj (singleFields key text)])])
  screenName := .str name
  sample := true
  node := .null

/-- The design of such a screen. -/
def singleDesign (name key text : String) : Design where
  screenName := name
  flow := .ofScreenType .null
  components := [.ofLayout (singleFields key text)]
  tokens := .ofScreenType .null

theorem hasComponent_singleOrder (name key text : String) :
    (singleOrder name key text).layout.toJson.IsObject Design.HasComponent :=
  ⟨_, rfl, .inl ⟨_, rfl, _, List.mem_singleton_self _⟩⟩

theorem nameOrDefault_singleOrder {name : String} (hname : name ≠ "") (key text : String) :
    (singleOrder name key text).nameOrDefault = .str name := by
  simp [CodeOrder.nameOrDefault, singleOrder, Json.orElse, Json.isTruthy, hname]

theorem ofLayout_singleOrder {name : String} (hname : name ≠ "") (key text : String) :
    Design.ofLayout (singleOrder name key text).layout.toJson
      (singleOrder name key text).nameOrDefault = .ok (singleDesign name key text) := by
  rw [nameOrDefault_singleOrder hname]
  have hcomponents : Design.componentsOf? [("components", .arr [.obj (singleFields key text)])] =
      some [singleFields key text] := rfl
  refine (Design.ofLayout_of_components hcomponents _).trans ?_
  rw [Design.screenNameOf_text hname]
  rfl

theorem checkDesign_singleDesign {name : String} (hname : name ≠ "") (key text : String) :
    Prompt.checkDesign (singleDesign name key text) = .ok () :=
  Prompt.checkDesign_eq_ok.2 ⟨hname, List.cons_ne_nil _ _⟩

section Whole

variable {name key text : String} (hname : name ≠ "")
  (hwhole : (sampleFiles (singleDesign name key text) none).isTorn = false)

include hname hwhole

theorem isSample_singleOrder (b : Backend) :
    (generateCode b (singleOrder name key text)).IsSample (singleDesign name key text) none :=
  (isSample_of_component b rfl (ofLayout_singleOrder hname key text)
    (checkDesign_singleDesign hname key text) hwhole).2

/-- What such a run reports is what is wrong with its own reply. -/
theorem errors_singleOrder : (generateCode .unconfigured (singleOrder name key text)).errors =
    (replyIssues (sampleReply (singleDesign name key text) none) name.toList
      Settings.standard.minMarkupLength).map (·.message) := by
  rw [(isSample_singleOrder hname hwhole .unconfigured).errors, errors_sampleFiles_eq,
    issues_extractFiles]
  rfl

end Whole

/-- Such a run succeeds when its reply is whole and nothing is wrong with it. -/
theorem success_singleOrder {name key text : String} (hname : name ≠ "")
    (h : isTorn (sampleReply (singleDesign name key text) none) = false ∧
      replyIssues (sampleReply (singleDesign name key text) none) name.toList
        Settings.standard.minMarkupLength = []) :
    (generateCode .unconfigured (singleOrder name key text)).success = true := by
  obtain ⟨hwhole, hissues⟩ := h
  rw [success_eq, errors_singleOrder hname (isTorn_extractFiles hwhole _ _), hissues, List.map_nil,
    List.isEmpty_nil]

theorem success_signIn :
    (generateCode .unconfigured (singleOrder "Login" "heading" "Sign in")).success = true :=
  success_singleOrder (by decide) (by decide +kernel)

theorem sample_run_succeeds_button :
    let o := singleOrder "Login" "button" "Let's go"
    o.sample = true ∧ o.nameOrDefault = .str "Login" ∧
      Naming.isIdentifierText "Login".toList = true ∧ "Login".toList.head? ≠ some '$' ∧
      o.layout.toJson.IsObject Design.HasComponent ∧
      (generateCode .unconfigured o).success = true ∧ (generateCode .unconfigured o).errors = [] := by
  intro o
  have hscreen : o.nameOrDefault = .str "Login" := rfl
  have hname : Naming.isIdentifierText "Login".toList = true := by decide
  have hdollar : "Login".toList.head? ≠ some '$' := by decide
  have hcomponent := hasComponent_singleOrder "Login" "button" "Let's go"
  have hfiles (k : FileKind) :
      ¬fenceMark <:+: fileText (singleDesign "Login" "button" "Let's go") none k ∧
        isTorn (fileText (singleDesign "Login" "button" "Let's go") none k) = false := by
    rw [← occursIn_iff]
    cases k <;> decide +kernel
  have hmark (k : FileKind) := (hfiles k).1
  have hwhole (k : FileKind) := (hfiles k).2
  have hsample : (generateCode .unconfigured o).IsSample (singleDesign "Login" "button" "Let's go")
      none := isSample_singleOrder (by decide)
    ((isTorn_extractFiles_sampleReply hmark _ _).2 hwhole) .unconfigured
  obtain ⟨d, hd, -, h⟩ :=
    sample_run_succeeds .unconfigured (o := o) rfl hscreen hname hdollar hcomponent
  obtain rfl : singleDesign "Login" "button" "Let's go" = d :=
    Option.some_inj.1 (hsample.design.symm.trans hd)
  rw [hsample.inputs] at h
  exact ⟨rfl, hscreen, hname, hdollar, hcomponent, (h hmark hwhole).1 (by decide +kernel)⟩

/-- A run for a screen whose name is an identifier and whose only component is a heading fails. -/
structure FailsWith (name text error : String) : Prop where
  identifier : Naming.isIdentifierText name.toList = true
  screen : (singleOrder name "heading" text).nameOrDefault = .str name
  component : (singleOrder name "heading" text).layout.toJson.IsObject Design.HasComponent
  success : (generateCode .unconfigured (singleOrder name "heading" text)).success = false
  errors : (generateCode .unconfigured (singleOrder name "heading" text)).errors = [error]

/-- Whether such a run fails can be read off its reply. -/
theorem failsWith_of_issues {name text error : String}
    (hname : Naming.isIdentifierText name.toList = true)
    (h : isTorn (sampleReply (singleDesign name "heading" text) none) = false ∧
      (replyIssues (sampleReply (singleDesign name "heading" text) none) name.toList
        Settings.standard.minMarkupLength).map (·.message) = [error]) :
    FailsWith name text error := by
  obtain ⟨hwhole, hissues⟩ := h
  have hne : name ≠ "" := by
    rintro rfl
    exact absurd hname (by decide)
  have herrors : (generateCode .unconfigured (singleOrder name "heading" text)).errors = [error] :=
    (errors_singleOrder hne (isTorn_extractFiles hwhole _ _)).trans hissues
  refine ⟨hname, nameOrDefault_singleOrder hne _ _, hasComponent_singleOrder _ _ _, ?_, herrors⟩
  rw [success_eq, herrors, List.isEmpty_cons]

theorem sample_run_can_fail :
    FailsWith "Login" "Press the button" "HTML may be missing PrimeNG components" ∧
      FailsWith "Login" "```" "Empty scss file content" ∧
      FailsWith "$Login" "Sign in" "TypeScript file missing export class" := by
  refine ⟨?_, ?_, ?_⟩
  · exact failsWith_of_issues (by decide) (by decide +kernel)
  · exact failsWith_of_issues (by decide) (by decide +kernel)
  · exact failsWith_of_issues (by decide) (by decide +kernel)

theorem singleDesign_half : singleDesign "Login" "heading" halfText = halfDesign := by
  have hcomponent : DesignComponent.ofLayout (singleFields "heading" halfText) = .heading halfText := by
    decide +kernel
  rw [singleDesign, hcomponent]
  rfl

/-- A heading of half a surrogate pair is a component, and the run stops where its reply is read. -/
theorem sample_run_stops_for_half :
    (singleOrder "Login" "heading" halfText).layout.toJson.IsObject Design.HasComponent ∧
      (run (CodeStage.all .unconfigured) (singleOrder "Login" "heading" halfText).context).failedStage =
        some "response_parsing" := by
  have htorn : (sampleFiles (singleDesign "Login" "heading" halfText) none).isTorn = true := by
    rw [singleDesign_half]
    exact isTorn_halfReply _ _
  exact ⟨hasComponent_singleOrder _ _ _, (failedStage_of_isTorn .unconfigured rfl
    (ofLayout_singleOrder (by decide) _ _) (checkDesign_singleDesign (by decide) _ _) htorn).1⟩

end Wireframe
