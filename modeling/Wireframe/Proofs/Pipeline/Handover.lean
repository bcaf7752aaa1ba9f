import Wireframe.Pipeline.Screen
import Wireframe.Proofs.Design.Forms
import Wireframe.Proofs.Pipeline.Blind
import Wireframe.Proofs.Pipeline.LayoutResult
import Wireframe.Proofs.Pipeline.SampleRun

/-!
# From a layout to its code by way of a client

What a client is told of a layout holds the components twice: in the sections and listed. Given back as
the layout of an order for code, it leads to the same code as the layout itself.

* `Design.ofLayout_layoutPayload` — the design of what a client is told.
* `generateCode_congr` — code depends on a layout through its design only.
* `payload_hands_over` — the two ways to the code of a screen come to the same.
-/

set_option autoImplicit false

namespace Wireframe

/-! ## Designs -/

/-- A listed component as it stands in a document. -/
def FlatComponent.plain (c : FlatComponent) : LayoutComponent := ⟨c.key, c.text⟩

theorem FlatComponent.plain_mirrors_toJson (c : FlatComponent) :
    c.toJson.IsObject c.plain.Mirrors := by
  obtain ⟨key, text?, sectionName, direction, role, priority⟩ := c
  refine ⟨_, rfl, rfl, ?_⟩
  cases text? <;> rfl

/-- The listed components are those of the document, in order. -/
theorem EnhancedLayout.map_plain_flattened (l : EnhancedLayout) :
    l.flattened.map (·.plain) = l.plain.components := by
  unfold flattened plain LayoutDocument.components
  rw [List.map_flatMap, List.flatMap_map]
  refine List.flatMap_congr fun s _ => ?_
  rw [List.map_map, EnhancedSection.plain]
  rfl

namespace Design

theorem ofLayout_layoutPayload {r : LayoutRun} {l : EnhancedLayout} (h : r.components = l.flattened)
    (screenName : Json) :
    ofLayout (.obj (r.layoutPayload l)) screenName = ofDocument l.plain screenName := by
  have hlist : (r.layoutPayload l).get "components" = .arr (r.components.map (·.toJson)) := rfl
  have hcomponents : (objects (r.components.map (·.toJson))).map DesignComponent.ofLayout =
      l.plain.components.map .ofComponent := by
    rw [h, ← l.map_plain_flattened]
    apply ofLayout_objects
    exact List.forall₂_map_left_iff.2 (List.forall₂_map_right_iff.2
      (List.forall₂_same.2 fun c _ => c.plain_mirrors_toJson))
  have hscreen : (r.layoutPayload l).get "screenType" = .str l.plain.screenType.text := rfl
  rw [ofLayout_of_components (componentsOf?_flat hlist), hcomponents, hscreen]
  rfl

end Design

/-! ## Code -/

/-- Endings that agree but for the layout have the same code in them. -/
theorem CodeRun.ofEnding_eq {e e' : Ending} (h : e.AgreeBut "layout_document" e') :
    CodeRun.ofEnding e = CodeRun.ofEnding e' := by
  have hc := h.context
  unfold CodeRun.ofEnding Context.design? Context.files? Context.exports Context.inputs?
  rw [hc.entries "design_ir" (by decide), hc.entries "generated_files" (by decide),
    hc.entries "export_manifest" (by decide), hc.entries "inferred_inputs" (by decide),
    hc.entries "summary" (by decide), hc.errors, hc.warnings, h.ran, hc.asked]

/-- The contexts of two orders that differ in the layout only. -/
theorem CodeOrder.agreeBut_context (layout layout' : Datum) (screenName : Json) (sample : Bool)
    (node : Json) :
    (CodeOrder.context ⟨layout, screenName, sample, node⟩).AgreeBut "layout_document"
      (CodeOrder.context ⟨layout', screenName, sample, node⟩) where
  entries other h := by
    simp only [CodeOrder.context, Context.get?, List.lookup_cons, beq_false_of_ne h]
    rfl
  errors := rfl
  warnings := rfl
  asked := rfl

/-- **Code depends on a layout through its design only.** -/
theorem generateCode_congr (b : Backend) {layout layout' : Datum}
    (h : ∀ name, Design.ofLayout layout.toJson name = Design.ofLayout layout'.toJson name)
    (screenName : Json) (sample : Bool) (node : Json) :
    generateCode b ⟨layout, screenName, sample, node⟩ =
      generateCode b ⟨layout', screenName, sample, node⟩ := by
  let o : CodeOrder := ⟨layout, screenName, sample, node⟩
  let o' : CodeOrder := ⟨layout', screenName, sample, node⟩
  have hagree : o.context.AgreeBut "layout_document" o'.context :=
    CodeOrder.agreeBut_context layout layout' screenName sample node
  have hsame : Design.ofLayout layout.toJson o.nameOrDefault =
      Design.ofLayout layout'.toJson o.nameOrDefault := h o.nameOrDefault
  apply CodeRun.ofEnding_eq
  show (run (CodeStage.convertLayout :: (CodeStage.all b).tail) o.context).AgreeBut _
    (run (CodeStage.convertLayout :: (CodeStage.all b).tail) o'.context)
  cases hd : Design.ofLayout layout'.toJson o.nameOrDefault with
  | ok d =>
    rw [run_cons_of_leads (CodeStage.leads_convertLayout (c := o.context) rfl rfl (hsame.trans hd)),
      run_cons_of_leads (CodeStage.leads_convertLayout (c := o'.context) rfl rfl hd)]
    exact (run_agreeBut (fun s => CodeStage.blind_behind_convertLayout)
      (hagree.put "design_ir" (.design d))).after _
  | error f =>
    rw [run_cons_of_error (CodeStage.execute_convertLayout_of_error (c := o.context) rfl rfl
        (hsame.trans hd)),
      run_cons_of_error (CodeStage.execute_convertLayout_of_error (c := o'.context) rfl rfl hd)]
    exact hagree.halt _ f

/-! ## Two ways to the code of a screen -/

/-- A run that succeeds hands out a layout with all its components listed. -/
theorem LayoutRun.exists_layout_of_success {b : Backend} {description : Json}
    (h : (generateLayout b description).success = true) :
    ∃ l, (generateLayout b description).layout = some l ∧
      (generateLayout b description).components = l.flattened := by
  obtain ⟨text, rfl⟩ := exists_text_of_success h
  obtain ⟨fields, judged, d, config, l, -, -, -, hr⟩ := exists_delivers_of_success h
  exact ⟨l, hr.layout, hr.components⟩

theorem LayoutRun.payload_of_layout {r : LayoutRun} {l : EnhancedLayout} (hsuccess : r.success = true)
    (hlayout : r.layout = some l) : r.payload = .obj (r.layoutPayload l) := by
  unfold payload
  simp only [hlayout, hsuccess, if_true]

/-- With a layout, a run for a screen is a run for the layout and then one for its code. -/
theorem generateScreen_of_layout {b : Backend} {o : ScreenOrder} {l : EnhancedLayout}
    (h : (generateLayout b o.description).layout = some l) :
    (generateScreen b o).layout = generateLayout b o.description ∧
      (generateScreen b o).code = some (generateCode b (o.codeOrder l)) ∧
      (generateScreen b o).errors =
        (generateLayout b o.description).errors ++ (generateCode b (o.codeOrder l)).errors := by
  unfold generateScreen
  simp only [h, and_self]

/-- **It makes no difference whether a layout goes to its code by way of a client.** What a client is
told of a layout, given as the layout of an order for code, comes to the same code as the layout itself,
for every backend, name and node; and a run for a screen is a run for the layout and then a run for the
code of what a client is told. -/
theorem payload_hands_over {b : Backend} {description : Json}
    (h : (generateLayout b description).success = true) :
    let r := generateLayout b description
    ∃ l, r.layout = some l ∧ ∀ (screenName : Json) (sample : Bool) (node : Json),
      (∀ b' : Backend, generateCode b' ⟨.given r.payload, screenName, sample, node⟩ =
        generateCode b' ⟨.enhanced l, screenName, sample, node⟩) ∧
      let screen := generateScreen b ⟨description, screenName, sample, node⟩
      let code := generateCode b ⟨.given r.payload, screenName, sample, node⟩
      screen.layout = r ∧ screen.code = some code ∧ screen.errors = r.errors ++ code.errors := by
  intro r
  obtain ⟨l, hlayout, hcomponents⟩ := LayoutRun.exists_layout_of_success h
  have hpayload : r.payload = .obj (r.layoutPayload l) := LayoutRun.payload_of_layout h hlayout
  have hdesign (name : Json) : Design.ofLayout (Datum.given r.payload).toJson name =
      Design.ofLayout (Datum.enhanced l).toJson name := by
    show Design.ofLayout r.payload name = Design.ofLayout l.toWire name
    rw [hpayload, Design.ofLayout_layoutPayload hcomponents, Design.ofLayout_enhanced_toWire]
  refine ⟨l, hlayout, fun screenName sample node =>
    ⟨fun b' => generateCode_congr b' hdesign screenName sample node, ?_⟩⟩
  rw [generateCode_congr b hdesign screenName sample node]
  exact generateScreen_of_layout (o := ⟨description, screenName, sample, node⟩) hlayout

theorem payload_hands_over_fencedReply :
    let r := generateLayout (.saying fencedReply) (.str "A login screen")
    ∃ l, r.layout = some l ∧ ∀ (screenName : Json) (sample : Bool) (node : Json),
      (∀ b' : Backend, generateCode b' ⟨.given r.payload, screenName, sample, node⟩ =
        generateCode b' ⟨.enhanced l, screenName, sample, node⟩) ∧
      let screen := generateScreen (.saying fencedReply)
        ⟨.str "A login screen", screenName, sample, node⟩
      let code := generateCode (.saying fencedReply) ⟨.given r.payload, screenName, sample, node⟩
      screen.layout = r ∧ screen.code = some code ∧ screen.errors = r.errors ++ code.errors :=
  payload_hands_over fencedReply_succeeds

end Wireframe
