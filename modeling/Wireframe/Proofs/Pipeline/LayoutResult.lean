import Wireframe.Proofs.Pipeline.LayoutRun

/-!
# What a run for a layout hands out

A run that succeeds hands out the layout of the object in the answer. The metadata, the listed
components and the warnings are made by different stages, the metadata ahead of the canvas; they are
those of the layout that is handed out.

* `LayoutRun.exists_delivers_of_success` — the document behind a run that succeeds.
* `layout_run_delivers` — what such a run hands out.
-/

set_option autoImplicit false

namespace Wireframe

/-- The components of an enhanced layout are those that it has without what was derived. -/
theorem EnhancedLayout.length_flattened (l : EnhancedLayout) :
    l.flattened.length = l.plain.componentCount := by
  unfold flattened plain LayoutDocument.componentCount
  induction l.sections with
  | nil => rfl
  | cons s rest ih =>
    rw [List.flatMap_cons, List.length_append, ih, List.length_map, List.map_cons, List.foldr_cons,
      EnhancedSection.plain, List.length_map]

/-- As many components are listed as the metadata of a layout count. -/
theorem LayoutDocument.IsPlaced.length_flattened {d : LayoutDocument} {config : ArchetypeConfig}
    {l : EnhancedLayout} (h : d.IsPlaced config l) :
    l.flattened.length = l.metadata.totalComponents := by
  have hmetadata := (metadata_eq_ok.1 h.metadata).2
  rw [l.length_flattened, hmetadata]

/-- Behind a run that succeeds there is an object in the answer that is a valid layout with an archetype
in the table. -/
theorem LayoutRun.exists_delivers_of_success {b : Backend} {description : String}
    (h : (generateLayout b (.str description)).success = true) :
    ∃ fields judged d config l, b.Gives description fields ∧ Accepts fields judged d ∧
      configFor? d.archetype = some config ∧
      (generateLayout b (.str description)).Delivers judged.warnings d config l := by
  rcases (generateLayout_ending b description).failsAt_or_delivers with ⟨stage, f, hr⟩ | hdelivers
  · rw [hr.success] at h
    cases h
  · exact hdelivers

/-- Only a description that is a text leads to a layout. -/
theorem LayoutRun.exists_text_of_success {b : Backend} {description : Json}
    (h : (generateLayout b description).success = true) : ∃ text, description = .str text := by
  by_contra hnot
  have hstops := LayoutStage.execute_buildPrompt_of_not_text
    (c := .ofFields [("user_prompt", description)]) rfl fun text ht => hnot ⟨text, ht⟩
  have hfails : (generateLayout b description).FailsAt "prompt_build" _ :=
    LayoutRun.failsAt_of_error [] hstops rfl rfl rfl _
  rw [hfails.success] at h
  cases h

/-- **What a run for a layout hands out is one thing.** When a run succeeds, there is an object in the
answer that is a valid layout, read as a document. The layout is the enhanced form of the document, on
the document's canvas or else on the frame of its archetype, and only its density is another one. The
metadata are those that the finished layout has; the components are its own, section by section, as many
as the metadata say; and the warnings are those of validation, then the one about a canvas that is
missing, if it is, and then those about the archetype. -/
theorem layout_run_delivers {b : Backend} {description : String}
    (h : (generateLayout b (.str description)).success = true) :
    let r := generateLayout b (.str description)
    ∃ text found fields judged d e config l,
      b.reply (layoutQuestion description) = .ok text ∧
      Reply.findValue text.toList = .ok found ∧ found.value = some (.obj fields) ∧
      validateLayout (.obj fields) = .ok judged ∧ judged.valid = true ∧
      LayoutDocument.ofWire (.obj fields) = .ok d ∧ d.enhance = .ok e ∧
      requireConfig (.str d.archetype) .null = .ok config ∧
      r.layout = some l ∧
      l = { e with
        canvas := some (d.canvasOr config)
        metadata := { e.metadata with density := l.metadata.density } } ∧
      l.plain.metadata = .ok l.metadata ∧
      (r.components = l.sections.flatMap fun s => s.components.map fun c =>
        ⟨c.key, c.text, s.name, s.direction, c.role, c.priority⟩) ∧
      r.components.length = l.metadata.totalComponents ∧
      r.warnings = judged.warnings ++
        (if d.canvas = none then
          [s!"canvas_size missing, using {config.canvasType.text} default {config.canvasType.size.text}"]
        else []) ++ l.plain.fitWarnings := by
  obtain ⟨fields, judged, d, config, l, hfields, hd, hconfig, hr⟩ :=
    LayoutRun.exists_delivers_of_success h
  obtain ⟨text, found, hreply, hfound, hvalue⟩ := Backend.gives_iff.1 hfields
  obtain ⟨e, he, hl⟩ := hr.placed.enhanced
  refine ⟨text, found, fields, judged, d, e, config, l, hreply, hfound, hvalue, hd.isJudged, hd.isValid,
    hd.isRead, he, LayoutStage.requireConfig_of_some hconfig .null, hr.layout, hl, hr.placed.metadata,
    hr.components, ?_, hr.warnings⟩
  rw [hr.components]
  exact hr.placed.length_flattened

/-- What a backend says that gives a layout without a canvas, inside a fence. -/
def fencedReply : String :=
  "Sure:\n```json\n\x7b\"screenType\": \"mobile\", \"application_type\": \"auth\", " ++
    "\"layout_archetype\": \"auth_flow\", \"sections\": [\x7b\"section_name\": \"centered_form\", " ++
    "\"components\": [\x7b\"componentKey\": \"heading\", \"text\": \"Log in\"\x7d]\x7d]\x7d\n```"

/-- A backend that always says the same. -/
def Backend.saying (text : String) : Backend := .answering fun _ => .ok text

theorem fencedReply_succeeds :
    (generateLayout (.saying fencedReply) (.str "A login screen")).success = true := by
  decide +kernel

theorem layout_run_delivers_fencedReply :
    let r := generateLayout (.saying fencedReply) (.str "A login screen")
    ∃ (d : LayoutDocument) (config : ArchetypeConfig) (l : EnhancedLayout),
      requireConfig (.str d.archetype) .null = .ok config ∧ r.layout = some l ∧
      l.canvas = some (d.canvasOr config) ∧ l.plain.metadata = .ok l.metadata ∧
      r.components.length = l.metadata.totalComponents := by
  obtain ⟨text, found, fields, judged, d, e, config, l, -, -, -, -, -, -, -, hconfig, hlayout, hl,
    hmetadata, -, hlength, -⟩ := layout_run_delivers fencedReply_succeeds
  exact ⟨d, config, l, hconfig, hlayout, congrArg (·.canvas) hl, hmetadata, hlength⟩

end Wireframe
