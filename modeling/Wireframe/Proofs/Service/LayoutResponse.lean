import Wireframe.Proofs.Json.Strict
import Wireframe.Proofs.Layout.Metadata
import Wireframe.Proofs.Pipeline.Handover
import Wireframe.Proofs.Pipeline.LayoutFailure
import Wireframe.Service.Response

/-!
# The response to a description

A client that sends a description gets what the run for its layout comes to, with the identifier of the
exchange. What has no text in strict JSON cannot be sent, and neither can a torn text: a layout that is
refused is echoed, and it may hold a number that is not finite, or half of a surrogate pair.

* `LayoutRun.FailsAt.isStrict_payload` — a failure with a strict report can be told.
* `LayoutRun.Delivers.isStrict_payload` — every layout can be told.
* `Unsendable`, `isStrict_payload_iff` — the answers of a backend whose numbers cannot be echoed.
* `layout_response_unless_unsendable` — the response for every answer of a backend.
-/

set_option autoImplicit false

namespace Wireframe

open LayoutStage

/-! ## Reports -/

/-- A failure that is no fault of the service is reported by its type and message. -/
theorem Failure.areStrict_report {f : Failure} (h : ∀ fault, f ≠ .fault fault) :
    f.report.AreStrict := by
  have hreport : f.report = [("type", .str f.typeName), ("message", .str f.message)] := by
    cases f with
    | fault fault => exact absurd rfl (h fault)
    | _ => rfl
  rw [hreport]
  simp [Fields.AreStrict]

/-- A fault with strict details has a strict report. -/
theorem Fault.areStrict_report {f : Fault} (h : f.details.AreStrict) :
    (Failure.fault f).report.AreStrict := by
  have hopening : Fields.AreStrict [("type", .str f.kind.name), ("message", .str f.message)] := by
    simp [Fields.AreStrict]
  exact hopening.update h

/-- An answer without a layout is reported by texts. -/
theorem areStrict_report_of_layoutOf {a : Answer} {f : Failure} (h : layoutOf a = .error f) :
    f.report.AreStrict := by
  have hfault (message : String) {details : Fields} (hdetails : details.AreStrict) :
      (extractionFault message details).report.AreStrict := Fault.areStrict_report hdetails
  unfold layoutOf at h
  dsimp only at h
  split at h
  · cases h
    exact hfault _ (by simp [Fields.AreStrict])
  · cases h
    exact hfault _ (by simp [Fields.AreStrict])
  · cases h
  · cases h
    exact hfault _ (by simp [Fields.AreStrict])

/-- A side without a whole part is no fault of the service. -/
theorem CanvasSize.ne_fault_of_wholeSide {v : Json} {f : Failure} (h : wholeSide v = .error f)
    (fault : Fault) : f ≠ .fault fault := by
  unfold wholeSide at h
  split at h
  · cases h
  · split at h
    · cases h
    · split at h
      · cases h
        exact nofun
      · cases h
        exact nofun
  · cases h
    exact nofun

/-- A canvas that cannot be read is no fault of the service. -/
theorem CanvasSize.ne_fault_of_ofWire? {v : Json} {f : Failure} (h : ofWire? v = .error f)
    (fault : Fault) : f ≠ .fault fault := by
  unfold ofWire? at h
  split at h
  · dsimp only at h
    split at h
    · simp only [bind, Except.bind] at h
      split at h
      · rename_i hwidth
        cases h
        exact ne_fault_of_wholeSide hwidth fault
      · split at h
        · rename_i hheight
          cases h
          exact ne_fault_of_wholeSide hheight fault
        · split at h
          · cases h
          · cases h
            exact nofun
    · cases h
  · cases h

/-- Only its canvas keeps a layout from being judged. -/
theorem ofWire?_of_validateLayout {fields : Fields} {f : Failure}
    (h : validateLayout (.obj fields) = .error f) :
    CanvasSize.ofWire? (fields.get "canvas_size") = .error f := by
  unfold validateLayout at h
  rw [Validation.documentFindings_obj] at h
  cases hcanvas : Validation.canvasFindings (fields.get "canvas_size") with
  | ok canvas =>
    rw [hcanvas] at h
    cases h
  | error e =>
    rw [hcanvas] at h
    cases h
    unfold Validation.canvasFindings at hcanvas
    split at hcanvas
    · cases hcanvas
    · cases hread : CanvasSize.ofWire? (fields.get "canvas_size") with
      | error e =>
        rw [hread] at hcanvas
        cases hcanvas
        rfl
      | ok canvas? =>
        rw [hread] at hcanvas
        cases canvas? <;> cases hcanvas

theorem areStrict_report_of_validateLayout {fields : Fields} {f : Failure}
    (h : validateLayout (.obj fields) = .error f) : f.report.AreStrict :=
  Failure.areStrict_report (CanvasSize.ne_fault_of_ofWire? (ofWire?_of_validateLayout h))

theorem areStrict_report_unknownArchetype (d : LayoutDocument) :
    (unknownArchetype d).report.AreStrict :=
  Fault.areStrict_report (by simp [Fields.AreStrict, Fault.details, Fault.archetypeDetails])

/-! ## What a client is told -/

namespace LayoutRun

variable {r : LayoutRun} {stage : String} {f : Failure}

/-- A failure with a strict report can be told. -/
theorem FailsAt.isStrict_payload (h : r.FailsAt stage f) (hreport : f.report.AreStrict) :
    r.payload.isStrict = true := by
  have hmessage := Json.isStrict_orElse (hreport.isStrict_get "message")
    (Json.isStrict_str s!"{stage}: {f.message}")
  have hopening : Fields.AreStrict
      [("error", (Fields.get f.report "message").orElse (.str s!"{stage}: {f.message}")),
        ("errors", .ofTexts [s!"{stage}: {f.message}"])] :=
    List.forall_mem_cons.2 ⟨hmessage, List.forall_mem_singleton.2 (Json.isStrict_ofTexts _)⟩
  rw [h.payload_eq, Json.isStrict_obj_iff]
  exact hopening.update ((hreport.erase "type").erase "message")

/-! ## Layouts -/

theorem areStrict_ofOption {key : String} {value? : Option Json}
    (h : ∀ v, value? = some v → v.isStrict = true) : (Fields.ofOption key value?).AreStrict := by
  cases value? with
  | none => exact List.forall_mem_nil _
  | some v => exact List.forall_mem_singleton.2 (h v rfl)

theorem areStrict_ofOption_text (key : String) (text? : Option String) :
    (Fields.ofOption key (text?.map .str)).AreStrict := by
  refine areStrict_ofOption fun v hv => ?_
  obtain ⟨s, -, rfl⟩ := Option.map_eq_some_iff.1 hv
  exact Json.isStrict_str s

theorem areStrict_component (c : EnhancedComponent) : c.fields.AreStrict := by
  have hplain : c.toLayoutComponent.fields.AreStrict :=
    List.forall_mem_cons.2 ⟨Json.isStrict_str _, areStrict_ofOption_text "text" c.text⟩
  exact hplain.append (by simp [Fields.AreStrict])

theorem isStrict_sectionJson {components : List Json} (h : ∀ v ∈ components, v.isStrict = true)
    (name : String) (direction : Direction) :
    (sectionJson name direction components).isStrict = true := by
  simpa [sectionJson] using h

theorem areStrict_headFields (screenType : ScreenType) (applicationType archetype : String)
    (canvas : Option CanvasSize) :
    (headFields screenType applicationType archetype canvas).AreStrict := by
  refine Fields.AreStrict.append (by simp [Fields.AreStrict]) (areStrict_ofOption fun v hv => ?_)
  obtain ⟨c, -, rfl⟩ := Option.map_eq_some_iff.1 hv
  simp [CanvasSize.toJson]

theorem areStrict_wireFields (l : EnhancedLayout) : l.wireFields.AreStrict := by
  refine (areStrict_headFields _ _ _ _).append (List.forall_mem_cons.2 ⟨?_, ?_⟩)
  · refine Json.isStrict_arr_iff.2 (List.forall_mem_map.2 fun s _ => isStrict_sectionJson ?_ _ _)
    exact List.forall_mem_map.2 fun c _ => Json.isStrict_obj_iff.2 (areStrict_component c)
  · simp [LayoutMetadata.toJson]

theorem isStrict_flatComponent (c : FlatComponent) : c.toJson.isStrict = true := by
  refine Json.isStrict_obj_iff.2 (List.forall_mem_cons.2 ⟨Json.isStrict_str _, ?_⟩)
  exact (areStrict_ofOption_text "text" c.text).append (by simp [Fields.AreStrict])

theorem isStrict_archetypeConfig (config : ArchetypeConfig) : config.toJson.isStrict = true := by
  refine Json.isStrict_obj_iff.2 ?_
  simp only [List.forall_mem_cons, Json.isStrict_str, Json.isStrict_ofTexts, true_and]
  refine ⟨Json.isStrict_obj_iff.2 (List.forall_mem_map.2 fun e _ => ?_), List.forall_mem_nil _⟩
  simp [ArchetypeConfig.ruleJson]

/-- Every layout can be told. -/
theorem Delivers.isStrict_payload {warnings : List String} {d : LayoutDocument}
    {config : ArchetypeConfig} {l : EnhancedLayout} (h : r.Delivers warnings d config l) :
    r.payload.isStrict = true := by
  have hwire := areStrict_wireFields l
  have hcomponents : (Json.arr (r.components.map (·.toJson))).isStrict = true :=
    Json.isStrict_arr_iff.2 (List.forall_mem_map.2 fun c _ => isStrict_flatComponent c)
  rw [payload_of_layout h.success h.layout, Json.isStrict_obj_iff]
  simp only [layoutPayload, h.archetype, Option.getD_some, List.forall_mem_cons, hwire.isStrict_get,
    isStrict_archetypeConfig, hcomponents]
  simp

end LayoutRun

/-! ## Answers that cannot be echoed -/

/-- An answer in which a layout is found that is refused, and in which there is a number that is not
finite. -/
def Unsendable (text : String) : Prop :=
  ∃ found fields judged, Reply.findValue text.toList = .ok found ∧ found.value = some (.obj fields) ∧
    validateLayout (.obj fields) = .ok judged ∧ judged.valid = false ∧
    (Json.obj fields).isStrict = false

/-- Whether an answer is one that cannot be echoed. -/
def isUnsendable (text : String) : Bool :=
  match Reply.findValue text.toList with
  | .error _ => false
  | .ok found =>
    match found.value with
    | some (.obj fields) =>
      match validateLayout (.obj fields) with
      | .ok judged => !judged.valid && !(Json.obj fields).isStrict
      | .error _ => false
    | _ => false

theorem isUnsendable_iff {text : String} : isUnsendable text = true ↔ Unsendable text := by
  constructor
  · intro h
    unfold isUnsendable at h
    split at h
    · cases h
    · rename_i found hfound
      split at h
      · rename_i fields hvalue
        split at h
        · rename_i judged hjudged
          rw [Bool.and_eq_true, Bool.not_eq_true', Bool.not_eq_true'] at h
          exact ⟨found, fields, judged, hfound, hvalue, hjudged, h.1, h.2⟩
        · cases h
      · cases h
  · rintro ⟨found, fields, judged, hfound, hvalue, hjudged, hvalid, hstrict⟩
    unfold isUnsendable
    rw [hfound]
    simp only [hvalue, hjudged, hvalid, hstrict, Bool.not_false, Bool.and_self]

instance (text : String) : Decidable (Unsendable text) := decidable_of_iff _ isUnsendable_iff

section Answers

variable {b : Backend} {description text : String}
  (hreply : b.reply (layoutQuestion description) = .ok text)

include hreply

/-- The object in an unsendable answer is among what a client is to be told. -/
theorem not_isStrict_payload (h : Unsendable text) :
    (generateLayout b (.str description)).payload.isStrict = false := by
  obtain ⟨found, fields, judged, hfound, hvalue, hjudged, hvalid, hstrict⟩ := h
  rw [payload_of_invalid hreply hfound hvalue hjudged hvalid, Bool.eq_false_iff]
  intro hpayload
  have hreceived := Json.isStrict_obj_iff.1 hpayload ("received", .obj fields) (by simp)
  rw [hstrict] at hreceived
  cases hreceived

/-- Whatever else an answer leads to can be told. -/
theorem isStrict_payload (h : ¬Unsendable text) :
    (generateLayout b (.str description)).payload.isStrict = true := by
  cases generateLayout_ending b description with
  | unanswered f hf hr =>
    cases hfound : Reply.findValue text.toList with
    | ok found =>
      rw [Backend.answerTo_of_found hreply hfound] at hf
      cases hf
    | error e =>
      rw [Backend.answerTo_of_excess hreply hfound] at hf
      cases hf
      exact hr.isStrict_payload (Failure.areStrict_report nofun)
  | unfound a f ha hf hr => exact hr.isStrict_payload (areStrict_report_of_layoutOf hf)
  | unjudged fields f hfields hf hr =>
    exact hr.isStrict_payload (areStrict_report_of_validateLayout hf)
  | refused fields judged hfields hjudged hvalid hr =>
    obtain ⟨text', found, hreply', hfound, hvalue⟩ := Backend.gives_iff.1 hfields
    obtain rfl : text' = text := Except.ok.inj (hreply'.symm.trans hreply)
    have hstrict : (Json.obj fields).isStrict = true := by
      by_contra hnot
      exact h ⟨found, fields, judged, hfound, hvalue, hjudged, hvalid, Bool.eq_false_iff.2 hnot⟩
    refine hr.isStrict_payload (Fault.areStrict_report ?_)
    simp [Fields.AreStrict, Fault.details, Fault.schemaDetails, -Json.isStrict_obj_iff, hstrict]
  | unenhanced fields judged d f hfields hd hf hr =>
    obtain rfl := LayoutDocument.eq_quotientTooLarge_of_density (LayoutDocument.enhance_eq_error.1 hf)
    exact hr.isStrict_payload (Failure.areStrict_report nofun)
  | unplaced fields judged d e hfields hd he hconfig hr =>
    exact hr.isStrict_payload (areStrict_report_unknownArchetype d)
  | delivered fields judged d config l hfields hd hconfig hr => exact hr.isStrict_payload

/-- The numbers that a client is told are finite unless the answer cannot be echoed. -/
theorem isStrict_payload_iff :
    (generateLayout b (.str description)).payload.isStrict = true ↔ ¬Unsendable text := by
  refine ⟨fun h hnot => ?_, isStrict_payload hreply⟩
  rw [not_isStrict_payload hreply hnot] at h
  cases h

end Answers

/-- What a run that succeeds leads to can be told. -/
theorem isStrict_payload_of_success {b : Backend} {description : String}
    (h : (generateLayout b (.str description)).success = true) :
    (generateLayout b (.str description)).payload.isStrict = true := by
  obtain ⟨stage, f, hr⟩ | ⟨fields, judged, d, config, l, -, -, -, hr⟩ :=
    (generateLayout_ending b description).failsAt_or_delivers
  · rw [hr.success] at h
    cases h
  · exact hr.isStrict_payload

/-! ## Responses -/

/-- A request for a layout: a description that is sent to the endpoint where layouts are generated. -/
structure Request.Describes (r : Request) (description : String) : Prop where
  endpoint : Endpoint.atPath? r.path = some .layout
  method : r.method = "POST"
  body : r.ask readDescription = .ok description

/-- Such a request is answered by the run for the layout. -/
theorem Request.Describes.answer_eq {r : Request} {description : String} (h : r.Describes description)
    (b : Backend) (now : Moment) : r.answer b now = (generateLayout b (.str description)).draft := by
  have hmethod : Endpoint.layout.method = r.method := h.method.symm
  unfold Request.answer
  rw [h.endpoint]
  simp only [hmethod, if_true, Endpoint.answer, Request.serve, h.body]

/-- More than the head of an answer is asked for. -/
theorem Request.Describes.sent_eq {r : Request} {description : String} (h : r.Describes description)
    (body : Option Json) : r.sent body = body := by
  unfold Request.sent
  rw [h.method, if_neg (by decide)]

section Responding

variable {r : Request} {description : String} (hr : r.Describes description) (b : Backend) (now : Moment)

include hr

/-- What can be sent is sent, with the identifier of the exchange. -/
theorem respond_of_sendable (h : (generateLayout b (.str description)).payload.isSendable = true) :
    respond b now r =
      { status := if (generateLayout b (.str description)).success then 200 else 500
        body := some (generateLayout b (.str description)).payload
        exchangeId := some (r.idOrFresh now) } := by
  unfold respond
  rw [hr.answer_eq]
  simp only [LayoutRun.draft, Draft.ofJson, Option.all_some, h, if_true, hr.sent_eq]

/-- In place of what cannot be sent, an internal error is reported. -/
theorem respond_of_not_sendable
    (h : (generateLayout b (.str description)).payload.isSendable = false) :
    respond b now r = internalError r := by
  unfold respond
  rw [hr.answer_eq]
  simp only [LayoutRun.draft, Draft.ofJson, Option.all_some, h, Bool.false_eq_true, if_false]

end Responding

/-- What a client is told: the layout of a run that succeeds, or else the failure. -/
theorem payload_cases (b : Backend) (description : String) :
    let run := generateLayout b (.str description)
    (run.success = true ∧ ∃ l, run.layout = some l ∧ run.payload = .obj (run.layoutPayload l)) ∨
      run.success = false ∧ run.payload = .obj run.failurePayload := by
  intro run
  obtain ⟨stage, f, hr⟩ | ⟨fields, judged, d, config, l, -, -, -, hr⟩ :=
    (generateLayout_ending b description).failsAt_or_delivers
  · refine .inr ⟨hr.success, ?_⟩
    unfold LayoutRun.payload
    rw [hr.layout]
  · exact .inl ⟨hr.success, l, hr.layout, LayoutRun.payload_of_layout hr.success hr.layout⟩

/-- **A description is answered by what the run for its layout comes to, unless that cannot be sent.** For
every answer of the backend the response is that of the run: the layout with the status 200, or the
failure with the status 500, and with the identifier of the exchange. Only where half of a surrogate pair
stands in what the client is to be told, or a number that is not finite, the client is told neither: there
the response reports an internal error, without the identifier. The numbers are finite unless a layout is
found in the answer that is refused and holds one that is not. -/
theorem layout_response_unless_unsendable {r : Request} {b : Backend} {description text : String}
    (hr : r.Describes description) (hreply : b.reply (layoutQuestion description) = .ok text)
    (now : Moment) :
    let run := generateLayout b (.str description)
    (run.payload.isStrict = true → run.payload.isTorn = false → respond b now r =
      { status := if run.success then 200 else 500
        body := some run.payload
        exchangeId := some (r.idOrFresh now) }) ∧
      ((run.success = true ∧ ∃ l, run.layout = some l ∧ run.payload = .obj (run.layoutPayload l)) ∨
        run.success = false ∧ run.payload = .obj run.failurePayload) ∧
      (run.payload.isStrict = false ∨ run.payload.isTorn = true → respond b now r = internalError r) ∧
      (run.payload.isStrict = false ↔ Unsendable text) := by
  intro run
  refine ⟨fun hstrict hwhole => respond_of_sendable hr b now ?_, payload_cases b description,
    fun h => respond_of_not_sendable hr b now ?_, ?_⟩
  · show (run.payload.isStrict && !run.payload.isTorn) = true
    rw [hstrict, hwhole]
    rfl
  · show (run.payload.isStrict && !run.payload.isTorn) = false
    rcases h with h | h <;> rw [h]
    · exact Bool.false_and _
    · exact Bool.and_false _
  · rw [← Bool.not_eq_true, isStrict_payload_iff hreply, Classical.not_not]

/-- A request for the layout of a login screen. -/
def loginRequest : Request where
  method := "POST"
  path := "/api/v1/generate-layout"
  exchangeId := some "abc-123"
  contentType := some "application/json"
  body := "\x7b\"userPrompt\": \"A login screen\"\x7d".toList.map fun c => UInt8.ofNat c.toNat

/-- The moment at which it is answered. -/
def firstMoment : Moment := ⟨.int 0, "2024-01-01T00:00:00", "fresh"⟩

theorem loginRequest_describes : loginRequest.Describes "A login screen" where
  endpoint := by decide +kernel
  method := rfl
  body := by
    have hread : (loginRequest.ask readDescription).toOption = some "A login screen" := by decide +kernel
    cases h : loginRequest.ask readDescription with
    | error e =>
      rw [h] at hread
      cases hread
    | ok s =>
      rw [h] at hread
      cases hread
      rfl

/-- What a backend says that gives an object with a number that is not finite. -/
def nanReply : String := "\x7b\"screenType\": NaN\x7d"

theorem nanReply_unsendable : Unsendable nanReply := by decide +kernel

/-- What a backend says that gives an object with half of a surrogate pair. -/
def halfReply : String := "\x7b\"screenType\": \"\\ud800\"\x7d"

theorem halfReply_refused :
    (generateLayout (.saying halfReply) (.str "A login screen")).success = false ∧
      (generateLayout (.saying halfReply) (.str "A login screen")).payload.isTorn = true := by
  decide +kernel

theorem layout_response_loginRequest :
    loginRequest.Describes "A login screen" ∧
      respond (.saying fencedReply) firstMoment loginRequest =
        { status := 200
          body := some (generateLayout (.saying fencedReply) (.str "A login screen")).payload
          exchangeId := some "abc-123" } ∧
      Unsendable nanReply ∧
      respond (.saying nanReply) firstMoment loginRequest = internalError loginRequest ∧
      respond (.saying halfReply) firstMoment loginRequest = internalError loginRequest := by
  obtain ⟨hsent, -, -, -⟩ := layout_response_unless_unsendable (b := .saying fencedReply)
    loginRequest_describes rfl firstMoment
  obtain ⟨-, -, hnan, hstrict⟩ := layout_response_unless_unsendable (b := .saying nanReply)
    loginRequest_describes rfl firstMoment
  obtain ⟨-, -, hhalf, -⟩ := layout_response_unless_unsendable (b := .saying halfReply)
    loginRequest_describes rfl firstMoment
  have hresponse := hsent (isStrict_payload_of_success fencedReply_succeeds) (by decide +kernel)
  rw [fencedReply_succeeds] at hresponse
  exact ⟨loginRequest_describes, hresponse, nanReply_unsendable,
    hnan (.inl (hstrict.2 nanReply_unsendable)), hhalf (.inr halfReply_refused.2)⟩

/-- A backend gives a layout that is refused, and the client is told neither the errors nor the layout,
and not the identifier that its request carries. -/
structure IsUntold (text : String) : Prop where
  refused : (generateLayout (.saying text) (.str "A login screen")).success = false
  response : respond (.saying text) firstMoment loginRequest =
    { status := 500
      body := some (.obj [("error", .str "internal_server_error"),
        ("message", .str "An unexpected error occurred. Please try again later."),
        ("correlation_id", .str "abc-123")])
      exchangeId := none }

/-- A refused layout is not told where it holds a number that is not finite, or half of a surrogate
pair. -/
theorem refused_layout_is_not_told : IsUntold nanReply ∧ IsUntold halfReply := by
  have hnan : (generateLayout (.saying nanReply) (.str "A login screen")).success = false := by
    decide +kernel
  have hstrict :
      (generateLayout (.saying nanReply) (.str "A login screen")).payload.isStrict = false :=
    not_isStrict_payload rfl nanReply_unsendable
  obtain ⟨hhalf, htorn⟩ := halfReply_refused
  refine ⟨⟨hnan, respond_of_not_sendable loginRequest_describes _ firstMoment ?_⟩,
    ⟨hhalf, respond_of_not_sendable loginRequest_describes _ firstMoment ?_⟩⟩
  · rw [Json.isSendable, hstrict, Bool.false_and]
  · rw [Json.isSendable, htorn, Bool.not_true, Bool.and_false]

end Wireframe
