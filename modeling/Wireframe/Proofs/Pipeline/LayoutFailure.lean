import Wireframe.Proofs.Json.Reader
import Wireframe.Proofs.Pipeline.LayoutResult
import Wireframe.Proofs.Text.Lines

/-!
# What a client is told of a layout that failed

A run that fails has one error, that of the stage that failed, and no layout. The stage leaves its
evidence to the client: the answer, the text in braces and why it is malformed, the findings of
validation, the archetypes there are.

* `LayoutRun.FailsAt.payload_eq` — what is told of a failure.
* `layout_run_tells_why` — which evidence is told, and when.
* `long_number_leaves_no_evidence` — an answer with too long a number is told nothing of.
-/

set_option autoImplicit false

namespace Wireframe

open LayoutStage

/-- What a client is told of a failure: its message, the error of its stage, and evidence. -/
def failureJson (stage message : String) (evidence : Fields) : Json :=
  .obj ([("error", .str message), ("errors", .ofTexts [s!"{stage}: {message}"])] ++ evidence)

namespace LayoutRun

variable {r : LayoutRun} {stage : String}

theorem FailsAt.payload_eq {f : Failure} (h : r.FailsAt stage f) :
    r.payload = .obj (Fields.update
      [("error", (Fields.get f.report "message").orElse (.str s!"{stage}: {f.message}")),
        ("errors", .ofTexts [s!"{stage}: {f.message}"])]
      ((Fields.erase f.report "type").erase "message")) := by
  unfold payload failurePayload
  rw [h.layout, h.detail, h.errors]
  rfl

/-- Where a report is a type, a message and evidence of its own, the evidence is told. -/
theorem FailsAt.payload_of_evidence {f : Failure} {message : String} {evidence : Fields}
    (h : r.FailsAt stage f) (hmessage : f.message = message) (hne : message ≠ "")
    (hreport : Fields.get f.report "message" = .str message)
    (hevidence : Fields.update
        [("error", .str message), ("errors", .ofTexts [s!"{stage}: {message}"])]
        ((Fields.erase f.report "type").erase "message") =
      [("error", .str message), ("errors", .ofTexts [s!"{stage}: {message}"])] ++ evidence) :
    r.payload = failureJson stage message evidence := by
  subst hmessage
  have horElse : (Json.str f.message).orElse (.str s!"{stage}: {f.message}") = .str f.message := by
    simp [Json.orElse, Json.isTruthy, hne]
  rw [h.payload_eq, hreport, horElse, hevidence]
  rfl

theorem message_unknownArchetype_ne (d : LayoutDocument) : (unknownArchetype d).message ≠ "" := by
  have hlead : (unknownArchetype d).message =
    "Invalid layout archetype: " ++ (Json.str d.archetype).quotedText := rfl
  intro h
  rw [hlead] at h
  have hl := congrArg String.length h
  simp at hl

end LayoutRun

/-! ## Evidence -/

section Evidence

variable {b : Backend} {description text : String}

/-- A run succeeds without errors, or it fails in a stage. -/
theorem success_or_failsAt (b : Backend) (description : String) :
    ((generateLayout b (.str description)).success = true ∧
      (generateLayout b (.str description)).errors = []) ∨
      ∃ stage f, (generateLayout b (.str description)).FailsAt stage f := by
  rcases (generateLayout_ending b description).failsAt_or_delivers with hfails |
    ⟨fields, judged, d, config, l, -, -, -, hr⟩
  · exact .inr hfails
  · exact .inl ⟨hr.success, hr.errors⟩

/-- A layout is enhanced exactly when it was given and judged valid. -/
theorem enhancement_mem_stages (b : Backend) (description : String) :
    "enhancement" ∈ (generateLayout b (.str description)).stages ↔
      ∃ fields judged, b.Gives description fields ∧ validateLayout (.obj fields) = .ok judged ∧
        judged.valid = true := by
  constructor
  · intro hmem
    have hearly {stage : String} {f : Failure}
        (hr : (generateLayout b (.str description)).FailsAt stage f)
        (hstage : "enhancement" ∉ ahead stage ++ [stage]) : False := hstage (hr.stages ▸ hmem)
    cases generateLayout_ending b description with
    | unanswered f hf hr => exact (hearly hr (by decide)).elim
    | unfound a f ha hf hr => exact (hearly hr (by decide)).elim
    | unjudged fields f hfields hf hr => exact (hearly hr (by decide)).elim
    | refused fields judged hfields hjudged hvalid hr => exact (hearly hr (by decide)).elim
    | unenhanced fields judged d f hfields hd hf hr =>
      exact ⟨fields, judged, hfields, hd.isJudged, hd.isValid⟩
    | unplaced fields judged d e hfields hd he hconfig hr =>
      exact ⟨fields, judged, hfields, hd.isJudged, hd.isValid⟩
    | delivered fields judged d config l hfields hd hconfig hr =>
      exact ⟨fields, judged, hfields, hd.isJudged, hd.isValid⟩
  · rintro ⟨fields, judged, hfields, hjudged, hvalid⟩
    obtain ⟨d, hd⟩ := exists_accepts hjudged hvalid
    cases he : d.enhance with
    | error f =>
      rw [(failsAt_enhancement hfields hd he).stages]
      decide
    | ok e =>
      cases hconfig : configFor? d.archetype with
      | none =>
        rw [(failsAt_archetype_resolution hfields hd he hconfig).stages]
        decide
      | some config =>
        obtain ⟨l, hr⟩ := exists_delivers hfields hd he hconfig
        rw [hr.stages]
        decide

variable (hreply : b.reply (layoutQuestion description) = .ok text)

include hreply

theorem payload_of_nothing (h : ∀ t ∈ Reply.candidates (Text.trim text.toList), Reply.Malformed t)
    (hspan : Reply.braceSpan? (Text.trim text.toList) = none) :
    (generateLayout b (.str description)).payload = failureJson "json_extraction"
      "No valid JSON found in AI response" [("rawResponse", .str text)] := by
  obtain ⟨last, hfound, -⟩ := Reply.findValue_of_malformed h
  have hstops := failsAt_json_extraction (Backend.answerTo_of_found hreply hfound)
    (layoutOf_of_nothing rfl hspan)
  exact hstops.payload_of_evidence rfl (by decide) rfl rfl

theorem payload_of_malformed (h : ∀ t ∈ Reply.candidates (Text.trim text.toList), Reply.Malformed t)
    {span : List Char} (hspan : Reply.braceSpan? (Text.trim text.toList) = some span) :
    ∃ fault, Json.read span = .error (.malformed fault) ∧
      (generateLayout b (.str description)).payload = failureJson "json_extraction"
        "Invalid JSON from AI response"
        [("rawJSON", .str (String.ofList span)), ("parseError", .str fault.message)] := by
  obtain ⟨last, hfound, hlast⟩ := Reply.findValue_of_malformed h
  obtain ⟨fault, hread, rfl⟩ := hlast span hspan
  have hstops := failsAt_json_extraction (Backend.answerTo_of_found hreply hfound)
    (layoutOf_of_malformed rfl hspan rfl)
  exact ⟨fault, hread, hstops.payload_of_evidence rfl (by decide) rfl rfl⟩

variable {found : Reply.FoundValue} {v : Json} (hfound : Reply.findValue text.toList = .ok found)

include hfound

theorem payload_of_other (hvalue : found.value = some v) (hv : ∀ fields, v ≠ .obj fields) :
    ∃ candidate ∈ Reply.candidates (Text.trim text.toList), Json.read candidate = .ok v ∧
      (generateLayout b (.str description)).payload = failureJson "json_extraction"
        "Invalid JSON from AI response" [("rawJSON", .str (String.ofList candidate)),
          ("parseError", .str s!"Expected a JSON object, got {v.typeName}")] := by
  obtain ⟨before, candidate, after, hcandidates, -, hread, hcandidate⟩ :=
    Reply.read_of_findValue hfound hvalue
  have hmem : candidate ∈ Reply.candidates (Text.trim text.toList) := by
    rw [hcandidates]
    exact List.mem_append_right before List.mem_cons_self
  have hstops := failsAt_json_extraction (Backend.answerTo_of_found hreply hfound)
    (layoutOf_of_other hvalue hv hcandidate)
  exact ⟨candidate, hmem, hread, hstops.payload_of_evidence rfl (by decide) rfl rfl⟩

variable {fields : Fields} {judged : ValidationResult} (hvalue : found.value = some (.obj fields))
  (hjudged : validateLayout (.obj fields) = .ok judged)

include hvalue hjudged

theorem payload_of_invalid (hvalid : judged.valid = false) :
    (generateLayout b (.str description)).payload = failureJson "schema_validation"
      "Layout JSON failed schema validation" [("validationErrors", .ofTexts judged.errors),
        ("validationWarnings", .ofTexts judged.warnings), ("received", .obj fields)] := by
  have hgives := Backend.gives_iff.2 ⟨text, found, hreply, hfound, hvalue⟩
  exact (failsAt_of_invalid hgives hjudged hvalid).payload_of_evidence rfl (by decide) rfl rfl

theorem payload_of_unknown_archetype (hvalid : judged.valid = true) {d : LayoutDocument}
    {e : EnhancedLayout} (hd : LayoutDocument.ofWire (.obj fields) = .ok d) (he : d.enhance = .ok e)
    (hconfig : configFor? d.archetype = none) :
    (generateLayout b (.str description)).payload = failureJson "archetype_resolution"
      s!"Invalid layout archetype: {(Json.str d.archetype).quotedText}"
      [("received", .str d.archetype),
        ("expected", .str (expectedArchetype d.applicationType d.screenType.text)),
        ("availableArchetypes", .ofTexts archetypeNames)] := by
  have hgives := Backend.gives_iff.2 ⟨text, found, hreply, hfound, hvalue⟩
  have hstops := failsAt_archetype_resolution hgives ⟨hjudged, hvalid, hd⟩ he hconfig
  exact hstops.payload_of_evidence rfl (LayoutRun.message_unknownArchetype_ne d) rfl rfl

end Evidence

/-- **A failed run for a layout tells why, unless the answer has too much in it to be read.** A run
succeeds without errors, or it fails in one stage, with the error of this stage only and without a
layout. A layout is enhanced exactly when the value found in the answer is an object that is judged
valid. A client is told

* the answer, when no text in it is JSON and none stands in braces;
* the text in braces and why it is malformed, when no text is JSON;
* the text that was read and its type, when the value is no object;
* the findings and the object, when it is judged not to be valid;
* the archetype expected and all there are, when that of the enhanced layout is not among them.

An answer that has too much in it fails the stage before, and nothing of it is told. -/
theorem layout_run_tells_why (b : Backend) (description : String) :
    let r := generateLayout b (.str description)
    ((r.success = true ∧ r.errors = []) ∨ ∃ stage f, r.FailsAt stage f) ∧
    ("enhancement" ∈ r.stages ↔ ∃ text found fields judged,
      b.reply (layoutQuestion description) = .ok text ∧ Reply.findValue text.toList = .ok found ∧
        found.value = some (.obj fields) ∧ validateLayout (.obj fields) = .ok judged ∧
        judged.valid = true) ∧
    (∀ f, b.reply (layoutQuestion description) = .error f → r.FailsAt "backend_call" f) ∧
    ∀ text, b.reply (layoutQuestion description) = .ok text →
      (∀ e, Reply.findValue text.toList = .error e → r.FailsAt "backend_call" (.excess e)) ∧
      ((∀ t ∈ Reply.candidates (Text.trim text.toList), Reply.Malformed t) →
        (Reply.braceSpan? (Text.trim text.toList) = none →
          r.payload = failureJson "json_extraction" "No valid JSON found in AI response"
            [("rawResponse", .str text)]) ∧
        ∀ span, Reply.braceSpan? (Text.trim text.toList) = some span →
          ∃ fault, Json.read span = .error (.malformed fault) ∧
            r.payload = failureJson "json_extraction" "Invalid JSON from AI response"
              [("rawJSON", .str (String.ofList span)), ("parseError", .str fault.message)]) ∧
      ∀ found v, Reply.findValue text.toList = .ok found → found.value = some v →
        ((∀ fields, v ≠ .obj fields) →
          ∃ candidate ∈ Reply.candidates (Text.trim text.toList), Json.read candidate = .ok v ∧
            r.payload = failureJson "json_extraction" "Invalid JSON from AI response"
              [("rawJSON", .str (String.ofList candidate)),
                ("parseError", .str s!"Expected a JSON object, got {v.typeName}")]) ∧
        ∀ fields judged, v = .obj fields → validateLayout v = .ok judged →
          (judged.valid = false →
            r.payload = failureJson "schema_validation" "Layout JSON failed schema validation"
              [("validationErrors", .ofTexts judged.errors),
                ("validationWarnings", .ofTexts judged.warnings), ("received", v)]) ∧
          ∀ d e, judged.valid = true → LayoutDocument.ofWire v = .ok d → d.enhance = .ok e →
            configFor? d.archetype = none →
            r.payload = failureJson "archetype_resolution"
              s!"Invalid layout archetype: {(Json.str d.archetype).quotedText}"
              [("received", .str d.archetype),
                ("expected", .str (expectedArchetype d.applicationType d.screenType.text)),
                ("availableArchetypes", .ofTexts archetypeNames)] := by
  refine ⟨success_or_failsAt b description, ?_, fun f hf => ?_, fun text hreply =>
    ⟨fun e he => ?_, fun hall => ⟨payload_of_nothing hreply hall, fun span hspan => ?_⟩,
      fun found v hfound hvalue => ⟨payload_of_other hreply hfound hvalue, ?_⟩⟩⟩
  · rw [enhancement_mem_stages]
    constructor
    · rintro ⟨fields, judged, hgives, hjudged, hvalid⟩
      obtain ⟨text, found, hreply, hfound, hvalue⟩ := Backend.gives_iff.1 hgives
      exact ⟨text, found, fields, judged, hreply, hfound, hvalue, hjudged, hvalid⟩
    · rintro ⟨text, found, fields, judged, hreply, hfound, hvalue, hjudged, hvalid⟩
      exact ⟨fields, judged, Backend.gives_iff.2 ⟨text, found, hreply, hfound, hvalue⟩, hjudged, hvalid⟩
  · exact failsAt_backend_call (Backend.answerTo_of_error hf)
  · exact failsAt_backend_call (Backend.answerTo_of_excess hreply he)
  · exact payload_of_malformed hreply hall hspan
  · rintro fields judged rfl hjudged
    exact ⟨payload_of_invalid hreply hfound hvalue hjudged, fun d e hvalid hd he hconfig =>
      payload_of_unknown_archetype hreply hfound hvalue hjudged hvalid hd he hconfig⟩

/-! ## An answer that nothing is told of -/

/-- A text that begins with a number of too many digits. -/
def countingText : List Char := '9' :: List.replicate 4300 '9' ++ " and counting".toList

theorem isDigit_of_mem_nines {n : Nat} : ∀ d ∈ '9' :: List.replicate n '9', d.isDigit = true := by
  intro d hd
  rw [← List.replicate_succ] at hd
  rw [List.eq_of_mem_replicate hd]
  decide

theorem endsNumber_and_counting : Json.EndsNumber " and counting".toList where
  digit c t h := by
    rw [← (List.cons.inj h).1]
    decide
  fraction := rfl
  exponent := rfl

theorem maxDigits_lt_nines : Json.maxDigits < ('9' :: List.replicate 4300 '9').length := by
  rw [List.length_cons, List.length_replicate]
  decide

/-- There is no white space around the text. -/
theorem trim_countingText : Text.trim countingText = countingText := by
  have hlast : countingText =
      ('9' :: List.replicate 4300 '9' ++ " and countin".toList) ++ ['g'] := by
    rw [List.append_assoc]
    rfl
  exact Text.trim_eq_self (by decide) (by decide) hlast

theorem not_mem_countingText {c : Char} (hc : c ≠ '9') (hrest : c ∉ " and counting".toList) :
    c ∉ countingText := by
  rw [countingText, ← List.replicate_succ, List.mem_append, not_or]
  exact ⟨fun h => hc (List.eq_of_mem_replicate h), hrest⟩

/-- **Where no text is JSON and none stands in braces, the answer may still not be told.** A number of
too many digits at its start makes a failure of the backend out of it. -/
theorem long_number_leaves_no_evidence :
    let r := generateLayout (.saying (String.ofList countingText)) (.str "login")
    (∀ t ∈ Reply.candidates (Text.trim countingText), ∀ v, Json.read t ≠ .ok v) ∧
      Reply.braceSpan? (Text.trim countingText) = none ∧
      (∃ n, r.FailsAt "backend_call" (.excess (.digits n))) ∧
      r.payload.field? "rawResponse" = none := by
  have hfound : Reply.findValue (String.ofList countingText).toList =
      .error (.digits ('9' :: List.replicate 4300 '9').length) := by
    rw [String.toList_ofList]
    exact Reply.findValue_of_digits trim_countingText (by decide) isDigit_of_mem_nines
      endsNumber_and_counting maxDigits_lt_nines
  have hfails : (generateLayout (.saying (String.ofList countingText)) (.str "login")).FailsAt
      "backend_call" (.excess (.digits ('9' :: List.replicate 4300 '9').length)) :=
    failsAt_backend_call (Backend.answerTo_of_excess rfl hfound)
  have hread : Json.read countingText =
      .error (.excess (.digits ('9' :: List.replicate 4300 '9').length)) :=
    Json.read_of_digits (by decide) isDigit_of_mem_nines endsNumber_and_counting maxDigits_lt_nines
  have hcandidates : Reply.candidates countingText = [countingText] :=
    Reply.candidates_of_not_mem (List.cons_ne_nil _ _)
      (not_mem_countingText (by decide) (by decide)) (not_mem_countingText (by decide) (by decide))
  rw [trim_countingText]
  refine ⟨fun t ht v => ?_, ?_, ⟨_, hfails⟩, ?_⟩
  · rw [hcandidates, List.mem_singleton] at ht
    rw [ht, hread]
    exact nofun
  · exact Reply.braceSpan?_of_not_mem (not_mem_countingText (by decide) (by decide))
  · rw [hfails.payload_eq]
    rfl

end Wireframe
