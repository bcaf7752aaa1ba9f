import Wireframe.Pipeline.LayoutStages
import Wireframe.Proofs.Layout.Validation
import Wireframe.Proofs.Pipeline.Act
import Wireframe.Proofs.Reply.Value

/-!
# What is made of an answer

A backend is asked for a layout. What it says is looked through for an object, and the object is judged
and read as a document.

* `layoutQuestion` — what it is asked.
* `Backend.gives_iff` — when there is an object in what it says.
* `layoutOf_of_malformed` and its like — why there is none.
* `exists_accepts` — a valid object is a document.
-/

set_option autoImplicit false

namespace Wireframe

/-! ## Questions -/

/-- The question that a run for a layout puts. -/
def layoutQuestion (description : String) : Question where
  messages :=
    [.ofTexts "system" (Prompt.layoutPrompt description).system,
      .ofTexts "user" (Prompt.layoutPrompt description).user]
  minLength := 0

def layoutRecord (description : String) : QuestionRecord where
  roles := [.str "system", .str "user"]
  lengths := [(Prompt.layoutPrompt description).system.length,
    (Prompt.layoutPrompt description).user.length]
  minLength := 0

theorem record_layoutQuestion (description : String) :
    (layoutQuestion description).record = .ok (layoutRecord description) := rfl

/-- Asking records the question, and then there is an answer or not. -/
theorem Act.run_ask {answer : Question → Except Failure String} {q : Question} {record : QuestionRecord}
    (h : q.record = .ok record) (c : Context) :
    (ask answer q).run c =
      (liftM (answer q >>= Answer.ofContent) : Act Answer).run (c.recordQuestion record) := by
  unfold ask
  rw [h, run_bind_of_ok (run_ofExcept_ok record c), EStateM.run_bind]
  cases answer q <;> rfl

/-! ## Answers -/

namespace Backend

variable {b : Backend} {q : Question} {text : String} {a : Answer} {f : Failure}

/-- What a backend says to a question. -/
def reply (b : Backend) (q : Question) : Except Failure String := do (← b.provider) q

/-- What it says, with the value that is found in it. -/
def answerTo (b : Backend) (q : Question) : Except Failure Answer := do
  Answer.ofContent (← b.reply q)

theorem answerTo_of_error (h : b.reply q = .error f) : b.answerTo q = .error f := by
  unfold answerTo
  rw [h]
  rfl

theorem answerTo_of_excess (h : b.reply q = .ok text) {e : Json.Excess}
    (he : Reply.findValue text.toList = .error e) : b.answerTo q = .error (.excess e) := by
  unfold answerTo
  rw [h]
  show Answer.ofContent text = _
  rw [Answer.ofContent, he]

theorem answerTo_of_found (h : b.reply q = .ok text) {found : Reply.FoundValue}
    (hfound : Reply.findValue text.toList = .ok found) : b.answerTo q = .ok ⟨text, found⟩ := by
  unfold answerTo
  rw [h]
  show Answer.ofContent text = _
  rw [Answer.ofContent, hfound]

theorem answerTo_eq_ok (h : b.answerTo q = .ok a) :
    b.reply q = .ok a.content ∧ Reply.findValue a.content.toList = .ok a.found := by
  cases hreply : b.reply q with
  | error f =>
    rw [answerTo_of_error hreply] at h
    cases h
  | ok text =>
    cases hfound : Reply.findValue text.toList with
    | error e =>
      rw [answerTo_of_excess hreply hfound] at h
      cases h
    | ok found =>
      rw [answerTo_of_found hreply hfound] at h
      cases h
      exact ⟨rfl, hfound⟩

end Backend

namespace LayoutStage

variable {a : Answer} {fields : Fields}

theorem layoutOf_eq_ok : layoutOf a = .ok fields ↔ a.found.value = some (.obj fields) := by
  constructor
  · intro h
    unfold layoutOf at h
    dsimp only at h
    split at h
    · cases h
    · cases h
    · rename_i hvalue
      cases h
      exact hvalue
    · cases h
  · intro h
    unfold layoutOf
    rw [h]

/-- The fault of an answer in which a text was found that should have been an object. -/
def invalidJson (candidate parseError : String) : Failure :=
  extractionFault "Invalid JSON from AI response"
    [("rawJSON", .str candidate), ("parseError", .str parseError)]

/-- Without a text in braces, the answer itself is told. -/
theorem layoutOf_of_nothing (hvalue : a.found.value = none) (hcandidate : a.found.candidate = none) :
    layoutOf a = .error (extractionFault "No valid JSON found in AI response"
      [("rawResponse", .str a.content)]) := by
  unfold layoutOf
  simp only [hvalue, Answer.candidate?, hcandidate, Option.map_none]

/-- With one, the text in braces is told, and why it is malformed. -/
theorem layoutOf_of_malformed {span : List Char} {fault : Json.ReadFault}
    (hvalue : a.found.value = none) (hcandidate : a.found.candidate = some span)
    (hfault : a.found.fault = some fault) :
    layoutOf a = .error (invalidJson (String.ofList span) fault.message) := by
  unfold layoutOf
  simp only [hvalue, Answer.candidate?, hcandidate, Option.map_some, Answer.faultMessage?, hfault]
  rfl

/-- A value that is no object is told by its type and by the text that it was read from. -/
theorem layoutOf_of_other {v : Json} {candidate : List Char} (hvalue : a.found.value = some v)
    (hv : ∀ fields, v ≠ .obj fields) (hcandidate : a.found.candidate = some candidate) :
    layoutOf a = .error (invalidJson (String.ofList candidate)
      s!"Expected a JSON object, got {v.typeName}") := by
  unfold layoutOf
  simp only [hvalue, Answer.candidate?, hcandidate, Option.map_some]
  cases v with
  | obj fields => exact absurd rfl (hv fields)
  | _ => rfl

end LayoutStage

/-- What a backend says when it is asked for a layout holds an object. -/
def Backend.Gives (b : Backend) (description : String) (fields : Fields) : Prop :=
  ∃ a, b.answerTo (layoutQuestion description) = .ok a ∧ LayoutStage.layoutOf a = .ok fields

theorem Backend.gives_iff {b : Backend} {description : String} {fields : Fields} :
    b.Gives description fields ↔ ∃ text found, b.reply (layoutQuestion description) = .ok text ∧
      Reply.findValue text.toList = .ok found ∧ found.value = some (.obj fields) := by
  constructor
  · rintro ⟨a, ha, hfields⟩
    obtain ⟨hreply, hfound⟩ := answerTo_eq_ok ha
    exact ⟨a.content, a.found, hreply, hfound, LayoutStage.layoutOf_eq_ok.1 hfields⟩
  · rintro ⟨text, found, hreply, hfound, hvalue⟩
    exact ⟨_, answerTo_of_found hreply hfound, LayoutStage.layoutOf_eq_ok.2 hvalue⟩

/-! ## Documents -/

/-- What is made of an object that is a valid layout. -/
structure Accepts (fields : Fields) (judged : ValidationResult) (d : LayoutDocument) : Prop where
  isJudged : validateLayout (.obj fields) = .ok judged
  isValid : judged.valid = true
  isRead : LayoutDocument.ofWire (.obj fields) = .ok d

/-- A valid layout is read as a document. -/
theorem exists_accepts {fields : Fields} {judged : ValidationResult}
    (hjudged : validateLayout (.obj fields) = .ok judged) (hvalid : judged.valid = true) :
    ∃ d, Accepts fields judged d := by
  obtain ⟨d, hd⟩ := exists_mirrors_of_valid hjudged hvalid
  exact ⟨d, hjudged, hvalid, ofWire_of_mirrors hd⟩

end Wireframe
