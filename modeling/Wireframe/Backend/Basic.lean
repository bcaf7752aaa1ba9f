import Wireframe.Backend.Message

/-!
# Backends as pipelines see them

A backend is asked with messages and a least length, and gives a text or fails. Every question that
reaches a backend is recorded.
-/

namespace Wireframe

structure Question where
  messages : List Message
  minLength : Int
  deriving Repr

/-- Something that answers questions, or the lack of it. -/
inductive Backend where
  /-- No backend has been configured. -/
  | unconfigured
  /-- A backend that gives each question an answer or fails. -/
  | answering (answer : Question → Except Failure String)

/-- What is recorded of a question: the roles and the lengths of its messages. -/
structure QuestionRecord where
  roles : List Json
  lengths : List Nat
  minLength : Int
  deriving Repr

def contentLength : Json → Except Failure Nat
  | .str s => .ok s.length
  | .arr items => .ok items.length
  | .obj fields => .ok fields.length
  | v => .error (.noLength v.typeName)

def Question.record (q : Question) : Except Failure QuestionRecord := do
  .ok ⟨q.messages.map (·.role), ← q.messages.mapM fun m => contentLength m.content, q.minLength⟩

def QuestionRecord.toJson (r : QuestionRecord) : Json :=
  .obj [("roles", .arr r.roles), ("chars", .arr (r.lengths.map .ofNat)),
    ("min_response_length", .int r.minLength)]

/-- The failure of asking where no backend has been configured. -/
def Backend.unconfiguredFault : Failure :=
  .fault (.generation "Generative backend API key (APP_LLM_API_KEY) is not configured")

/-- What answers the questions to a backend, if one has been configured. -/
def Backend.provider : Backend → Except Failure (Question → Except Failure String)
  | .unconfigured => .error unconfiguredFault
  | .answering answer => .ok answer

end Wireframe
