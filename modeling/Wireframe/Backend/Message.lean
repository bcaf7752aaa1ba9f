import Wireframe.Failure
import Wireframe.Reply.Value

/-!
# Messages to a backend and its answers

A conversation is a list of messages, each with a role and a content. Both are kept as they were
given; `isConversation` says whether a backend can be asked with them. An answer is a text with the JSON
value that is found in it. A text with too much in it to be read is no answer.
-/

namespace Wireframe

/-- A message as it was given. -/
structure Message where
  role : Json
  content : Json
  deriving Repr

namespace Message

def ofTexts (role content : String) : Message := ⟨.str role, .str content⟩

def toJson (m : Message) : Json := .obj [("role", m.role), ("content", m.content)]

end Message

def messageRoles : List String := ["system", "user", "assistant"]

/-- Whether every message has a known role and a text. -/
def areMessages : List Message → Except Failure Bool
  | [] => .ok true
  | m :: rest => do
    match ← m.role.asKey with
    | some role =>
      if messageRoles.contains role && m.content.text?.isSome then areMessages rest else .ok false
    | none => .ok false

/-- Whether a backend can be asked with messages: there are some, and all are well-formed. -/
def isConversation (messages : List Message) : Except Failure Bool :=
  match messages with
  | [] => .ok false
  | _ => areMessages messages

structure Answer where
  content : String
  found : Reply.FoundValue
  deriving Repr

namespace Answer

def ofContent (content : String) : Except Failure Answer :=
  match Reply.findValue content.toList with
  | .ok found => .ok ⟨content, found⟩
  | .error e => .error (.excess e)

/-- The text in which the value was found, or should have been. -/
def candidate? (a : Answer) : Option String := a.found.candidate.map String.ofList

/-- Why no value was found. -/
def faultMessage? (a : Answer) : Option String := a.found.fault.map (·.message)

def toJson (a : Answer) : Json :=
  .obj [("content", .str a.content), ("is_valid_json", .bool a.found.value.isSome),
    ("extracted_json", a.found.value.getD .null), ("json_candidate", .ofText? a.candidate?),
    ("json_error", .ofText? a.faultMessage?)]

end Answer

end Wireframe
