import Wireframe.Json.Reader
import Wireframe.Pipeline.Screen
import Wireframe.Schema.Decode
import Wireframe.Text.Encoding

/-!
# Requests

A request names a method and a path and may carry a body. `Request.payload` is the JSON value of the
body, whose encoding shows in its first bytes; the readers take it to what is asked for.

* `readDescription` — what a layout is generated from.
* `CodeOrder.read`, `ScreenOrder.read` — what code and screens are generated from.
-/

namespace Wireframe

structure Request where
  method : String
  /-- The path of what is asked for, without a query and with no escapes left in it. -/
  path : String
  /-- The identifier that the client gives the exchange. -/
  exchangeId : Option String
  contentType : Option String
  body : List UInt8
  deriving Repr

/-! ## Bodies -/

/-- Whether a content type says that a body is JSON. Parameters after a semicolon say nothing. -/
def isJsonType (contentType : List Char) : Bool :=
  let mediaType := (Text.trim (contentType.takeWhile (· != ';'))).map Text.lowerAscii
  match Text.dropLead? "application/".toList mediaType with
  | none => false
  | some kind =>
    !kind.contains '/' && (kind == "json".toList || (Text.dropTail? "+json".toList kind).isSome)

/-- Why a body is of no use. -/
inductive BodyFault where
  /-- It cannot be read. -/
  | unreadable
  /-- It is not what is asked for; what a client is told about it. -/
  | misfit (messages : List String)
  deriving Repr

/-- What a client is told of an issue: its place, if it has one, and what is wrong. -/
def Issue.clientText (i : Issue) : String :=
  let wording :=
    match i.kind with
    | .refused reason => reason
    | kind => kind.message
  if i.path.isEmpty then wording
  else String.intercalate "." (i.path.map PathStep.text) ++ ": " ++ wording

namespace Request

/-- Whether the body is taken for JSON: it is unless a content type says otherwise. -/
def isJson (r : Request) : Bool :=
  match r.contentType with
  | none | some "" => true
  | some contentType => isJsonType contentType.toList

/-- The value of the body. -/
def payload (r : Request) : Except BodyFault Json :=
  if r.body.isEmpty then .error (.misfit [IssueKind.missing.message])
  else if r.isJson then
    match Text.decodeBytes? r.body with
    | none => .error .unreadable
    | some text =>
      match Json.read text with
      | .error (.malformed f) => .error (.misfit [s!"{f.offset}: JSON decode error"])
      | .error (.excess _) => .error .unreadable
      | .ok .null => .error (.misfit [IssueKind.missing.message])
      | .ok v => .ok v
  else .error (.misfit [IssueKind.notFields.message])

def ask {α : Type} (r : Request) (read : Schema.Reader α) : Except BodyFault α := do
  let v ← r.payload
  (read v).mapError fun issues => .misfit (issues.map Issue.clientText)

end Request

/-! ## What is asked for -/

/-- A description that is not blank, without the white space around it. -/
def readDescriptionText : Schema.Reader String := fun v => do
  let s ← Schema.textWithin 1 4000 v
  match Text.trim s.toList with
  | [] => Schema.issue (.refused "userPrompt cannot be empty or whitespace") v
  | trimmed => .ok (String.ofList trimmed)

/-- The field with the description of a screen. -/
def descriptionField (fields : Fields) : Schema.Checked String :=
  Schema.required fields ["userPrompt", "user_prompt"] readDescriptionText

def screenNameField (fields : Fields) : Schema.Checked (Option String) :=
  Schema.optional fields ["screenName", "screen_name"] none (Schema.nullable (Schema.textWithin 0 100))

/-- The field that asks for a sample reply. -/
def sampleField (fields : Fields) : Schema.Checked Bool :=
  Schema.optional fields ["testMode", "test_mode"] false Schema.bool

/-- A field with an object, or null. -/
def objectField (fields : Fields) (names : List String) : Schema.Checked (Option Fields) :=
  Schema.optional fields names none (Schema.nullable (Schema.fieldsOr .notObject))

/-- The field with the node that inputs are inferred from. -/
def nodeField (fields : Fields) : Schema.Checked (Option Fields) :=
  objectField fields ["figmaNode", "figma_node"]

def optionalObject (fields : Option Fields) : Json := (fields.map Json.obj).getD .null

/-- Reads what a layout is generated from. -/
def readDescription : Schema.Reader String := fun v => do
  descriptionField (← Schema.fieldsOr .notFields v)

/-- Reads what code is generated from: a layout under either of two keys, and perhaps a node under
either of two others. -/
def CodeOrder.read : Schema.Reader CodeOrder := fun v => do
  let fields ← Schema.fieldsOr .notFields v
  let (layout, document, screenName, sample, node, sourceNode) ← Schema.both
    (objectField fields ["figmaLayoutJSON", "figma_layout_json"])
    (Schema.both (objectField fields ["layoutDocument", "layout_document"])
      (Schema.both (screenNameField fields)
        (Schema.both (sampleField fields)
          (Schema.both (nodeField fields)
            (objectField fields ["inferredInputSourceNode", "inferred_input_source_node"])))))
  match document.or layout with
  | none => Schema.issue (.refused "figmaLayoutJSON is required") v
  | some chosen =>
    .ok { layout := .given (.obj chosen), screenName := .ofText? screenName, sample
          node := (optionalObject sourceNode).orElse (optionalObject node) }

def ScreenOrder.read : Schema.Reader ScreenOrder := fun v => do
  let fields ← Schema.fieldsOr .notFields v
  let (description, screenName, sample, node) ← Schema.both (descriptionField fields)
    (Schema.both (screenNameField fields)
      (Schema.both (sampleField fields) (nodeField fields)))
  .ok { description := .str description, screenName := .ofText? screenName, sample
        node := optionalObject node }

end Wireframe
