import Wireframe.Backend.Message
import Wireframe.Settings
import Wireframe.Text.Search

/-!
# The client of a backend

A client asks a chat backend once per request and never again for the same request.

* `Client.ofConfig` — a client from its configuration; there is none without a key.
* `Client.generate` — one answer, or why the backend's behaviour gave none.
* `Client.checkHealth` — whether the backend answers at all.
-/

namespace Wireframe

/-- How a backend is reached and asked. -/
structure Client where
  key : Json
  /-- The address, absent for the usual one. -/
  baseUrl : Option String
  model : Json
  temperature : Json
  maxTokens : Json
  minLength : Json
  deriving Repr

/-- What is sent to a backend. -/
structure ChatRequest where
  model : Json
  messages : List Message
  temperature : Binary64
  maxTokens : Json
  deriving Repr

/-- A choice among the answers of a backend. -/
structure Choice where
  content : Json
  finishReason : Json
  deriving Repr

/-- The numbers of tokens that a request took. -/
structure Usage where
  prompt : Json
  completion : Json
  total : Json
  deriving Repr

/-- What a backend sends back. -/
structure Completion where
  choices : List Choice
  usage : Option Usage
  model : Json
  id : Json
  deriving Repr

/-- What a backend does when it is asked. -/
inductive Behaviour where
  | completes (c : Completion)
  | refuses
  | timesOut
  | fails (message : String)
  deriving Repr

/-- What a request may set for itself; absent means as the client is configured. -/
structure ChatOptions where
  temperature : Json
  maxTokens : Json
  minLength : Option Json
  deriving Repr

/-- An answer with what the backend says about it. -/
structure ChatAnswer where
  answer : Answer
  finishReason : Json
  model : Json
  usage : Option Usage
  id : Json
  deriving Repr

/-- What was sent to a backend and what came of it. -/
structure Exchange (α : Type) where
  sent : List ChatRequest
  result : Except Failure α

/-- The fault of a backend that gave no answer. -/
def backendFault (message : String) : Failure := .fault (.generation message)

/-- A configured value, or its default when it is absent. -/
def configured (config : Fields) (name : String) (default : Json) : Json :=
  (config.get? name).getD default

/-- The path that an address may end in. -/
def completionsPath : List Char := "/chat/completions".toList

/-- An address without slashes and one path of completions at its end; absent when nothing is left. -/
def baseUrlOf (address : String) : Option String :=
  let trimmed := Text.dropEndWhile (· == '/') address.toList
  match (Text.dropTail? completionsPath trimmed).getD trimmed with
  | [] => none
  | url => some (String.ofList url)

namespace Client

/-- The client with a configuration. -/
def ofConfig (config : Fields) : Except Failure Client := do
  let key := config.get "api_key"
  if key.isTruthy then
    let address := config.get "api_url"
    let baseUrl ←
      match address with
      | .str s => pure (baseUrlOf s)
      | v => if v.isTruthy then .error (.noMember v.typeName "rstrip") else pure none
    .ok { key, baseUrl
          model := configured config "model" (.str Settings.standard.backendModel)
          temperature := configured config "temperature" (.float Settings.standard.temperature)
          maxTokens := configured config "max_tokens" (.int Settings.standard.maxTokens)
          minLength := configured config "min_response_length" (.int 0) }
  else .error (backendFault "Generative backend API key (APP_LLM_API_KEY) is not configured")

end Client

/-- A value as a number. -/
def numberOf? : Json → Option Binary64
  | .bool b => some (Binary64.ofInt (if b then 1 else 0))
  | .int n => some (Binary64.ofInt n)
  | .float x => some x
  | _ => none

/-- A temperature moved between zero and two. -/
def clampTemperature (v : Json) : Except Failure Binary64 :=
  match numberOf? v with
  | none => .error (.noOrder v.typeName "float")
  | some t =>
    let low := if t.lt (Binary64.ofInt 2) then t else Binary64.ofInt 2
    .ok (if (Binary64.ofInt 0).lt low then low else Binary64.ofInt 0)

/-- Whether a length lies below a least length. -/
def isBelow (length : Nat) (least : Json) : Except Failure Bool :=
  match least with
  | .int n => .ok ((length : Int) < n)
  | .bool b => .ok (decide (length < if b then 1 else 0))
  | .float x => .ok ((Binary64.ofInt length).lt x)
  | v => .error (.noOrder "int" v.typeName)

/-- The text of a choice; nothing counts as the empty text. -/
def Choice.text (c : Choice) (member : String) : Except Failure String :=
  match c.content with
  | .str s => .ok s
  | v => if v.isTruthy then .error (.noMember v.typeName member) else .ok ""

namespace Client

/-- What becomes of a completion for a least length. -/
def accept (least : Json) (c : Completion) : Except Failure ChatAnswer :=
  match c.choices with
  | [] => .error (backendFault "Generative backend returned no choices")
  | choice :: _ => do
    let content ← choice.text "strip"
    let tooShort := backendFault "Generative backend response too short or empty"
    if Text.isBlankText content.toList then .error tooShort
    else if ← isBelow content.length least then .error tooShort
    else .ok ⟨← Answer.ofContent content, choice.finishReason, c.model, c.usage, c.id⟩

/-- What becomes of a backend's behaviour. -/
def receive (least : Json) : Behaviour → Except Failure ChatAnswer
  | .completes c => accept least c
  | .refuses => .error (backendFault "Generative backend authentication failed: check APP_LLM_API_KEY")
  | .timesOut => .error (backendFault "Generative backend timed out")
  | .fails message => .error (backendFault s!"Generative backend error: {message}")

def request (client : Client) (messages : List Message) (options : ChatOptions) :
    Except Failure ChatRequest := do
  if ← isConversation messages then
    let temperature ←
      clampTemperature (if options.temperature.isNull then client.temperature else options.temperature)
    .ok { model := client.model, messages, temperature
          maxTokens := if options.maxTokens.isTruthy then options.maxTokens else client.maxTokens }
  else .error (backendFault "Invalid messages format")

/-- Asks a backend once, unless the messages are no conversation. -/
def generate (client : Client) (messages : List Message) (options : ChatOptions)
    (behaviour : Behaviour) : Exchange ChatAnswer :=
  match client.request messages options with
  | .error f => ⟨[], .error f⟩
  | .ok r => ⟨[r], receive (options.minLength.getD client.minLength) behaviour⟩

/-- The request by which the health of a backend is checked. -/
def healthRequest (client : Client) : ChatRequest where
  model := client.model
  messages := [.ofTexts "system" "You are a helpful assistant.", .ofTexts "user" "Respond with 'OK'"]
  temperature := Binary64.ofInt 0
  maxTokens := .int 5

/-- Whether a text says OK, in letters of either case. -/
def saysOK : List Char → Bool
  | a :: b :: rest => (Text.lowerAscii a == 'o' && Text.lowerAscii b == 'k') || saysOK (b :: rest)
  | _ => false

/-- What a backend's behaviour says about its health. -/
def healthOf : Behaviour → Except Failure Bool
  | .completes c =>
    match c.choices with
    | [] => .error .outOfRange
    | choice :: _ => return saysOK (← choice.text "upper").toList
  | .refuses | .timesOut | .fails _ => .ok false

/-- Asks a backend once whether it works. -/
def checkHealth (client : Client) (behaviour : Behaviour) : Exchange Bool :=
  ⟨[client.healthRequest], healthOf behaviour⟩

end Client

end Wireframe
