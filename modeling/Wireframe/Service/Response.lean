import Wireframe.Catalog
import Wireframe.Layout.Archetype
import Wireframe.Markup.Mapping
import Wireframe.Log.Record
import Wireframe.Service.Path
import Wireframe.Service.Request

/-!
# Responses

`respond` answers a request: by the endpoint at its path, by a refusal, by the path where the endpoint is,
or, when an answer cannot be sent, by the report of an internal error.

* `Settings.startEvents`, `stopEvents` — what the service logs when it starts and when it stops.
* `Endpoint.atPath?`, `Endpoint.redirection?` — how a path is told from all others.
* `visit` — a request by a client that goes where it is sent.
-/

namespace Wireframe

/-! ## Starting and stopping -/

namespace Settings

def hasBackend (s : Settings) : Bool := (s.backendKey.getD "") != ""

def startedEvent (s : Settings) : LogEvent where
  severity := .info
  name := .str "app.startup.completed"
  data := .obj [("service", .str s.appName), ("version", .str s.appVersion), ("debug", .bool s.debug),
    ("backend_configured", .bool s.hasBackend)]

/-- The warning that there is no backend. -/
def noBackendEvent : LogEvent where
  severity := .warning
  name := .str "app.startup.backend_unconfigured"
  message := .str "APP_LLM_API_KEY not set, only test mode generation is available"

def startEvents (s : Settings) : List LogEvent :=
  s.startedEvent :: if s.hasBackend then [] else [noBackendEvent]

end Settings

def stopEvents : List LogEvent := [{ severity := .info, name := .str "app.shutdown.completed" }]

/-- The logger of the service as a whole. -/
def serviceLogger : String := "layoutforge.main"

/-! ## Endpoints -/

/-- What the service offers. -/
inductive Endpoint where
  | health
  | liveness
  | components
  | componentExport
  | archetypes
  | layout
  | code
  | screen
  deriving DecidableEq, Repr

namespace Endpoint

def all : List Endpoint :=
  [health, liveness, layout, code, screen, components, componentExport, archetypes]

def path : Endpoint → String
  | health => "/health"
  | liveness => "/health/live"
  | components => "/api/v1/components"
  | componentExport => "/api/v1/components/export"
  | archetypes => "/api/v1/archetypes"
  | layout => "/api/v1/generate-layout"
  | code => "/api/v1/generate-code"
  | screen => "/api/v1/generate-screen"

def method : Endpoint → String
  | health | liveness | components | componentExport | archetypes => "GET"
  | layout | code | screen => "POST"

def atPath? (path : String) : Option Endpoint := all.find? fun e => e.path == path

/-- The path that a client is sent to from one where nothing is: the same without the slashes at its end,
or with one there, if something is at that. -/
def redirection? (path : String) : Option String :=
  let other := if path.endsWith "/" then directoryPath path else path ++ "/"
  if path ≠ "/" ∧ (atPath? other).isSome then some other else none

end Endpoint

/-! ## Answers -/

/-- The state of the world when a request is answered. -/
structure Moment where
  /-- How many seconds the service has run. -/
  uptime : Json
  timestamp : String
  /-- An identifier for an exchange that has none. -/
  freshId : String
  deriving Repr

/-- An answer before it is sent. -/
structure Draft where
  status : Nat
  body : Option Json
  /-- The file as which a client is to keep the answer. -/
  disposition : Option String := none
  /-- Where a client is to ask instead. -/
  location : Option String := none
  deriving Repr

/-- An answer as it is sent. -/
structure Response where
  status : Nat
  /-- What is sent, if anything is. -/
  body : Option Json
  exchangeId : Option String
  disposition : Option String := none
  location : Option String := none
  deriving Repr

/-- An answer that is nothing but a value. -/
def Draft.ofJson (status : Nat) (body : Json) : Draft := { status, body := some body }

/-- The answer to a request that nothing is offered for. -/
def refusal (status : Nat) (detail : String) : Draft := .ofJson status (.obj [("detail", .str detail)])

/-- The answer to a request whose body does not fit. -/
def misfit (messages : List String) : Draft :=
  .ofJson 400 (.obj [("success", .bool false), ("error", .str (messages.headD "Invalid request")),
    ("errors", .ofTexts messages)])

def healthJson (now : Moment) : Json :=
  .obj [("status", .str "healthy"), ("service", .str Settings.standard.appName),
    ("version", .str Settings.standard.appVersion),
    ("environment", .str Settings.standard.environment.text),
    ("backend_configured", .bool Settings.standard.hasBackend),
    ("llm_model", .str Settings.standard.backendModel),
    ("component_keys", .ofNat Catalog.keys.length), ("archetypes", .ofNat Wireframe.archetypes.length),
    ("mapped_kinds", .ofNat MappingTable.standard.length), ("uptime_seconds", now.uptime),
    ("timestamp", .str now.timestamp)]

/-- The answer of a run for a layout. -/
def LayoutRun.draft (r : LayoutRun) : Draft := .ofJson (if r.success then 200 else 500) r.payload

/-- The answer of a run for code. -/
def CodeRun.draft (r : CodeRun) : Draft := .ofJson (if r.success then 200 else 400) r.payload

/-- The answer of a run for a screen. -/
def ScreenRun.draft (r : ScreenRun) : Draft :=
  .ofJson (if r.success then 200 else if r.layout.success then 400 else 500) r.payload

/-- The answer to what a request asks for, if its body fits. -/
def Request.serve {α : Type} (r : Request) (read : Schema.Reader α) (use : α → Draft) : Draft :=
  match r.ask read with
  | .ok x => use x
  | .error .unreadable => refusal 400 "There was an error parsing the body"
  | .error (.misfit messages) => misfit messages

def Endpoint.answer (b : Backend) (now : Moment) (r : Request) : Endpoint → Draft
  | .health => .ofJson 200 (healthJson now)
  | .liveness => .ofJson 200 (.obj [("status", .str "alive"), ("timestamp", .str now.timestamp)])
  | .components => .ofJson 200 (.obj (Catalog.exported ++ [("mappingTable", MappingTable.standard.toJson)]))
  | .componentExport =>
    { Draft.ofJson 200 (.obj Catalog.exported) with
      disposition := some "attachment; filename=\"component_catalog.json\"" }
  | .archetypes => .ofJson 200 (.obj archetypeTables)
  | .layout => r.serve readDescription fun description => (generateLayout b (.str description)).draft
  | .code => r.serve CodeOrder.read fun order => (generateCode b order).draft
  | .screen => r.serve ScreenOrder.read fun order => (generateScreen b order).draft

/-- The answer to a request before it is sent. -/
def Request.answer (b : Backend) (now : Moment) (r : Request) : Draft :=
  match Endpoint.atPath? r.path with
  | none =>
    match Endpoint.redirection? r.path with
    | some path => { status := 307, body := none, location := some path }
    | none => refusal 404 "Not Found"
  | some e => if e.method = r.method then e.answer b now r else refusal 405 "Method Not Allowed"

/-- The identifier of an exchange: the client's, or a fresh one. -/
def Request.idOrFresh (r : Request) (now : Moment) : String :=
  match r.exchangeId with
  | none | some "" => now.freshId
  | some id => id

/-- What of a body is sent to a client: nothing when only the head of an answer is asked for. -/
def Request.sent (r : Request) (body : Option Json) : Option Json := if r.method = "HEAD" then none else body

/-- The report of an internal error. It carries no identifier of the exchange but in its body. -/
def internalError (r : Request) : Response where
  status := 500
  body := r.sent (some (.obj [("error", .str "internal_server_error"),
    ("message", .str "An unexpected error occurred. Please try again later."),
    ("correlation_id", .str (r.exchangeId.getD "unknown"))]))
  exchangeId := none

/-- Whether a value can be sent: its numbers have a text in JSON, and its texts an encoding. -/
def Json.isSendable (v : Json) : Bool := v.isStrict && !v.isTorn

def respond (b : Backend) (now : Moment) (r : Request) : Response :=
  let draft := r.answer b now
  if draft.body.all Json.isSendable then
    { draft with body := r.sent draft.body, exchangeId := some (r.idOrFresh now) }
  else internalError r

/-- Answers a client that asks for a target, and goes where it is sent. -/
def visit (b : Backend) (now : Moment) (r : Request) (target : String) : Response :=
  let there := { r with path := Path.ofTarget target }
  let response := respond b now there
  match response.location with
  | some path => respond b now { there with path }
  | none => response

end Wireframe
