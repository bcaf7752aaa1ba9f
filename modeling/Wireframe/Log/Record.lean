import Wireframe.Failure
import Wireframe.Log.Scope
import Wireframe.Number.Decimal
import Wireframe.Settings

/-!
# Log records

An event says what happened; a record is the event as a JSON document, with the service, the logger
and the identifiers of the work at hand.

* `LogEvent.document` — the document of an event.
* `performanceEvent` — the event of a measured time.
* `tracedEvents` — the events of a call that is traced.
-/

namespace Wireframe

/-- Something that happened. -/
structure LogEvent where
  severity : Severity
  /-- The name of what happened, a text as a rule. -/
  name : Json
  /-- Said about it. -/
  message : Json := .null
  data : Json := .null
  /-- The failure that it is about. -/
  cause : Option Failure := none
  deriving Repr

namespace LogEvent

/-- The message of an event, its name unless something is said. -/
def messageOrName (e : LogEvent) : Json := e.message.orElse e.name

/-- The service that writes records. -/
def serviceJson : Json :=
  .obj [("name", .str Settings.standard.appName), ("version", .str Settings.standard.appVersion),
    ("environment", .str Settings.standard.environment.text)]

def causeJson (f : Failure) : Json := .obj [("type", .str f.typeName), ("message", .str f.message)]

def document (logger : String) (ids : Ids) (e : LogEvent) : Fields :=
  [("service", serviceJson), ("logger", .obj [("name", .str logger)]),
    ("correlation", ids.toJson), ("level", .str e.severity.text), ("event", e.name),
    ("message", e.messageOrName)] ++
  (if e.data.isTruthy then [("data", e.data)] else []) ++
  (e.cause.map fun f => ("error", causeJson f)).toList

end LogEvent

/-! ## Measured times -/

/-- A time in milliseconds. -/
inductive Milliseconds where
  | whole (n : Int)
  | fractional (x : Binary64)
  /-- One millisecond or none. -/
  | unit (b : Bool)
  deriving Repr

namespace Milliseconds

/-- The time that a value gives. -/
def ofJson : Json → Except Failure Milliseconds
  | .int n => .ok (whole n)
  | .float x => .ok (fractional x)
  | .bool b => .ok (unit b)
  | v => .error (.notNumber v.typeName)

/-- A time as it was measured. -/
def toJson : Milliseconds → Json
  | whole n => .int n
  | fractional x => .float x
  | unit b => .bool b

/-- So many milliseconds in seconds. -/
def secondsOf (n : Int) : Except Failure Binary64 :=
  match Binary64.ofQuotient? n 1000 with
  | some x => .ok x
  | none => .error .quotientTooLarge

/-- An integer with one place after the point. -/
def textOf (n : Int) : Except Failure String :=
  let x := Binary64.ofInt n
  if x.isFinite then .ok (x.fixed 1) else .error .integerTooLarge

def seconds : Milliseconds → Except Failure Binary64
  | whole n => secondsOf n
  | fractional x => .ok (x.div (Binary64.ofInt 1000))
  | unit b => secondsOf b.toNat

/-- A time with one place after the point. -/
def text : Milliseconds → Except Failure String
  | whole n => textOf n
  | fractional x => .ok (x.fixed 1)
  | unit b => textOf b.toNat

end Milliseconds

/-- The event of a measured time, with further data. -/
def performanceEvent (name : Json) (took : Milliseconds) (extra : Json) :
    Except Failure LogEvent := do
  let seconds ← took.seconds
  let measured : Json := .obj [("duration_ms", took.toJson), ("duration_seconds", .float seconds)]
  let further ← if extra.isTruthy then extra.asMapping else .ok []
  let text ← took.text
  .ok { severity := .info, name, message := .str s!"Performance: {text}ms"
        data := .obj (Fields.update [("performance", measured)] further) }

/-! ## Traced calls -/

/-- The event at the start of a traced call. -/
def startedEvent (label function : String) : LogEvent where
  severity := .debug
  name := .str s!"{label}.started"
  data := .obj [("function", .str function)]

/-- The event at the end of a traced call that failed. -/
def failedEvent (label function : String) (took : Milliseconds) (f : Failure) : LogEvent where
  severity := .error
  name := .str s!"{label}.failed"
  data := .obj [("function", .str function), ("duration_ms", took.toJson),
    ("error_type", .str f.typeName)]
  cause := some f

/-- The events of a traced call, in order, by how it came out. -/
def tracedEvents {α : Type} (label function : String) (took : Milliseconds)
    (outcome : Except Failure α) : Except Failure (List LogEvent) := do
  let ended ←
    match outcome with
    | .ok _ =>
      performanceEvent (.str s!"{label}.completed") took
        (.obj [("function", .str function), ("success", .bool true)])
    | .error f => pure (failedEvent label function took f)
  .ok [startedEvent label function, ended]

end Wireframe
