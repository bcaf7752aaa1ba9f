import Wireframe.Log.Placeholder
import Wireframe.Settings

/-!
# Where log lines go

A line has a level and a message. A sink keeps the lines from its threshold on: the console always,
two files unless the service is debugged. The lines of some other loggers are forwarded, each logger
with a threshold of its own.

* `Settings.sinks` — the sinks of a configuration.
* `Settings.forwarded` — the loggers whose lines are forwarded.
* `Settings.forward?` — what becomes of a line of a logger.
-/

namespace Wireframe

/-- The level of a line: a number, shown by a name. -/
structure Level where
  name : String
  rank : Int
  deriving DecidableEq, Repr

/-- A line to be kept. -/
structure LogLine where
  level : Level
  message : String
  deriving DecidableEq, Repr

namespace Level

def ofSeverity (s : Severity) : Level := ⟨s.text, s.rank⟩

/-- The level with a number; numbers without a name of their own are shown as numbers. -/
def ofRank (rank : Int) : Level :=
  match (Severity.options.map (·.2)).find? fun s => (s.rank : Int) == rank with
  | some s => ofSeverity s
  | none => ⟨s!"Level {rank}", rank⟩

/-- The levels by name, with those that only lines of the service itself have. -/
def named : List Level :=
  ⟨"TRACE", 5⟩ :: ⟨"SUCCESS", 25⟩ :: Severity.options.map fun (_, s) => ofSeverity s

def ofName? (name : String) : Option Level := named.find? fun l => l.name == name

/-- The level that a number stands for on its own. -/
def ofNumber (rank : Int) : Except Failure Level :=
  if rank < 0 then .error (.negativeLevel rank) else .ok ⟨s!"Level {rank}", rank⟩

/-- The level that a value stands for: that of a name, or a number on its own. -/
def ofJson : Json → Except Failure Level
  | .str name =>
    match ofName? name with
    | some l => .ok l
    | none => .error (.noLevel name)
  | .int rank => ofNumber rank
  | .bool b => ofNumber b.toNat
  | v => .error (.notLevel v.typeName)

end Level

/-! ## Sinks -/

/-- What keeps lines. -/
structure Sink where
  /-- The path of a file; the console has none. -/
  path : Option String
  threshold : Int
  deriving DecidableEq, Repr

/-- The lines that a sink keeps. -/
def Sink.kept (s : Sink) (lines : List LogLine) : List LogLine :=
  lines.filter fun l => decide (s.threshold ≤ l.level.rank)

namespace Settings

def console (s : Settings) : Sink := ⟨none, s.logLevel.rank⟩

/-- The log files: one from information on, one for errors, and none while debugging. -/
def logFiles (s : Settings) : List Sink :=
  if s.debug then []
  else
    [⟨some s!"{s.logDirectory}/layoutforge.log", Severity.info.rank⟩,
      ⟨some s!"{s.logDirectory}/layoutforge.errors.log", Severity.error.rank⟩]

def sinks (s : Settings) : List Sink := s.console :: s.logFiles

/-- The first line, which tells the configuration. -/
def firstLine (s : Settings) : LogLine where
  level := .ofSeverity .info
  message := s!"Logging configured - level={s.logLevel.text} debug={(Json.bool s.debug).display} " ++
    s!"environment={s.environment.text}"

end Settings

/-! ## Forwarded loggers -/

/-- A logger whose lines are forwarded. A threshold of zero leaves the choice to the loggers above. -/
structure Forwarded where
  logger : String
  threshold : Int
  deriving DecidableEq, Repr

def Forwarded.toJson (f : Forwarded) : Json :=
  .obj [("level", .int f.threshold), ("propagate", .bool false),
    ("handlers", .ofTexts ["InterceptHandler"])]

/-- The parts of a name that end before a dot, the shortest first. -/
def outerNames (before : List Char) : List Char → List String
  | [] => []
  | c :: rest =>
    let further := outerNames (before ++ [c]) rest
    if c == '.' then String.ofList before :: further else further

/-- A name and the names above it, the nearest first. -/
def namesAbove (name : String) : List String := name :: (outerNames [] name.toList).reverse

/-- The threshold where no logger has one. -/
def rootThreshold : Int := Severity.warning.rank

namespace Settings

def forwarded (s : Settings) : List Forwarded :=
  [⟨"layoutforge.llm", s.logLevel.rank⟩,
    ⟨"openai", if s.debug then Severity.debug.rank else Severity.warning.rank⟩,
    ⟨"httpx", if s.debug then Severity.info.rank else Severity.warning.rank⟩,
    ⟨"uvicorn", 0⟩, ⟨"uvicorn.error", 0⟩]

/-- The forwarded loggers at and above a name, the nearest first. -/
def forwardedAbove (s : Settings) (name : String) : List Forwarded :=
  (namesAbove name).filterMap fun n => s.forwarded.find? fun f => f.logger == n

/-- The threshold of a logger: the first above it that is not zero. -/
def thresholdOf (s : Settings) (name : String) : Int :=
  (((s.forwardedAbove name).find? fun f => f.threshold != 0).map (·.threshold)).getD rootThreshold

end Settings

/-! ## Lines -/

/-- The line that is forwarded of a logger: none below its threshold, and none of a logger that is
not forwarded. -/
def Settings.forward? (s : Settings) (logger : String) (rank : Int) (message : String)
    (values : List Json) : Except Failure (Option LogLine) :=
  if (s.forwardedAbove logger).isEmpty || rank < s.thresholdOf logger then .ok none
  else (fillMessage message values).map fun text => some ⟨.ofRank rank, text⟩

end Wireframe
