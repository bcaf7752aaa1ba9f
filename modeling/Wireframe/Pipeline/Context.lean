import Wireframe.Backend.Basic
import Wireframe.Design.Basic
import Wireframe.Inputs.Basic
import Wireframe.Layout.Basic
import Wireframe.Reply.Export

/-!
# The state of a run

A context holds what the stages of a run hand to each other by key, the errors and warnings so far, and
the questions that reached a backend.

* `Context.need` — the entry of a key that has to be there.
* `Datum.asDesign` and its like — an entry as a value of its type.
-/

namespace Wireframe

/-- An entry of a context: what was given, or what a stage made. -/
inductive Datum where
  | given (v : Json)
  | messages (ms : List Message)
  | answer (a : Answer)
  | layout (d : LayoutDocument)
  | enhanced (l : EnhancedLayout)
  | components (cs : List FlatComponent)
  | design (d : Design)
  | inputs (i : InferredInputs)
  | files (s : FileSet)
  | exports (es : List ExportFile)
  deriving Repr

namespace Datum

def toJson : Datum → Json
  | given v => v
  | messages ms => .arr (ms.map (·.toJson))
  | answer a => a.toJson
  | layout d => d.toWire
  | enhanced l => l.toWire
  | components cs => .arr (cs.map (·.toJson))
  | design d => d.toJson
  | inputs i => i.toJson
  | files s => s.toJson
  | exports es => .arr (es.map (·.toJson))

/-- The failure of an entry that lacks a member. -/
def lacks {α : Type} (d : Datum) (member : String) : Except Failure α :=
  .error (.noMember d.toJson.typeName member)

/-- An entry as an answer, of which a member is asked for. -/
def asAnswer (member : String) : Datum → Except Failure Answer
  | answer a => .ok a
  | d => d.lacks member

def asLayout (member : String) : Datum → Except Failure LayoutDocument
  | layout d => .ok d
  | d => d.lacks member

def asEnhanced (member : String) : Datum → Except Failure EnhancedLayout
  | enhanced l => .ok l
  | d => d.lacks member

def asDesign (member : String) : Datum → Except Failure Design
  | design d => .ok d
  | d => d.lacks member

def asFiles (member : String) : Datum → Except Failure FileSet
  | files s => .ok s
  | d => d.lacks member

/-- An optional entry as inputs; null is none. -/
def asInputs (member : String) : Option Datum → Except Failure (Option InferredInputs)
  | none | some (given .null) => .ok none
  | some (inputs i) => .ok (some i)
  | some d => d.lacks member

/-- An entry as messages. What was given can only be no messages at all. -/
def asMessages : Datum → Except Failure (List Message)
  | messages ms => .ok ms
  | d =>
    match d.toJson.parts? with
    | some [] => .ok []
    | some (first :: _) => .error (.noMember first.typeName "role")
    | none => .error (.notIterable d.toJson.typeName)

end Datum

/-- Entries by key, in the order in which the keys came. -/
abbrev Data := List (String × Datum)

/-- Gives a key an entry: in its place when the key is present, else at the end. -/
def Data.set (data : Data) (key : String) (d : Datum) : Data :=
  match data with
  | [] => [(key, d)]
  | (k, e) :: rest => if k = key then (k, d) :: rest else (k, e) :: Data.set rest key d

/-- The state that the stages of a run work on. -/
structure Context where
  data : Data
  errors : List String := []
  warnings : List String := []
  /-- The questions that reached a backend. -/
  asked : List QuestionRecord := []
  deriving Repr

namespace Context

/-- The context with given values. -/
def ofFields (fields : Fields) : Context := { data := fields.map fun (k, v) => (k, .given v) }

def get? (c : Context) (key : String) : Option Datum := c.data.lookup key

/-- The entry of a key that has to be there. -/
def need (c : Context) (key : String) : Except Failure Datum :=
  match c.get? key with
  | some d => .ok d
  | none => .error (.missingKey key)

def put (c : Context) (key : String) (d : Datum) : Context := { c with data := Data.set c.data key d }

def warn (c : Context) (warnings : List String) : Context :=
  { c with warnings := c.warnings ++ warnings }

def addErrors (c : Context) (errors : List String) : Context := { c with errors := c.errors ++ errors }

/-- The context with a further question that reached a backend. -/
def recordQuestion (c : Context) (record : QuestionRecord) : Context :=
  { c with asked := c.asked ++ [record] }

/-- The keys in the order of their code points. -/
def keys (c : Context) : List String := sortTexts (c.data.map (·.1))

end Context

end Wireframe
