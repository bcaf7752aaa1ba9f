import Wireframe.Pipeline.Context

/-!
# Stages and runs

A stage has a name and acts on contexts, and it may fail. A failure undoes nothing: what the stage
changed before it failed stays changed. `run` lets stages act one after another and stops at the
first that fails: its failure becomes the last error. Which stages were executed, which one failed and
why is the run's own record, made of no stage's doing. `outcomes` lets stages act whatever becomes of
those before.

* `Act` — what stages consist of: steps that look into a context, change it or fail.
-/

namespace Wireframe

/-- What a stage leaves behind: a context, and a result or a failure. -/
structure Outcome where
  context : Context
  result : Except Failure Json

/-- A step of a pipeline. What it does about its own failure, by default nothing, comes ahead of the
record that the run makes of it. -/
structure Stage where
  name : String
  execute : Context → Outcome
  onError : Failure → Context → Context := fun _ c => c

/-- Steps on a context, one after another, up to a value or to a failure. The changes of the context
ahead of a failure are kept. -/
abbrev Act := EStateM Failure Context

namespace Act

/-- A computation that does without the context. -/
def ofExcept {α : Type} : Except Failure α → Act α
  | .ok a => pure a
  | .error f => throw f

instance : MonadLift (Except Failure) Act := ⟨ofExcept⟩

/-- The entry of a key, if it is there. -/
def find? (key : String) : Act (Option Datum) := do return (← get).get? key

/-- The entry of a key that has to be there. -/
def need (key : String) : Act Datum := do (← get).need key

/-- Gives a key an entry. -/
def put (key : String) (d : Datum) : Act Unit := modify (·.put key d)

def warn (warnings : List String) : Act Unit := modify (·.warn warnings)

def addErrors (errors : List String) : Act Unit := modify (·.addErrors errors)

/-- Puts a question: it is recorded, and then it is answered or fails. -/
def ask (answer : Question → Except Failure String) (q : Question) : Act Answer := do
  let record ← q.record
  modify (·.recordQuestion record)
  Answer.ofContent (← answer q)

end Act

/-- A stage that consists of steps. -/
def Stage.ofAct (name : String) (act : Act Json) : Stage :=
  { name
    execute := fun c =>
      match act.run c with
      | .ok v next => ⟨next, .ok v⟩
      | .error f left => ⟨left, .error f⟩ }

/-- A stage that nothing is known about. -/
def Stage.unknown (name : String) : Stage := .ofAct name (throw (.notImplemented name))

/-- What a run leaves behind: the context, and the record that the run itself has kept. -/
structure Ending extends Context where
  /-- The names of the stages that were executed, each once, in the order of their first turns. -/
  ran : List String := []
  failedStage : Option String := none
  errorDetail : Option Fields := none
  deriving Repr

namespace Ending

/-- The end of a run that goes through a stage first. -/
def after (name : String) (e : Ending) : Ending := { e with ran := name :: e.ran.erase name }

def halted (e : Ending) : Bool := e.failedStage.isSome

end Ending

/-- The end of a run at the failure of a stage. -/
def Context.halt (c : Context) (name : String) (f : Failure) : Ending :=
  { c.addErrors [s!"{name}: {f.message}"] with
    ran := [name]
    failedStage := some name
    errorDetail := some f.report }

/-- Runs stages in order up to the first that fails. -/
def run : List Stage → Context → Ending
  | [], c => { c with }
  | s :: rest, c =>
    let outcome := s.execute c
    match outcome.result with
    | .ok _ => (run rest outcome.context).after s.name
    | .error f => (s.onError f outcome.context).halt s.name f

/-- The outcomes of stages that act one after another, whatever becomes of them. -/
def outcomes : List Stage → Context → List (Stage × Outcome)
  | [], _ => []
  | s :: rest, c =>
    let outcome := s.execute c
    (s, outcome) :: outcomes rest outcome.context

end Wireframe
