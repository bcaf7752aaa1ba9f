import Wireframe.Json.Basic

/-!
# Identifiers of the work at hand

Every log record carries three identifiers: of the exchange with a client, of the run, and the name
of the screen. A scope gives some of them a value for as long as it is open; scopes are opened and
closed one inside another.

* `Ids.enter`, `Ids.leave` — opening a scope, and undoing what opening it changed.
* `Tracker` — the identifiers with the scopes that are open.
-/

namespace Wireframe

/-- One of the three identifiers. -/
inductive IdKind where
  | exchange
  | run
  | screen
  deriving DecidableEq, Repr

namespace IdKind

/-- Every identifier, in order. -/
def all : List IdKind := [exchange, run, screen]

/-- The key of an identifier. -/
def key : IdKind → String
  | exchange => "correlation_id"
  | run => "request_id"
  | screen => "screen_name"

end IdKind

/-- The values of the three identifiers; null is none. -/
structure Ids where
  exchange : Json := .null
  run : Json := .null
  screen : Json := .null
  deriving Repr

namespace Ids

/-- The value of an identifier. -/
def get (ids : Ids) : IdKind → Json
  | .exchange => ids.exchange
  | .run => ids.run
  | .screen => ids.screen

/-- Gives an identifier a value. -/
def set (ids : Ids) (k : IdKind) (v : Json) : Ids :=
  match k with
  | .exchange => { ids with exchange := v }
  | .run => { ids with run := v }
  | .screen => { ids with screen := v }

/-- The later of two values of an identifier counts. -/
theorem set_set (ids : Ids) (k : IdKind) (v w : Json) : (ids.set k v).set k w = ids.set k w := by
  cases k <;> rfl

/-- Giving an identifier the value that it has changes nothing. -/
theorem set_get (ids : Ids) (k : IdKind) : ids.set k (ids.get k) = ids := by
  cases k <;> rfl

/-- The identifiers by their keys. -/
def toJson (ids : Ids) : Json := .obj (IdKind.all.map fun k => (k.key, ids.get k))

/-- The identifiers that an object gives. -/
def ofFields (fields : Fields) : Ids :=
  ⟨fields.get IdKind.exchange.key, fields.get IdKind.run.key, fields.get IdKind.screen.key⟩

end Ids

/-- What an open scope replaced, the latest first. -/
abbrev Scope := List (IdKind × Json)

namespace Ids

/-- Puts back what a scope replaced. -/
def leave (ids : Ids) : Scope → Ids
  | [] => ids
  | (k, v) :: rest => leave (ids.set k v) rest

/-- Replaces identifiers one after another where a value is given. -/
def replace (given : Ids) : List IdKind → Ids × Scope → Ids × Scope
  | [], state => state
  | k :: rest, (ids, scope) =>
    if (given.get k).isTruthy then
      replace given rest (ids.set k (given.get k), (k, ids.get k) :: scope)
    else replace given rest (ids, scope)

/-- Leaving undoes every replacement. -/
theorem leave_replace (given : Ids) (ks : List IdKind) (ids : Ids) (scope : Scope) :
    (replace given ks (ids, scope)).1.leave (replace given ks (ids, scope)).2 = ids.leave scope := by
  induction ks generalizing ids scope with
  | nil => rfl
  | cons k rest ih =>
    simp only [replace]
    split
    · rw [ih, leave, set_set, set_get]
    · exact ih ids scope

/-- Opens a scope with the values given. -/
def enter (ids given : Ids) : Ids × Scope := replace given IdKind.all (ids, [])

/-- Leaving a scope right after it was opened changes nothing. -/
theorem leave_enter (ids given : Ids) : (ids.enter given).1.leave (ids.enter given).2 = ids :=
  leave_replace given IdKind.all ids []

end Ids

/-- The identifiers with the scopes that are open, the innermost first. -/
structure Tracker where
  ids : Ids := {}
  opened : List Scope := []
  deriving Repr

namespace Tracker

/-- Opens a scope. -/
def enter (t : Tracker) (given : Ids) : Tracker :=
  let (ids, scope) := t.ids.enter given
  ⟨ids, scope :: t.opened⟩

/-- Closes the innermost scope, if one is open. -/
def exit? (t : Tracker) : Option Tracker :=
  match t.opened with
  | [] => none
  | scope :: rest => some ⟨t.ids.leave scope, rest⟩

/-- Closing a scope right after it was opened changes nothing. -/
theorem exit?_enter (t : Tracker) (given : Ids) : (t.enter given).exit? = some t := by
  simp only [enter, exit?, Ids.leave_enter]

end Tracker

end Wireframe
