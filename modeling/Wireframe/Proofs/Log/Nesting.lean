import Mathlib.Data.List.Forall2
import Wireframe.Log.Record

/-!
# Scopes that are nested

A program opens scopes one inside another, logs, and may fail anywhere; a scope is left when its body
comes to an end and when it fails. The identifiers of a record are settled by the scopes that stand
around the log call in the text of the program.

* `Program.run` — what a program does to a tracker, and what it writes.
* `Program.calls` — the log calls of a program with the scopes around them; no tracker is consulted.
* `Ids.innermost` — the value of an identifier by the scopes around a call.
* `Program.run_eq` — the one told by the other, and every tracker left as it was.
* `scopes_nest` — what every record carries, and what is left behind.
-/

set_option autoImplicit false

namespace Wireframe

/-! ## Programs -/

/-- A call that writes a record. -/
inductive LogCall where
  | event (e : LogEvent)
  | performance (name took extra : Json)

/-- The event that a call tells, or why it fails. -/
def LogCall.event? : LogCall → Except Failure LogEvent
  | event e => .ok e
  | performance name took extra => do performanceEvent name (← Milliseconds.ofJson took) extra

/-- A program that logs. -/
inductive Program where
  | done
  | log (logger : String) (call : LogCall)
  | fail (f : Failure)
  | seq (first second : Program)
  /-- A scope around a program. -/
  | scope (given : Ids) (body : Program)
  /-- A program with another one for the case that it fails. -/
  | rescue (body handler : Program)

namespace Program

/-- What a run leaves behind. -/
structure Outcome where
  tracker : Tracker
  records : List Fields
  failure : Option Failure

/-- What is left behind by two runs, one after the other. -/
def Outcome.followedBy (a b : Outcome) : Outcome := { b with records := a.records ++ b.records }

def run : Program → Tracker → Outcome
  | done, t => ⟨t, [], none⟩
  | log logger call, t =>
    match call.event? with
    | .ok e => ⟨t, [e.document logger t.ids], none⟩
    | .error f => ⟨t, [], some f⟩
  | fail f, t => ⟨t, [], some f⟩
  | seq p q, t =>
    let ran := p.run t
    match ran.failure with
    | none => ran.followedBy (q.run ran.tracker)
    | some _ => ran
  | scope given p, t =>
    let ran := p.run (t.enter given)
    { ran with tracker := ran.tracker.exit?.getD ran.tracker }
  | rescue p q, t =>
    let ran := p.run t
    match ran.failure with
    | none => ran
    | some _ => ran.followedBy (q.run ran.tracker)

end Program

/-! ## What the text of a program says -/

/-- A log call that told an event, with what the scopes around it give, the innermost first. -/
structure LoggedCall where
  logger : String
  event : LogEvent
  around : List Ids

namespace Program

/-- The failure in which a program ends. -/
def failure : Program → Option Failure
  | done => none
  | log _ call =>
    match call.event? with
    | .ok _ => none
    | .error f => some f
  | fail f => some f
  | seq p q => p.failure.or q.failure
  | scope _ p => p.failure
  | rescue p q => if p.failure.isSome then q.failure else none

/-- The log calls that a program comes to, in scopes that already stand around it. -/
def calls (around : List Ids) : Program → List LoggedCall
  | done => []
  | log logger call =>
    match call.event? with
    | .ok e => [⟨logger, e, around⟩]
    | .error _ => []
  | fail _ => []
  | seq p q => p.calls around ++ if p.failure.isSome then [] else q.calls around
  | scope given p => p.calls (given :: around)
  | rescue p q => p.calls around ++ if p.failure.isSome then q.calls around else []

end Program

namespace Ids

/-- The value of an identifier that the innermost scope gives, of those that give one that is not
empty; outside of them all it is `outer`'s. -/
def innermost (outer : Ids) (around : List Ids) (k : IdKind) : Json :=
  ((around.map (·.get k)).find? (·.isTruthy)).getD (outer.get k)

/-- The values of all three. -/
def within (outer : Ids) (around : List Ids) : Ids :=
  ⟨outer.innermost around .exchange, outer.innermost around .run, outer.innermost around .screen⟩

/-! ## Opening a scope -/

@[simp] theorem get_set (ids : Ids) (j k : IdKind) (v : Json) :
    (ids.set j v).get k = if k = j then v else ids.get k := by
  cases j <;> cases k <;> rfl

theorem ext_get {a b : Ids} (h : ∀ k, a.get k = b.get k) : a = b := by
  cases a
  cases b
  congr
  · exact h .exchange
  · exact h .run
  · exact h .screen

theorem get_replace (given : Ids) (ks : List IdKind) (ids : Ids) (scope : Scope) (k : IdKind) :
    (replace given ks (ids, scope)).1.get k =
      if k ∈ ks ∧ (given.get k).isTruthy then given.get k else ids.get k := by
  induction ks generalizing ids scope with
  | nil => simp [replace]
  | cons j rest ih =>
    rw [replace]
    by_cases hj : (given.get j).isTruthy
    · rw [if_pos hj, ih, get_set]
      by_cases hk : k = j
      · subst hk
        simp [hj]
      · simp [hk]
    · rw [if_neg hj, ih]
      by_cases hk : k = j
      · subst hk
        simp [hj]
      · simp [hk]

/-- A scope gives the identifiers that are given to it, and leaves the others. -/
theorem get_enter (ids given : Ids) (k : IdKind) : (ids.enter given).1.get k =
    if (given.get k).isTruthy then given.get k else ids.get k := by
  have hall : k ∈ IdKind.all := by cases k <;> decide
  rw [enter, get_replace]
  simp [hall]

@[simp] theorem get_within (outer : Ids) (around : List Ids) (k : IdKind) :
    (outer.within around).get k = outer.innermost around k := by
  cases k <;> rfl

theorem innermost_cons (outer given : Ids) (around : List Ids) (k : IdKind) :
    outer.innermost (given :: around) k =
      if (given.get k).isTruthy then given.get k else outer.innermost around k := by
  rw [innermost, List.map_cons, List.find?_cons]
  cases (given.get k).isTruthy <;> rfl

theorem within_nil (outer : Ids) : outer.within [] = outer := by
  apply ext_get
  intro k
  rw [get_within]
  rfl

/-- One scope more. -/
theorem enter_within (outer given : Ids) (around : List Ids) :
    ((outer.within around).enter given).1 = outer.within (given :: around) := by
  apply ext_get
  intro k
  rw [get_enter, get_within, get_within, innermost_cons]

end Ids

/-- The record of a call, outside of all scopes that stand around it. -/
def LoggedCall.record (outer : Ids) (c : LoggedCall) : Fields :=
  c.event.document c.logger (outer.within c.around)

/-! ## Running a program -/

/-- A run leaves the tracker as it was, and its records are those of the calls in the program. -/
theorem Program.run_eq (p : Program) {t : Tracker} {outer : Ids} {around : List Ids}
    (h : t.ids = outer.within around) :
    p.run t = ⟨t, (p.calls around).map (·.record outer), p.failure⟩ := by
  induction p generalizing t around with
  | done => rfl
  | log logger call =>
    rw [run, calls, failure]
    cases call.event? with
    | ok e => rw [h]; rfl
    | error f => rfl
  | fail f => rfl
  | seq p q ihp ihq =>
    rw [run, ihp h, calls, failure]
    cases p.failure with
    | none => simp [ihq h, Outcome.followedBy]
    | some f => simp
  | scope given p ih =>
    have hinside : (t.enter given).ids = outer.within (given :: around) := by
      rw [← Ids.enter_within, ← h]
      rfl
    rw [run, ih hinside, calls, failure]
    simp only [Tracker.exit?_enter, Option.getD_some]
  | rescue p q ihp ihq =>
    rw [run, ihp h, calls, failure]
    cases p.failure with
    | none => simp
    | some f => simp [ihq h, Outcome.followedBy]

/-- A record is that of a call, and carries for each identifier the value of the innermost scope that
gave one. -/
structure LoggedCall.IsToldBy (outer : Ids) (record : Fields) (c : LoggedCall) : Prop where
  event : ∃ ids, record = c.event.document c.logger ids
  ids : ∃ carried : Fields, record.get "correlation" = .obj carried ∧
    ∀ k : IdKind, carried.get k.key = outer.innermost c.around k

theorem LoggedCall.isToldBy_record (outer : Ids) (c : LoggedCall) :
    c.IsToldBy outer (c.record outer) := by
  refine ⟨⟨_, rfl⟩, _, rfl, fun k => ?_⟩
  rw [← Ids.get_within]
  cases k <;> rfl

/-- **Scopes nest.** For every program of scopes and log calls, run from any state of the identifiers:
each record carries the value of each identifier that the innermost scope around its call gave, of
those that gave one that is not empty, and the value from outside where no scope did; a scope that is
left, by the end of its body or by a failure, leaves the identifiers and the open scopes as they were
before it, and so does the whole program. Failures are not lost on the way. -/
theorem scopes_nest (p : Program) (t : Tracker) :
    List.Forall₂ (fun record call => LoggedCall.IsToldBy t.ids record call)
        (p.run t).records (p.calls []) ∧
      (p.run t).tracker = t ∧
      (p.run t).failure = p.failure ∧
      ∀ given, ((Program.scope given p).run t).tracker = t ∧
        ((Program.scope given p).run t).failure = p.failure := by
  have hrun (q : Program) := q.run_eq (Ids.within_nil t.ids).symm
  refine ⟨?_, by rw [hrun], by rw [hrun], fun given => ⟨by rw [hrun], by rw [hrun, Program.failure]⟩⟩
  rw [hrun, List.forall₂_map_left_iff, List.forall₂_same]
  exact fun c _ => c.isToldBy_record t.ids

/-- An inner scope is left by a failure; the record behind it knows only of the outer one. -/
example (e : LogEvent) (f : Failure) :
    let inner : Program := .scope ⟨.str "", .str "run-1", .null⟩ (.fail f)
    let program : Program := .scope ⟨.str "exchange-1", .null, .null⟩
      (.seq (.rescue inner .done) (.log "pipeline" (.event e)))
    (program.run {}).records.map (·.get "correlation") = [.obj [
      ("correlation_id", .str "exchange-1"), ("request_id", .null), ("screen_name", .null)]] := rfl

end Wireframe
