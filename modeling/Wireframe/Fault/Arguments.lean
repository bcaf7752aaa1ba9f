import Wireframe.Failure

/-!
# Faults from values

The faults of a family have parameters. They take values in order, by name, or some in order and the
others by name. A value that is not of the type its parameter speaks of is kept as it is, so that the
report shows what was given.

* `bindArguments?` — the values of parameters.
* `Fault.ofArguments` — the fault of a family with values for its parameters.
-/

namespace Wireframe

namespace FaultKind

/-- The parameters of the faults of a family, in order. -/
def parameters : FaultKind → List String
  | schema => ["message", "errors", "warnings", "received"]
  | archetype => ["archetype", "expected", "available"]
  | missingField => ["field"]
  | missingComponentType => ["index"]
  | unmappedKind => ["unmapped"]
  | _ => ["message", "details"]

/-- The parameters that have to be given. -/
def needed : FaultKind → List String
  | schema => ["message"]
  | archetype => ["archetype"]
  | missingField => ["field"]
  | missingComponentType => ["index"]
  | unmappedKind => ["unmapped"]
  | _ => []

end FaultKind

/-- The values of parameters: of the first ones in order, of others by name. There are none when a value
has no parameter or would be the second of one. -/
def bindArguments? (parameters : List String) (inOrder : List Json) (named : Fields) : Option Fields :=
  let unbound := parameters.drop inOrder.length
  if inOrder.length ≤ parameters.length && named.all fun (name, _) => unbound.contains name then
    some (parameters.zip inOrder ++ named)
  else none

/-- The texts of a list that holds nothing else. -/
def allTexts? (items : List Json) : Option (List String) := items.mapM Json.text?

/-- The parts of a value, none when it does not count as given. -/
def partsIfGiven (v : Json) : Except Failure (List Json) := if v.isTruthy then v.iterate else .ok []

/-- An entry of a list of kinds without a mapping. -/
def UnmappedKind.ofValue : Json → Except Failure UnmappedKind
  | .obj fields =>
    match Fields.get? fields "kind" with
    | some kind => .ok ⟨Fields.get? fields "index", kind⟩
    | none => .error (.missingKey "kind")
  | v => .error (.noMember v.typeName "get")

namespace Fault

/-- A fault of structure. -/
def schemaOf (given : Fields) : Except Failure Fault := do
  let message := (given.get "message").display
  let errors ← partsIfGiven (given.get "errors")
  let warnings ← partsIfGiven (given.get "warnings")
  match allTexts? errors, allTexts? warnings with
  | some errors, some warnings => .ok (.schema message errors warnings (given.get "received"))
  | _, _ => .ok (.told .schema message (schemaDetails (.arr errors) (.arr warnings) (given.get "received")))

def archetypeOf (given : Fields) : Except Failure Fault := do
  let key := given.get "archetype"
  let expected := given.get "expected"
  let available ← partsIfGiven (given.get "available")
  match allTexts? available with
  | some texts => .ok (.archetype key expected texts)
  | none =>
    let untold : Fault := .archetype key expected []
    .ok (.told .archetype untold.message (archetypeDetails key expected (.arr available)))

/-- A fault of kinds without a mapping. -/
def unmappedOf (given : Fields) : Except Failure Fault := do
  let items ← (given.get "unmapped").iterate
  let entries ← items.mapM UnmappedKind.ofValue
  .ok (.told .unmappedKind (unmapped entries).message [("unmapped", .arr items)])

/-- A fault of a family that is told by its message, with details for the report. -/
def toldOf (kind : FaultKind) (given : Fields) : Except Failure Fault := do
  let message := ((given.get? "message").map Json.display).getD ""
  let details := given.get "details"
  .ok (.told kind message (← if details.isTruthy then details.asMapping else .ok []))

/-- The fault of a family with values for its parameters. -/
def ofArguments (kind : FaultKind) (inOrder : List Json) (named : Fields) : Except Failure Fault :=
  match bindArguments? kind.parameters inOrder named with
  | none => .error (.badArguments kind.name)
  | some given =>
    if kind.needed.all given.has then
      match kind with
      | .schema => schemaOf given
      | .archetype => archetypeOf given
      | .missingField => .ok (.missingField (given.get "field").display)
      | .missingComponentType => .ok (.missingComponentType (given.get "index"))
      | .unmappedKind => unmappedOf given
      | kind => toldOf kind given
    else .error (.badArguments kind.name)

end Fault

end Wireframe
