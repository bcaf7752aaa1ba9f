import Wireframe.Inputs.Basic
import Wireframe.Naming
import Wireframe.Text.Search

/-!
# Checking inferred inputs

`InferredInputs.errors` lists what is wrong with inputs: names that are no identifiers, names that
occur twice, and bindings that mention no input. Inputs without errors may be declared.
-/

namespace Wireframe

def mentionsAny (names : List String) (expression : String) : Bool :=
  names.any fun name => Text.occursIn name.toList expression.toList

namespace InferredInputs

/-- An error for each name that is no identifier. -/
def nameErrors (i : InferredInputs) : List String :=
  (i.names.filter fun name => !Naming.isIdentifier name).map fun name => s!"Invalid input name: {name}"

/-- The names that occur more than once, in order. -/
def duplicateNames (i : InferredInputs) : List String :=
  sortedDistinct (i.names.filter fun name => 1 < i.names.count name)

/-- An error when names occur more than once. -/
def duplicateErrors (i : InferredInputs) : List String :=
  if i.duplicateNames.isEmpty then []
  else
    let listed := commaList i.duplicateNames
    [s!"Duplicate input names: {listed}"]

/-- An error for each binding that mentions no input. -/
def bindingErrors (i : InferredInputs) : List String :=
  (i.bindings.filter fun b => !mentionsAny i.names b.expression).map fun b =>
    s!"Binding on {b.target} does not reference a declared input"

/-- Everything that is wrong with inputs. -/
def errors (i : InferredInputs) : List String := i.nameErrors ++ i.duplicateErrors ++ i.bindingErrors

/-- Whether nothing is wrong with inputs. -/
def isValid (i : InferredInputs) : Bool := i.errors.isEmpty

end InferredInputs

end Wireframe
