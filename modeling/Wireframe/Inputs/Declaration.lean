import Wireframe.Inputs.Basic
import Wireframe.Text.Lines

/-!
# Declaring inputs

* `declarations` — one line of source for each input, with its default.
* `InferredInputs.summary` — what there is among the inputs.
-/

namespace Wireframe

/-- A character inside single quotes. -/
def quotedSourceChar (c : Char) : List Char :=
  if c = '\\' then ['\\', '\\'] else if c = '\'' then ['\\', '\''] else [c]

/-- A text between single quotes, its backslashes and single quotes escaped. -/
def quotedSource (s : List Char) : List Char := '\'' :: (s.flatMap quotedSourceChar ++ ['\''])

/-- A default as source; an absent one is the empty text. -/
def defaultSource : Option InputDefault → List Char
  | some (.flag b) => (if b then "true" else "false").toList
  | some (.text s) => quotedSource s.toList
  | none => quotedSource []

/-- The line that declares an input. -/
def InferredInput.declaration (indent : List Char) (i : InferredInput) : List Char :=
  indent ++ "@Input() ".toList ++ i.name.toList ++ ": ".toList ++ i.type.text.toList ++
    " = ".toList ++ defaultSource i.default ++ [';']

/-- The lines that declare inputs. -/
def declarations (indent : List Char) (inputs : List InferredInput) : List Char :=
  Text.joinLines (inputs.map (·.declaration indent))

/-- The indent of the members of a class. -/
def memberIndent : List Char := [' ', ' ']

/-- What there is among the inputs. -/
structure InputSummary where
  count : Nat
  hasLabel : Bool
  hasVariants : Bool
  hasBooleans : Bool
  warnings : List String
  deriving DecidableEq, Repr

def InferredInputs.summary (i : InferredInputs) : InputSummary where
  count := i.inputs.length
  hasLabel := i.declares "label"
  hasVariants := i.inputs.any (·.sourceType == some .variant)
  hasBooleans := !i.booleans.isEmpty
  warnings := i.warnings

def InputSummary.toJson (s : InputSummary) : Json :=
  .obj [("inputCount", .ofNat s.count), ("hasLabel", .bool s.hasLabel),
    ("hasVariants", .bool s.hasVariants), ("hasBooleans", .bool s.hasBooleans),
    ("warnings", .ofTexts s.warnings)]

end Wireframe
