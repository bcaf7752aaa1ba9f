import Wireframe.Json.Reader
import Wireframe.Text.Lines

/-!
# Finding JSON in a reply

A reply is tried as a whole, then the inside of each of its fences, then the text from its first
opening to its last closing brace. `findValue` answers the first that reads as JSON; it gives up at
the first that has too much in it to be read.
-/

namespace Wireframe.Reply

open Wireframe.Text

/-- The inside of the first fence of a text and what follows it: without the word `json` and the
white space around. -/
def nextFenced? (text : List Char) : Option (List Char × List Char) := do
  let (_, opened) ← cutAt? ['`', '`', '`'] text
  let (inside, rest) ← cutAt? ['`', '`', '`'] (trimStart (withoutLead "json".toList opened))
  some (trimEnd inside, rest)

/-- The insides of at most so many fences. -/
def fencedWithin : Nat → List Char → List (List Char)
  | 0, _ => []
  | n + 1, text =>
    match nextFenced? text with
    | none => []
    | some (inside, rest) => inside :: fencedWithin n rest

/-- The insides of the fences of a text, in order. -/
def fencedTexts (text : List Char) : List (List Char) := fencedWithin text.length text

/-- The text from the first opening to the last closing brace, if they stand in that order. -/
def braceSpan? (text : List Char) : Option (List Char) :=
  match text.dropWhile (· != '\x7b') with
  | [] => none
  | opened =>
    match dropEndWhile (· != '\x7d') opened with
    | [] => none
    | span => some span

/-- The texts that are tried, in order. -/
def candidates (text : List Char) : List (List Char) :=
  (if text.isEmpty then [] else [text]) ++ fencedTexts text ++ (braceSpan? text).toList

/-- What trying texts came to. -/
structure FoundValue where
  /-- The value of the text that was read. -/
  value : Option Json
  /-- The text that was read, or the one that should have been. -/
  candidate : Option (List Char)
  /-- Why the last text could not be read, when none could. -/
  fault : Option Json.ReadFault
  deriving Repr

/-- Tries texts in order; `fault` is why the one before failed. -/
def tryTexts (fault : Option Json.ReadFault) (fallback : Option (List Char)) :
    List (List Char) → Except Json.Excess FoundValue
  | [] => .ok ⟨none, fallback, fault⟩
  | text :: rest =>
    match Json.read text with
    | .ok v => .ok ⟨some v, some text, none⟩
    | .error (.malformed f) => tryTexts (some f) fallback rest
    | .error (.excess e) => .error e

def findValue (reply : List Char) : Except Json.Excess FoundValue :=
  let text := trim reply
  tryTexts none (braceSpan? text) (candidates text)

end Wireframe.Reply
