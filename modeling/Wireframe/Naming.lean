import Wireframe.Text.Case
import Wireframe.Text.Characters

/-!
# Names for generated code

Labels are split into words of ASCII letters and digits, and the words are joined in one of three
casings. Capitals inside a word are kept.

* `camelCase`, `pascalCase` — `signIn`, `SignIn`.
* `kebabCase` — a hyphen before each capital that follows a small letter or a digit, all lower-case.
* `isIdentifier` — whether a text is an identifier in ASCII; one line feed after it is let pass.
-/

namespace Wireframe.Naming

open Wireframe.Text

/-- Puts a character in front of the first word. -/
def consWord (c : Char) : List (List Char) → List (List Char)
  | [] => [[c]]
  | w :: ws => (c :: w) :: ws

/-- The words of a text: its longest runs of ASCII letters and digits. -/
def words : List Char → List (List Char)
  | [] => []
  | [c] => if isAsciiAlnum c then [[c]] else []
  | c :: d :: rest =>
    if isAsciiAlnum c then
      if isAsciiAlnum d then consWord c (words (d :: rest)) else [c] :: words (d :: rest)
    else words (d :: rest)

/-- A word with its first letter small. -/
def decapitalize : List Char → List Char
  | [] => []
  | c :: rest => lowerAscii c :: rest

/-- A word with its first letter capital. -/
def capitalize : List Char → List Char
  | [] => []
  | c :: rest => upperAscii c :: rest

/-- The words in one, each but the first with a capital. -/
def joinCamel : List (List Char) → List Char
  | [] => []
  | w :: ws => decapitalize w ++ ws.flatMap capitalize

/-- The words in one, each with a capital. -/
def joinPascal (ws : List (List Char)) : List Char := ws.flatMap capitalize

/-- Whether a hyphen belongs between two characters. -/
def isHump (c d : Char) : Bool :=
  (('a' ≤ c && c ≤ 'z') || ('0' ≤ c && c ≤ '9')) && ('A' ≤ d && d ≤ 'Z')

/-- A hyphen before each capital that follows a small letter or a digit. -/
def hyphenate : List Char → List Char
  | [] => []
  | [c] => [c]
  | c :: d :: rest =>
    if isHump c d then c :: '-' :: hyphenate (d :: rest) else c :: hyphenate (d :: rest)

/-- Whether a character may begin an identifier. -/
def isIdentifierStart (c : Char) : Bool :=
  ('a' ≤ c && c ≤ 'z') || ('A' ≤ c && c ≤ 'Z') || c == '_' || c == '$'

/-- Whether a character may continue an identifier. -/
def isIdentifierPart (c : Char) : Bool := isIdentifierStart c || ('0' ≤ c && c ≤ '9')

/-- Whether a text is an identifier: a letter, `_` or `$`, then those and digits. -/
def isIdentifierText : List Char → Bool
  | [] => false
  | c :: rest => isIdentifierStart c && rest.all isIdentifierPart

/-- A text without one line feed at its end. -/
def dropFinalLineFeed (s : List Char) : List Char :=
  match s.reverse with
  | '\n' :: rest => rest.reverse
  | _ => s

/-- The words of a text. -/
def splitWords (s : String) : List String := (words s.toList).map String.ofList

/-- `Sign In` becomes `signIn`. -/
def camelCase (s : String) : String := String.ofList (joinCamel (words s.toList))

/-- `sign in` becomes `SignIn`. -/
def pascalCase (s : String) : String := String.ofList (joinPascal (words s.toList))

/-- `primaryColor` becomes `primary-color`. -/
def kebabCase (s : String) : String := String.ofList (lower (hyphenate s.toList))

/-- Whether a text is an identifier, with or without one line feed after it. -/
def isIdentifier (s : String) : Bool := isIdentifierText (dropFinalLineFeed s.toList)

/-- The lower-case form of a text. -/
def lowerCase (s : String) : String := String.ofList (lower s.toList)

end Wireframe.Naming
