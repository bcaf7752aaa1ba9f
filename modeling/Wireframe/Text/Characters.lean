import Wireframe.Text.Encoding
import Wireframe.Text.IdentifierRanges
import Wireframe.Text.PrintableRanges
import Wireframe.Text.WordRanges

/-!
# Classes of characters

Sets of characters are given by ranges of code points; ASCII is decided without the tables.

* `isWordChar` — letters, digits and the underscore in every script.
* `isScriptIdentifier` — identifiers in every script.
* `quoted` — a text between quotes on one line: single quotes, unless the text holds a single quote and
  no double one; the chosen quote, the backslash and every character without a printed form are escaped.
-/

namespace Wireframe.Text

/-- Whether a code point lies in one of the ranges, ends included. -/
def inRanges (ranges : List (Nat × Nat)) (n : Nat) : Bool :=
  ranges.any fun (first, last) => first ≤ n && n ≤ last

/-! ## Words -/

/-- Whether an ASCII character is a letter or a digit. -/
def isAsciiAlnum (c : Char) : Bool :=
  ('a' ≤ c && c ≤ 'z') || ('A' ≤ c && c ≤ 'Z') || ('0' ≤ c && c ≤ '9')

/-- Whether a character is part of a word. -/
def isWordChar (c : Char) : Bool :=
  if c.toNat < 128 then isAsciiAlnum c || c == '_' else inRanges wordRanges c.toNat

/-- Whether a word ends between its last character and the text that follows. -/
def endsWord (rest : List Char) : Bool :=
  match rest with
  | [] => true
  | c :: _ => !isWordChar c

/-! ## Identifiers -/

def isScriptIdentifier : List Char → Bool
  | [] => false
  | c :: rest =>
    inRanges identifierStartRanges c.toNat &&
      rest.all fun d => inRanges identifierPartRanges d.toNat

/-! ## Quoted text -/

/-- Whether a character is shown as itself. -/
def isPrintable (c : Char) : Bool :=
  if c.toNat < 128 then 32 ≤ c.toNat && c.toNat < 127 else !inRanges unprintableRanges c.toNat

/-- A number in lower-case hexadecimal, filled with zeros to a width. -/
def hexDigits (width n : Nat) : List Char :=
  let digits := Nat.toDigits 16 n
  List.replicate (width - digits.length) '0' ++ digits

def quoteFor (s : List Char) : Char :=
  if s.contains '\'' && !s.contains '"' then '"' else '\''

/-- One character inside quotes. -/
def quotedChar (quote c : Char) : List Char :=
  if c == quote || c == '\\' then ['\\', c]
  else if c == '\n' then ['\\', 'n']
  else if c == '\r' then ['\\', 'r']
  else if c == '\t' then ['\\', 't']
  else if isPrintable c then [c]
  else if codeOf c < 0x100 then '\\' :: 'x' :: hexDigits 2 (codeOf c)
  else if codeOf c < 0x10000 then '\\' :: 'u' :: hexDigits 4 (codeOf c)
  else '\\' :: 'U' :: hexDigits 8 (codeOf c)

/-- A text between quotes. -/
def quoted (s : List Char) : List Char :=
  let q := quoteFor s
  q :: (s.flatMap (quotedChar q) ++ [q])

end Wireframe.Text
