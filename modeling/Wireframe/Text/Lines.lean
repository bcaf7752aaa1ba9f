import Wireframe.Text.Characters

/-!
# White space and lines

* `trim`, `trimStart`, `trimEnd` — a text without the white space at its ends.
* `lines` — a text cut at every line boundary, the boundaries dropped; a carriage return with the line
  feed after it is one boundary, and a boundary at the end opens no further line.
-/

namespace Wireframe.Text

/-! ## White space -/

/-- Code points of white space: the ASCII blanks and separators, and the spaces of Unicode. -/
def blankRanges : List (Nat × Nat) := [
  (0x9, 0xd), (0x1c, 0x20), (0x85, 0x85), (0xa0, 0xa0), (0x1680, 0x1680), (0x2000, 0x200a),
  (0x2028, 0x2029), (0x202f, 0x202f), (0x205f, 0x205f), (0x3000, 0x3000)]

/-- Whether a character is white space. -/
def isBlank (c : Char) : Bool := inRanges blankRanges c.toNat

/-- Drops what satisfies `p` from the end. -/
def dropEndWhile (p : Char → Bool) (s : List Char) : List Char := (s.reverse.dropWhile p).reverse

/-- A text without its leading white space. -/
def trimStart (s : List Char) : List Char := s.dropWhile isBlank

/-- A text without its trailing white space. -/
def trimEnd (s : List Char) : List Char := dropEndWhile isBlank s

/-- A text without the white space at its ends. -/
def trim (s : List Char) : List Char := trimEnd (trimStart s)

/-- Whether every character is white space; true of the empty text. -/
def isBlankText (s : List Char) : Bool := s.all isBlank

theorem trim_nil : trim [] = [] := rfl

/-! ## Lines -/

/-- Code points that end a line: line feed, vertical tab, form feed, carriage return, the file,
group and record separators, next line, and the line and paragraph separators. -/
def lineEndRanges : List (Nat × Nat) := [(0xa, 0xd), (0x1c, 0x1e), (0x85, 0x85), (0x2028, 0x2029)]

def isLineEnd (c : Char) : Bool := inRanges lineEndRanges c.toNat

/-- Puts a character in front of the first line. -/
def consLine (c : Char) : List (List Char) → List (List Char)
  | [] => [[c]]
  | l :: ls => (c :: l) :: ls

/-- The lines of a text, without their ends. -/
def lines : List Char → List (List Char)
  | [] => []
  | '\r' :: '\n' :: rest => [] :: lines rest
  | c :: rest => if isLineEnd c then [] :: lines rest else consLine c (lines rest)

/-- Lines written one below the other. -/
def joinLines (ls : List (List Char)) : List Char := List.intercalate ['\n'] ls

theorem lines_nil : lines [] = [] := by rw [lines]

end Wireframe.Text
