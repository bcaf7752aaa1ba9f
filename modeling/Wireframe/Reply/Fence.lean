import Wireframe.Text.Lines
import Wireframe.Text.Case
import Wireframe.Text.Search
import Wireframe.Text.Characters

/-!
# Fenced blocks

A fence is three backticks, a header up to the end of its line, and a body up to the next three
backticks. `spans` cuts a text into complete fences with the prose before each, from left to right;
`blocks` gives every fence its place, its label and the line in front of it.
-/

namespace Wireframe.Reply

open Wireframe.Text

/-- The marks that open and close a fence. -/
def fenceMark : List Char := ['`', '`', '`']

/-- A complete fence and the prose in front of it. -/
structure Span where
  prose : List Char
  header : List Char
  body : List Char
  deriving DecidableEq, Repr

/-- A span as it stands in the text. -/
def Span.text (s : Span) : List Char :=
  s.prose ++ fenceMark ++ s.header ++ '\n' :: s.body ++ fenceMark

/-- The first complete fence of a text and what follows it. -/
def nextSpan? (text : List Char) : Option (Span × List Char) := do
  let (prose, opened) ← cutAt? fenceMark text
  let (header, inside) ← cutAt? ['\n'] opened
  let (body, rest) ← cutAt? fenceMark inside
  some (⟨prose, header, body⟩, rest)

/-- A span as it stands in the text, and what follows it, are the whole text. -/
theorem eq_text_append_of_nextSpan? {text rest : List Char} {s : Span}
    (h : nextSpan? text = some (s, rest)) : text = s.text ++ rest := by
  simp only [nextSpan?, Option.bind_eq_bind, Option.bind_eq_some_iff] at h
  obtain ⟨⟨prose, opened⟩, hopen, ⟨header, inside⟩, hheader, ⟨body, after⟩, hbody, heq⟩ := h
  dsimp only at hheader hbody
  cases heq
  rw [eq_append_of_cutAt? hopen, eq_append_of_cutAt? hheader, eq_append_of_cutAt? hbody]
  simp [Span.text]

/-- At most so many spans of a text. -/
def spansWithin : Nat → List Char → List Span
  | 0, _ => []
  | n + 1, text =>
    match nextSpan? text with
    | none => []
    | some (s, rest) => s :: spansWithin n rest

/-- Every complete fence of a text, in order. -/
def spans (text : List Char) : List Span := spansWithin text.length text

/-- A fenced block with its place in a text. -/
structure Block where
  index : Nat
  label : List Char
  body : List Char
  /-- The last line in front of the fence that is not blank. -/
  precedingLine : List Char
  /-- How many characters stand in front of the fence. -/
  start : Nat
  deriving DecidableEq, Repr

/-- Whether a character belongs to a label. -/
def isLabelChar (c : Char) : Bool := isWordChar c || c == '+' || c == '#' || c == '.' || c == '-'

/-- The label that a header begins with, in small letters. -/
def labelOf (header : List Char) : List Char :=
  lower ((header.dropWhile fun c => c == ' ' || c == '\t').takeWhile isLabelChar)

/-- The last line of a text that is not blank. -/
def lastLine (text : List Char) : List Char := (lines (trimEnd text)).getLast?.getD []

/-- The blocks of spans that follow a text, counted from a number. -/
def blocksFrom (index : Nat) (before : List Char) : List Span → List Block
  | [] => []
  | s :: rest =>
    { index
      label := labelOf s.header
      body := s.body
      precedingLine := lastLine (before ++ s.prose)
      start := (before ++ s.prose).length } ::
      blocksFrom (index + 1) (before ++ s.text) rest

/-- The fenced blocks of a text, in order. -/
def blocks (text : List Char) : List Block := blocksFrom 0 [] (spans text)

/-- The first line of a block's body that is not blank. -/
def Block.firstLine (b : Block) : List Char :=
  ((lines b.body).find? fun line => !isBlankText line).getD []

end Wireframe.Reply
