import Wireframe.Failure
import Wireframe.Reply.Content
import Wireframe.Reply.Fence

/-!
# From a reply to files

The fenced blocks of a reply are given to the three files in passes, from the surest sign to the
weakest: a label that stands for the file, a comment with the file's name, any block that is not
labelled for another file. No block is given twice.

* `assign` — which block each file gets.
* `extractFiles` — the files of a reply and everything found wrong.
* `parse` — the same where the size of every file can be counted.
-/

namespace Wireframe.Reply

open Wireframe.Text

/-- The signs by which a block is given to a file. -/
inductive Sign where
  | label
  | name
  | any
  deriving DecidableEq, Repr

/-- The signs, the surest first. -/
def Sign.all : List Sign := [label, name, any]

/-- Whether a label stands for some file. -/
def isFileLabel (label : List Char) : Bool := FileKind.all.any fun k => k.labels.contains label

/-- Whether a block shows a sign for a file. -/
def Sign.holds (base : List Char) (k : FileKind) (b : Block) : Sign → Bool
  | label => k.labels.contains b.label
  | name => namesFile k base b.precedingLine || namesFile k base b.firstLine
  | any => !isFileLabel b.label || k.labels.contains b.label

/-- The first block that shows a sign for a file and is not among the claimed ones. -/
def findBlock (base : List Char) (blocks : List Block) (claimed : List Nat) (sign : Sign)
    (k : FileKind) : Option Block :=
  blocks.find? fun b => !claimed.contains b.index && sign.holds base k b

abbrev Assignment := List (FileKind × Block)

def Assignment.block? (a : Assignment) (k : FileKind) : Option Block := a.lookup k

/-- The blocks that are given. -/
def Assignment.claimed (a : Assignment) : List Nat := a.map (·.2.index)

/-- Gives a file a block by a sign, unless it has one. -/
def Assignment.give (base : List Char) (blocks : List Block) (sign : Sign) (a : Assignment)
    (k : FileKind) : Assignment :=
  match a.block? k with
  | some _ => a
  | none =>
    match findBlock base blocks a.claimed sign k with
    | some b => a ++ [(k, b)]
    | none => a

/-- One pass over the files. -/
def Assignment.pass (base : List Char) (blocks : List Block) (a : Assignment) (sign : Sign) :
    Assignment :=
  FileKind.all.foldl (Assignment.give base blocks sign) a

/-- Which block each file gets. -/
def assign (base : List Char) (blocks : List Block) : Assignment :=
  Sign.all.foldl (Assignment.pass base blocks) []

/-- The content of a file from the body of its block. -/
def contentOf (k : FileKind) (body : List Char) : List Char :=
  let content := withoutNameComment body
  match k with
  | .typescript => repairStyles content
  | .html | .scss => content

/-- The file of a kind from the body of its block. -/
def fileOf (base : List Char) (k : FileKind) (body : List Char) : GeneratedFile :=
  let content := String.ofList (contentOf k body)
  { fileName := String.ofList (k.fileName base), content, kind := k, size := content.utf8ByteSize }

def missingFile (k : FileKind) : FileIssue :=
  ⟨.error, .extraction, s!"No {k.name} code block found", some k⟩

/-- What is wrong with the content of a file. -/
def contentIssues (minLength : Int) (f : GeneratedFile) : List FileIssue :=
  if f.content = "" then [contentError f.kind s!"Empty {f.kind.name} file content"]
  else
    match f.kind with
    | .typescript => classIssues f.content.toList
    | .html => templateIssues minLength f.content.toList
    | .scss => []

/-- The files of a reply, for a screen, with what is wrong: first what is missing, then what is wrong
with the contents. -/
def extractFiles (reply base : List Char) (minLength : Int) : FileSet :=
  let assignment := assign base (blocks reply)
  let file? (k : FileKind) := (assignment.block? k).map fun b => fileOf base k b.body
  let missing := (FileKind.all.filter fun k => (file? k).isNone).map missingFile
  let wrong := (FileKind.all.filterMap file?).flatMap (contentIssues minLength)
  let issues := missing ++ wrong
  { typescript := file? .typescript, html := file? .html, scss := file? .scss
    errors := issues.map (·.message), issues }

/-- The first halves of surrogate pairs in the contents of files. -/
def tearIn? (files : List GeneratedFile) : Option Tear := files.findSome? fun f => tear? f.content.toList

/-- Takes the files out of a reply. The size of a file is that of its encoding, which a torn content does
not have. -/
def parse (reply base : List Char) (minLength : Int) : Except Failure FileSet :=
  let files := extractFiles reply base minLength
  match tearIn? files.present with
  | some t => .error (.unencodable t)
  | none => .ok files

end Wireframe.Reply
