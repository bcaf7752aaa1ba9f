import Wireframe.Text.Case
import Wireframe.Text.Lines
import Wireframe.Text.Search
import Wireframe.Text.Characters

/-!
# The files of a component

A component consists of three files: a class, a template and styles.

* `FileKind.fileName` — the name of a file, from the name of its screen.
* `namesFile`, `namesAnyFile` — whether a line is a comment with such a name.
-/

namespace Wireframe

/-- The three files. -/
inductive FileKind where
  | typescript
  | html
  | scss
  deriving DecidableEq, Repr

namespace FileKind

def name : FileKind → String
  | typescript => "typescript"
  | html => "html"
  | scss => "scss"

/-- Every kind, in the order in which files are handed out. -/
def all : List FileKind := [typescript, html, scss]

def options : List (String × FileKind) := all.map fun k => (k.name, k)

def extension : FileKind → List Char
  | typescript => ['t', 's']
  | html => ['h', 't', 'm', 'l']
  | scss => ['s', 'c', 's', 's']

/-- The fence labels that stand for a kind. -/
def labels : FileKind → List (List Char)
  | typescript => ["typescript".toList, "ts".toList]
  | html => ["html".toList]
  | scss => ["scss".toList, "css".toList]

/-- What a file's name ends in. -/
def suffix (k : FileKind) : List Char := ".component.".toList ++ k.extension

def fileName (k : FileKind) (base : List Char) : List Char := Text.lower base ++ k.suffix

end FileKind

namespace Reply

open Wireframe.Text

/-- The marks that comments begin with. -/
def commentMarks : List (List Char) := ["//".toList, "<!--".toList, "/*".toList]

/-- Whether a line begins with a comment, after blanks. -/
def isComment (line : List Char) : Bool :=
  commentMarks.any fun mark => (dropLead? mark (trimStart line)).isSome

/-- Whether a line begins with a word, in letters of either case, that ends there. -/
def startsWithName (name line : List Char) : Bool :=
  match dropWordIgnoringCase? name line with
  | some rest => endsWord rest
  | none => false

/-- Whether a name occurs in a line, in letters of either case, with no word character after it. -/
def occursAsName (name : List Char) : List Char → Bool
  | [] => startsWithName name []
  | c :: rest => startsWithName name (c :: rest) || occursAsName name rest

/-- Whether a line is a comment with the name of a file. -/
def namesFile (k : FileKind) (base line : List Char) : Bool :=
  isComment line && occursAsName (k.fileName base) line

/-- Whether a line is a comment with the end of some file's name. -/
def namesAnyFile (line : List Char) : Bool :=
  isComment line && FileKind.all.any fun k => occursAsName k.suffix line

end Reply

end Wireframe
