import Wireframe.Reply.FileSet
import Wireframe.Text.Lines

/-!
# The contents of generated files

* `withoutNameComment` — the body of a block without a leading comment that names a file.
* `repairStyles` — the class with the plural form of the property that names its styles.
* `classIssues`, `templateIssues` — what is wrong with a class and with a template.
-/

namespace Wireframe.Reply

open Wireframe.Text

/-- The body of a block, trimmed, without a first line that is a comment with a file's name. -/
def withoutNameComment (body : List Char) : List Char :=
  let kept :=
    match lines (trim body) with
    | [] => []
    | first :: rest => if namesAnyFile first then rest else first :: rest
  trim (joinLines kept)

/-! ## The property that names the styles -/

def isQuote (c : Char) : Bool := c == '\'' || c == '"' || c == '`'

/-- The value of a quoted text at the start of a text, if it is not empty, and what follows. -/
def quotedValue? : List Char → Option (List Char × List Char)
  | [] => none
  | c :: rest =>
    if isQuote c then
      match rest.takeWhile fun d => !isQuote d, rest.dropWhile fun d => !isQuote d with
      | [], _ => none
      | _, [] => none
      | value, _ :: after => some (value, after)
    else none

/-- The value of the singular property at the start of a text, and what follows. -/
def styleValue? (s : List Char) : Option (List Char × List Char) :=
  (dropLead? "styleUrl:".toList s).bind fun rest => quotedValue? (trimStart rest)

/-- The plural property with one value. -/
def styleList (value : List Char) : List Char :=
  "styleUrls: ['".toList ++ value ++ "']".toList

/-- Replaces the singular property as far as the bound reaches. -/
def repairWithin : Nat → List Char → List Char
  | 0, s => s
  | _, [] => []
  | n + 1, c :: rest =>
    match styleValue? (c :: rest) with
    | some (value, after) => styleList value ++ repairWithin n after
    | none => c :: repairWithin n rest

/-- A class in which every singular property became the plural one. -/
def repairStyles (content : List Char) : List Char := repairWithin content.length content

/-! ## Checks -/

/-- What follows the white space at the start of a text, if there is any. -/
def dropBlanks? : List Char → Option (List Char)
  | [] => none
  | c :: rest => if isBlank c then some (trimStart rest) else none

/-- Whether a text starts with the words that export a class, and the class has a name. -/
def startsWithClass (s : List Char) : Bool :=
  let named := (dropLead? "export".toList s).bind fun a =>
    (dropBlanks? a).bind fun b => (dropLead? "class".toList b).bind dropBlanks?
  match named with
  | some (c :: _) => isWordChar c
  | _ => false

/-- Whether a class is exported somewhere in a text. -/
def exportsClass : List Char → Bool
  | [] => false
  | c :: rest => startsWithClass (c :: rest) || exportsClass rest

/-- An error about the content of a file. -/
def contentError (k : FileKind) (message : String) : FileIssue := ⟨.error, .content, message, some k⟩

def unlessHolds (condition : Bool) (i : FileIssue) : List FileIssue := if condition then [] else [i]

/-- What is wrong with a class. -/
def classIssues (content : List Char) : List FileIssue :=
  let has (part : String) := occursIn part.toList content
  unlessHolds (has "@Component")
    (contentError .typescript "TypeScript file missing @Component decorator") ++
  unlessHolds (exportsClass content)
    (contentError .typescript "TypeScript file missing export class") ++
  unlessHolds (has "import" && has "@angular/core")
    (contentError .typescript "TypeScript file missing Angular imports")

/-- Tags of the component library, of which a template with buttons has one. -/
def libraryTags : List String := ["p-button", "p-inputText", "p-password"]

/-- What is wrong with a template that should have a least length. -/
def templateIssues (minLength : Int) (content : List Char) : List FileIssue :=
  let has (part : String) := occursIn part.toList content
  unlessHolds (decide (minLength ≤ content.length))
    (contentError .html "HTML template appears to be too short") ++
  unlessHolds (!has "button" || libraryTags.any has)
    ⟨.warning, .content, "HTML may be missing PrimeNG components", some .html⟩

end Wireframe.Reply
