import Wireframe.Reply.FileKind
import Wireframe.Schema.Decode

/-!
# Sets of generated files

* `FileSet.present` — the files that there are, in order.
* `FileSet.warnings` — the messages of the issues that are only advice.
* `FileSet.toJson`, `FileSet.read` — sets of files as JSON.
-/

namespace Wireframe

/-- How grave an issue is. -/
inductive Gravity where
  | error
  | warning
  deriving DecidableEq, Repr

def Gravity.text : Gravity → String
  | error => "error"
  | warning => "warning"

/-- What an issue is about: that a file is missing, or what is in it. -/
inductive IssueTopic where
  | extraction
  | content
  deriving DecidableEq, Repr

def IssueTopic.text : IssueTopic → String
  | extraction => "extraction"
  | content => "structure"

/-- Something wrong with a reply. -/
structure FileIssue where
  gravity : Gravity
  topic : IssueTopic
  message : String
  file : Option FileKind
  deriving DecidableEq, Repr

structure GeneratedFile where
  fileName : String
  content : String
  kind : FileKind
  /-- The size in bytes. -/
  size : Nat
  deriving DecidableEq, Repr

/-- The files of a component with everything found wrong. -/
structure FileSet where
  typescript : Option GeneratedFile
  html : Option GeneratedFile
  scss : Option GeneratedFile
  errors : List String
  issues : List FileIssue
  deriving DecidableEq, Repr

namespace FileSet

def file? (s : FileSet) : FileKind → Option GeneratedFile
  | .typescript => s.typescript
  | .html => s.html
  | .scss => s.scss

/-- The files that there are, in order. -/
def present (s : FileSet) : List GeneratedFile := FileKind.all.filterMap s.file?

/-- The messages of issues that are only advice. -/
def warnings (s : FileSet) : List String :=
  (s.issues.filter fun i => i.gravity == .warning).map (·.message)

end FileSet

/-! ## Files as JSON -/

def GeneratedFile.toJson (f : GeneratedFile) : Json :=
  .obj [("fileName", .str f.fileName), ("content", .str f.content), ("language", .str f.kind.name),
    ("sizeBytes", .ofNat f.size)]

def GeneratedFile.optionalJson (f : Option GeneratedFile) : Json := (f.map (·.toJson)).getD .null

def FileIssue.toJson (i : FileIssue) : Json :=
  .obj [("severity", .str i.gravity.text), ("category", .str i.topic.text),
    ("message", .str i.message), ("artifact", .ofText? (i.file.map (·.name)))]

/-- The three files by kind. -/
def FileSet.fileFields (s : FileSet) : Fields :=
  FileKind.all.map fun k => (k.name, GeneratedFile.optionalJson (s.file? k))

def FileSet.toJson (s : FileSet) : Json :=
  .obj (s.fileFields ++ [("errors", .ofTexts s.errors), ("issues", .arr (s.issues.map (·.toJson)))])

def GeneratedFile.read : Schema.Reader GeneratedFile := fun v => do
  let fields ← Schema.fieldsOr (.notModel "GeneratedArtifact") v
  let (fileName, content, kind, size) ← Schema.both
    (Schema.required fields ["fileName", "file_name"] Schema.text)
    (Schema.both
      (Schema.required fields ["content"] Schema.text)
      (Schema.both
        (Schema.required fields ["language"] (Schema.oneOf FileKind.options))
        (Schema.optional fields ["sizeBytes", "size_bytes"] 0 (Schema.intAtLeast 0))))
  .ok { fileName, content, kind, size := size.toNat }

def FileIssue.read : Schema.Reader FileIssue := fun v => do
  let fields ← Schema.fieldsOr (.notModel "ParseIssue") v
  let (gravity, topic, message, file) ← Schema.both
    (Schema.required fields ["severity"]
      (Schema.oneOf [("error", Gravity.error), ("warning", Gravity.warning)]))
    (Schema.both
      (Schema.required fields ["category"]
        (Schema.oneOf [("extraction", IssueTopic.extraction), ("structure", IssueTopic.content)]))
      (Schema.both
        (Schema.required fields ["message"] Schema.text)
        (Schema.optional fields ["artifact"] none
          (Schema.nullable (Schema.oneOf FileKind.options)))))
  .ok { gravity, topic, message, file }

/-- Reads a set of files; everything is absent unless given. -/
def FileSet.read : Schema.Reader FileSet := fun v => do
  let fields ← Schema.fieldsOr (.notModel "GeneratedFileSet") v
  let file (k : FileKind) := Schema.optional fields [k.name] none (Schema.nullable GeneratedFile.read)
  let (typescript, html, scss, errors, issues) ← Schema.both (file .typescript)
    (Schema.both (file .html)
      (Schema.both (file .scss)
        (Schema.both
          (Schema.optional fields ["errors"] [] (Schema.listOf .notTuple Schema.text))
          (Schema.optional fields ["issues"] [] (Schema.listOf .notTuple FileIssue.read)))))
  .ok { typescript, html, scss, errors, issues }

end Wireframe
