import Wireframe.Reply.FileSet
import Wireframe.Text.Lines

/-!
# Handing out generated files

* `FileSet.exports` — the files with a content, each with the path it is written to.
* `FileSet.summary` — what there is in a set of files.
-/

namespace Wireframe

/-- A file to be written. -/
structure ExportFile where
  path : String
  content : String
  kind : FileKind
  deriving DecidableEq, Repr

def ExportFile.toJson (f : ExportFile) : Json :=
  .obj [("path", .str f.path), ("content", .str f.content), ("kind", .str f.kind.name)]

/-- A directory without slashes at its end. -/
def directoryPath (directory : String) : String :=
  String.ofList (Text.dropEndWhile (· == '/') directory.toList)

/-- The files that have a content, to be written to a directory. -/
def FileSet.exports (s : FileSet) (directory : String) : List ExportFile :=
  (s.present.filter fun f => f.content != "").map fun f =>
    { path := directoryPath directory ++ "/" ++ f.fileName, content := f.content, kind := f.kind }

/-- The size of all files together. -/
def FileSet.totalSize (s : FileSet) : Nat := s.present.foldr (fun f total => f.size + total) 0

def GeneratedFile.summaryJson (f : GeneratedFile) : Json :=
  .obj [("fileName", .str f.fileName), ("size", .ofNat f.size),
    ("hasContent", .bool (f.content != ""))]

/-- What there is in a set of files, as JSON. -/
def FileSet.summary (s : FileSet) : Json :=
  let files : Fields := FileKind.all.filterMap fun k =>
    (s.file? k).map fun f => (k.name, f.summaryJson)
  .obj [("success", .bool s.errors.isEmpty), ("filesExtracted", .ofNat s.present.length),
    ("totalSize", .ofNat s.totalSize), ("errors", .ofTexts s.errors),
    ("warnings", .ofTexts s.warnings), ("files", .obj files)]

end Wireframe
