import ApiScribe.Project.Scan
import ApiScribe.Project.SourceFile

/-!
# The document of a project

Every source file of a project contributes its declarations. A file that cannot be read as Rust
contributes nothing.
-/

namespace ApiScribe.Project

open Builder OpenApi

/-- The outcome for each file, in the order of the files. -/
def readAll (files : List FoundFile) : List (Except SourceError SourceFile) :=
  files.map fun file => SourceFile.ofBytes file.path file.content

/-- The files that could be read. -/
def readable (outcomes : List (Except SourceError SourceFile)) : List SourceFile :=
  outcomes.filterMap Except.toOption

def declarationsOf (files : List FoundFile) : List Declaration :=
  (readable (readAll files)).flatMap (·.declarations)

/-- The document of the project at a path, and the annotations in it that failed. -/
def generate (tree : FileTree) (path : String) :
    Except ScanError (Document × List Diagnostic) := do
  let files ← scan tree path
  return build (declarationsOf files)

def readLog (files : List FoundFile) : List Log.Record :=
  let succeeded := (readable (readAll files)).length
  .debug ("Parsing " ++ toString files.length ++ " files") ::
    files.flatMap (fun file => SourceFile.log file.path file.content) ++
    [.debug ("Parsing complete: " ++ toString succeeded ++ " succeeded, " ++
      toString (files.length - succeeded) ++ " failed")]

/-- What is reported while a document is generated. -/
def generateLog (tree : FileTree) (path : String) : List Log.Record :=
  .info "Scanning project directory..." ::
    match scan tree path with
    | .error _ => []
    | .ok files =>
      scanLog files ++
      .info ("Found " ++ toString files.length ++ " Rust files") ::
      (if files.isEmpty then [.warn ("No Rust files found in " ++ path)] else []) ++
      .info "Parsing Rust files..." ::
      readLog files ++
      addAllLog {} (declarationsOf files) ++
      [.info ("Processed " ++ toString (readable (readAll files)).length ++ " files")]

end ApiScribe.Project
