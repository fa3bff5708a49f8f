import ApiScribe.Log
import ApiScribe.Project.FileTree

/-!
# Scanning a project

The source files of a project are those with the extension `rs`. They come in the order of their
names, directory by directory. Directories for build output and hidden ones are left out, unless
one is the project itself.
-/

namespace ApiScribe.Project

/-- A file and the path that led to it. -/
structure FoundFile where
  path : String
  content : ByteArray

/-- Whether a file name ends in `.rs` after something else. -/
def isSourceName (name : String) : Bool :=
  match name.toList.reverse with
  | 's' :: 'r' :: '.' :: _ :: _ => true
  | _ => false

def isSkippedName (name : String) : Bool := name = "target" || name.toList.head? = some '.'

/-- The path of an entry of a directory. -/
def joinPath (directory name : String) : String :=
  if directory.toList.getLast? = some '/' then directory ++ name else directory ++ "/" ++ name

/-- Named lists in the order of their names, put together. -/
def inNameOrder {α : Type} (groups : List (String × List α)) : List α :=
  (groups.mergeSort fun a b => !(b.1 < a.1)).flatMap (·.2)

mutual
/-- The source files at or below an entry with a name, which is reached by a path. -/
def Entry.sourceFiles (path name : String) : Entry → List FoundFile
  | .file content => if isSourceName name then [{ path, content }] else []
  | .directory ⟨entries⟩ => inNameOrder (groupedFiles path entries)
  | .special => []

/-- The source files below each entry of a directory. -/
def groupedFiles (path : String) : List (String × Entry) → List (String × List FoundFile)
  | [] => []
  | (name, entry) :: entries =>
    let files :=
      if entry.isDirectory && isSkippedName name then []
      else entry.sourceFiles (joinPath path name) name
    (name, files) :: groupedFiles path entries
end

inductive ScanError where
  | missing (path : String)
deriving DecidableEq, Repr

def ScanError.message : ScanError → String
  | .missing path => "Path does not exist: " ++ path

/-- The source files of the project at a path. -/
def scan (tree : FileTree) (path : String) : Except ScanError (List FoundFile) :=
  match tree.entry? path with
  | some entry => .ok (entry.sourceFiles path ((pathParts path).getLastD ""))
  | none => .error (.missing path)

def scanLog (files : List FoundFile) : List Log.Record :=
  files.map fun file => .debug ("Found source file: " ++ file.path)

end ApiScribe.Project
