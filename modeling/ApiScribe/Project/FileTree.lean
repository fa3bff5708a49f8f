import ApiScribe.OrderedMap
import ApiScribe.Text.Blank

/-!
# File trees

Files below a working directory, whose names are texts. Paths are walked from there part by part. A
part that is empty or a dot stays in a directory, and two dots lead to the one that holds it.
-/

namespace ApiScribe.Project

inductive Entry where
  | file (content : ByteArray)
  | directory (entries : OrderedMap Entry)
  /-- Neither file nor directory, such as a socket. -/
  | special

/-- The entries of a directory. -/
abbrev FileTree := OrderedMap Entry

def Entry.isFile : Entry → Bool
  | .file _ => true
  | _ => false

def Entry.isDirectory : Entry → Bool
  | .directory _ => true
  | _ => false

/-- The parts of a text between its slashes, of which there is one at least. -/
def slashParts : List Char → List (List Char)
  | [] => [[]]
  | '/' :: cs => [] :: slashParts cs
  | c :: cs => Text.consHead c (slashParts cs)

def pathParts (path : String) : List String := (slashParts path.toList).map .ofList

/-- Whether a part of a path is the name of an entry. -/
def isName (part : String) : Bool := !(["", ".", ".."].contains part)

namespace FileTree

/-! ### Looking up -/

/-- The entry that parts lead to, starting in the first of some nested directories. -/
def walk : (directory : FileTree) → (above : List FileTree) → List String → Option Entry
  | directory, _, [] => some (.directory directory)
  | directory, above, part :: parts =>
    if part = "" ∨ part = "." then walk directory above parts
    else if part = ".." then
      match above with
      | [] => walk directory [] parts
      | parent :: above => walk parent above parts
    else
      match directory.get? part with
      | some (.directory inner) => walk inner (directory :: above) parts
      | some entry => if parts.isEmpty then some entry else none
      | none => none

/-- The entry at a path. The empty path leads nowhere. -/
def entry? (tree : FileTree) (path : String) : Option Entry :=
  if path = "" then none else walk tree [] (pathParts path)

/-- The content of the file at a path, if it is UTF-8 text. -/
def text? (tree : FileTree) (path : String) : Option String :=
  match tree.entry? path with
  | some (.file content) => String.fromUTF8? content
  | _ => none

/-! ### Writing -/

/-- Puts an entry into the directory that a list of names leads to. -/
def put (tree : FileTree) (name : String) (entry : Entry) : List String → FileTree
  | [] => tree.insert name entry
  | outer :: names =>
    tree.modify outer fun
      | .directory inner => .directory (put inner name entry names)
      | other => other

/-- The directory that a list of names leads to. -/
def descend (tree : FileTree) : List String → Option FileTree
  | [] => some tree
  | name :: names =>
    match tree.get? name with
    | some (.directory inner) => descend inner names
    | _ => none

/-- Makes the directories on a path that do not exist yet, from the one that a list of names leads
to, and gives the names of the last one. Where anything else is in the way this stops, and leaves
the directories it has made. -/
def makeParts (tree : FileTree) (names : List String) :
    List String → FileTree × Option (List String)
  | [] => (tree, some names)
  | part :: parts =>
    if part = "" ∨ part = "." then makeParts tree names parts
    else if part = ".." then makeParts tree names.dropLast parts
    else
      match (descend tree names).map (·.get? part) with
      | some none => makeParts (put tree part (.directory {}) names) (names ++ [part]) parts
      | some (some (.directory _)) => makeParts tree (names ++ [part]) parts
      | _ => (tree, none)

/-- Makes all directories on a path. -/
def makeDirectories (tree : FileTree) (path : String) : Option FileTree :=
  let (made, names?) := makeParts tree [] (pathParts path)
  names?.map fun _ => made

/-- Puts a file at a path, where only a file may be, and makes the directories on the way. -/
def putFile (tree : FileTree) (path : String) (content : ByteArray) : Option FileTree := do
  let parts := pathParts path
  let name ← parts.getLast?
  let (made, names?) := makeParts tree [] parts.dropLast
  let names ← names?
  if isName name && ((descend made names).bind (·.get? name)).all Entry.isFile then
    some (put made name (.file content) names)
  else none

end FileTree

/-! ### Writing text -/

/-- Parts of a path that lead nowhere else. -/
def isVacuous (part : String) : Bool := part = "" || part = "."

/-- The path of the directory that holds what a path leads to, which is empty for a single part.
It is not cut down to nothing if the path starts with a dot or a slash. -/
def parentPath (path : String) : String :=
  match (((pathParts path).reverse.dropWhile isVacuous).drop 1).reverse with
  | [] => ""
  | first :: parts =>
    match (parts.reverse.dropWhile isVacuous).reverse with
    | [] => if first = "" then "/" else first
    | parts => "/".intercalate (first :: parts)

inductive WriteError where
  | directory (path : String)
  | file (path : String)
deriving DecidableEq, Repr

def WriteError.message : WriteError → String
  | .directory path => "Failed to create directory: " ++ path
  | .file path => "Failed to write to file: " ++ path

/-- Writes a text to a file, for which the directories on its path are made. They stay if the file
cannot be written. -/
def FileTree.write (tree : FileTree) (path text : String) : FileTree × Except WriteError Unit :=
  let parent := parentPath path
  let (made, names?) := tree.makeParts [] (pathParts parent)
  if names?.isNone then (made, .error (.directory parent))
  else
    match made.putFile path text.toUTF8 with
    | some written => (written, .ok ())
    | none => (made, .error (.file path))

end ApiScribe.Project
