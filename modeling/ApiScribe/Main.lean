import ApiScribe.Cli.Run

/-!
# The command

The command reads the project from the disk, makes a run on it, reports on standard error, and
prints the document or writes it to the disk.
-/

namespace ApiScribe.Cli

open Project

/-! ### Reading the project -/

/-- No path that can be opened leads through more directories. -/
def maxDepth : Nat := 2048

/-- Reads what is at a path. Links and directories that no scan enters are left out. -/
def readEntry : Nat → String → IO.FS.FileType → IO (Option Entry)
  | depth + 1, path, .dir => do
    let mut entries : FileTree := {}
    for item in ← (System.mkFilePath [path]).readDir do
      let name := item.fileName
      let kind := (← item.path.symlinkMetadata).type
      unless kind == .dir && isSkippedName name do
        if let some entry ← readEntry depth (joinPath path name) kind then
          entries := entries.insert name entry
    return some (.directory entries)
  | _, path, .file => return some (.file (← IO.FS.readBinFile (System.mkFilePath [path])))
  | _, _, .other => return some .special
  | _, _, _ => return none

/-- A file tree in which a path leads to an entry. -/
def mount (path : String) (entry : Entry) : FileTree :=
  match FileTree.makeParts {} [] (pathParts path) with
  | (_, none) => {}
  | (tree, some names) =>
    match names.getLast?, entry with
    | some name, entry => tree.put name entry names.dropLast
    | none, .directory entries => entries
    | none, _ => tree

/-- A file tree with the project at a path, if there is one. -/
def readProject (path : String) : IO FileTree := do
  let found ← (System.mkFilePath [path]).metadata.toBaseIO
  match found with
  | .error _ => return {}
  | .ok found =>
    let entry ← readEntry maxDepth path found.type
    return entry.elim {} (mount path)

/-! ### Writing the document -/

/-- Writes a text to the disk, for which the directories on its path are made. -/
def save (path text : String) : IO (Except WriteError Unit) := do
  let parent := parentPath path
  let made ← (if parent = "" then pure () else
    IO.FS.createDirAll (System.mkFilePath [parent])).toBaseIO
  match made with
  | .error _ => return .error (.directory parent)
  | .ok () =>
    match ← (IO.FS.writeFile (System.mkFilePath [path]) text).toBaseIO with
    | .error _ => return .error (.file path)
    | .ok () => return .ok ()

def fail (failure : Failure) : IO UInt32 := do
  IO.eprintln ("Error: " ++ failure.message)
  return 1

/-- Makes a run, and gives the exit code. -/
def perform (arguments : Arguments) : IO UInt32 := do
  let tree ← readProject arguments.projectPath
  for record in runLog tree arguments do
    if arguments.verbose || record.level ≠ .debug then IO.eprintln record.line
  let outcome := run tree arguments
  match outcome.result, arguments.output with
  | .error failure, _ => fail failure
  | .ok (), none => IO.print outcome.printed; return 0
  | .ok (), some path =>
    match ← save path ((outcome.tree.text? path).getD "") with
    | .error error => fail (.write error)
    | .ok () => return 0

/-! ### Usage -/

def usage : String :=
  "Generate an OpenAPI 3.0 document from `@` annotations in Rust doc comments\n\n" ++
  "Usage: api-scribe [OPTIONS] <PROJECT_PATH>\n\n" ++
  "Arguments:\n" ++
  "  <PROJECT_PATH>  Project directory (or single source file) to scan\n\n" ++
  "Options:\n" ++
  "  -f, --format <FORMAT>  Output format (yaml or json), yaml by default\n" ++
  "  -o, --output <FILE>    Output file path (if not specified, outputs to stdout)\n" ++
  "      --allow-errors     Emit the document even when some annotations failed\n" ++
  "  -v, --verbose          Enable verbose output\n" ++
  "  -h, --help             Print help\n" ++
  "  -V, --version          Print version"

def UsageError.message : UsageError → String
  | .missingPath => "error: the project path is missing"
  | .unknown => "error: unexpected argument"
  | .invalidValue => "error: missing or invalid value"
  | .repeated => "error: an option is given more than once"
  | .needlessValue => "error: a value for an option that takes none"
  | .help => usage
  | .version => "api-scribe 0.1.0"

/-- Says why there is no run, and gives the exit code. -/
def explain (error : UsageError) : IO UInt32 := do
  if error = .help ∨ error = .version then
    IO.println error.message
    return 0
  else
    IO.eprintln error.message
    return 2

end ApiScribe.Cli

def main (arguments : List String) : IO UInt32 :=
  match ApiScribe.Cli.Arguments.parse arguments with
  | .ok arguments => ApiScribe.Cli.perform arguments
  | .error error => ApiScribe.Cli.explain error
