import ApiScribe.Cli.Arguments
import ApiScribe.Json.Write
import ApiScribe.OpenApi.Write
import ApiScribe.Project.Generate
import ApiScribe.Yaml.Write

/-!
# Runs

A run generates the document of a project and prints it or writes it to a file. Unless errors are
allowed, a failed annotation stops the run before it has any effect.
-/

namespace ApiScribe.Cli

open Builder OpenApi Project

inductive Failure where
  | missingProject (path : String)
  | scan (error : ScanError)
  | annotations (diagnostics : List Diagnostic)
  | write (error : WriteError)

def Failure.message : Failure → String
  | .missingProject path => "Project path does not exist: " ++ path
  | .scan error => error.message
  | .annotations diagnostics =>
    "failed to process " ++ toString diagnostics.length ++ " annotation(s):" ++
      String.join (diagnostics.map ("\n  " ++ ·.message))
  | .write error => error.message

def Format.write (format : Format) (doc : Document) : String :=
  match format with
  | .yaml => Yaml.write doc.toJson
  | .json => doc.toJson.pretty

/-- The file tree after a run, what it has printed, and why it has failed. -/
structure Outcome where
  tree : FileTree
  printed : String
  result : Except Failure Unit

/-- Print a document, or write it to the output file. -/
def emit (tree : FileTree) (arguments : Arguments) (doc : Document) : Outcome :=
  let text := arguments.format.write doc
  match arguments.output with
  | none => { tree, printed := text ++ "\n", result := .ok () }
  | some path =>
    let (written, result) := tree.write path text
    { tree := written, printed := "", result := result.mapError .write }

/-- The document of a run, unless something stops it. -/
def document (tree : FileTree) (arguments : Arguments) :
    Except Failure (Document × List Diagnostic) := do
  if (tree.entry? arguments.projectPath).isNone then
    throw (.missingProject arguments.projectPath)
  let (doc, diagnostics) ← (generate tree arguments.projectPath).mapError .scan
  if !diagnostics.isEmpty && !arguments.allowErrors then throw (.annotations diagnostics)
  return (doc, diagnostics)

def run (tree : FileTree) (arguments : Arguments) : Outcome :=
  match document tree arguments with
  | .ok (doc, _) => emit tree arguments doc
  | .error failure => { tree, printed := "", result := .error failure }

/-! ### Reports -/

def formatLog (format : Format) : List Log.Record :=
  let name := if format = .yaml then "YAML" else "JSON"
  [.info ("Serializing to " ++ format.label ++ " format..."),
    .debug ("Serializing OpenAPI document to " ++ name)]

def emitLog (tree : FileTree) (arguments : Arguments) (doc : Document)
    (diagnostics : List Diagnostic) : List Log.Record :=
  let complete : List Log.Record :=
    [.info "Generation complete!", .info ("  - Paths: " ++ toString doc.paths.size),
      .info ("  - Annotation errors: " ++ toString diagnostics.length)]
  formatLog arguments.format ++
    match arguments.output with
    | none => complete
    | some path =>
      let text := arguments.format.write doc
      .info ("Writing output to: " ++ path) :: .debug ("Writing content to file: " ++ path) ::
        match (tree.write path text).2 with
        | .error _ => []
        | .ok () =>
          .debug ("Successfully wrote " ++ toString text.utf8ByteSize ++ " bytes to " ++ path) ::
          .info ("Successfully wrote OpenAPI document to " ++ path) :: complete

def argumentLog (tree : FileTree) (arguments : Arguments) : List Log.Record :=
  .debug ("Parsed arguments: " ++ arguments.describe) ::
    if (tree.entry? arguments.projectPath).isNone then []
    else [.info ("Project path: " ++ arguments.projectPath),
      .info ("Output format: " ++ arguments.format.label),
      .info (match arguments.output with
        | some path => "Output file: " ++ path
        | none => "Output: stdout"),
      .info "Starting OpenAPI document generation..."]

/-- What is reported during a run. -/
def runLog (tree : FileTree) (arguments : Arguments) : List Log.Record :=
  argumentLog tree arguments ++
    if (tree.entry? arguments.projectPath).isNone then []
    else
      generateLog tree arguments.projectPath ++
      match document tree arguments with
      | .error _ => []
      | .ok (doc, diagnostics) =>
        (if diagnostics.isEmpty then []
        else [.warn ("Emitting document despite " ++ toString diagnostics.length ++
          " annotation error(s)")]) ++
        emitLog tree arguments doc diagnostics

end ApiScribe.Cli
