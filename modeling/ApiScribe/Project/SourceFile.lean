import ApiScribe.Builder.Declaration
import ApiScribe.Rust.Grammar

/-!
# Source files

The documented declarations of a file, which has to be UTF-8 text and well-formed Rust.
-/

namespace ApiScribe.Project

open Builder (Declaration)

structure SourceFile where
  path : String
  declarations : List Declaration

inductive SourceError where
  /-- The file is not UTF-8 text. -/
  | unreadable (path : String)
  | malformed (path : String)
deriving DecidableEq, Repr

def SourceError.message : SourceError → String
  | .unreadable path => "Failed to read file: " ++ path
  | .malformed path => "Failed to parse Rust syntax in file: " ++ path

namespace SourceFile

def declarationOf (path : String) (item : Rust.Item) : Declaration :=
  { name := item.name, value := item.value, doc := item.doc
    location := { file := path, line := item.line } }

def ofText (path source : String) : Except SourceError SourceFile :=
  match Rust.items? source with
  | some items => .ok { path, declarations := items.map (declarationOf path) }
  | none => .error (.malformed path)

def ofBytes (path : String) (content : ByteArray) : Except SourceError SourceFile :=
  match String.fromUTF8? content with
  | some source => ofText path source
  | none => .error (.unreadable path)

/-- What is reported while a file is read. -/
def log (path : String) (content : ByteArray) : List Log.Record :=
  .debug ("Parsing file: " ++ path) ::
    match ofBytes path content with
    | .ok file => [.debug ("Found " ++ toString file.declarations.length ++
        " documented declarations in " ++ path)]
    | .error error => [.warn ("Failed to parse " ++ path ++ ": " ++ error.message)]

end SourceFile

end ApiScribe.Project
