import ApiScribe.Annotation.Basic
import ApiScribe.Text.Blank

/-!
# Annotations of a comment

A line that starts with `@` and a known tag opens an annotation, which takes every line up to the
next such line as its body. Lines before the first one are dropped.
-/

namespace ApiScribe.Annotation

open Text

/-- The kind and argument of a trimmed line that opens an annotation. The argument stands on one
line. -/
def header? (line : String) : Option (Kind × String) :=
  match line.toList with
  | '@' :: rest =>
    let tag := rest.takeWhile (!isBlank ·)
    let argument := (rest.dropWhile (!isBlank ·)).dropWhile isBlank
    if '\n' ∈ argument then none
    else (Kind.ofTag? (.ofList tag)).map (·, .ofList argument)
  | _ => none

def trimStartLines (lines : List String) : List String := lines.dropWhile (· = "")

/-- Drop the empty lines at both ends. -/
def trimLines (lines : List String) : List String :=
  (trimStartLines (trimStartLines lines).reverse).reverse

/-- The lines ahead of the first header, and the annotations from there on. -/
def splitTrimmed : List String → List String × List Annotation
  | [] => ([], [])
  | line :: rest =>
    let (body, annotations) := splitTrimmed rest
    match header? line with
    | some (kind, argument) => ([], { kind, argument, body := trimLines body } :: annotations)
    | none => (line :: body, annotations)

/-- The annotations in a list of lines. -/
def split (lines : List String) : List Annotation := (splitTrimmed (lines.map trim)).2

/-- The trimmed lines of a comment. -/
def commentLines (text : String) : List String := (Text.lines text).map trim

/-- The annotations in the text of a comment. -/
def ofComment (text : String) : List Annotation := split (commentLines text)

end ApiScribe.Annotation
