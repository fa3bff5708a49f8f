import ApiScribe.Annotation.Kind

/-!
# Annotations

An annotation is a tag with an argument on the same line and the lines that follow as its body.
-/

namespace ApiScribe

structure Annotation where
  kind : Annotation.Kind
  argument : String := ""
  body : List String := []
deriving Repr, DecidableEq

namespace Annotation

/-- The body as one text. -/
def bodyText (a : Annotation) : String := "\n".intercalate a.body

/-- The line that introduces the annotation. -/
def headerLine (a : Annotation) : String :=
  if a.argument.isEmpty then "@" ++ a.kind.name else "@" ++ a.kind.name ++ " " ++ a.argument

/-- The annotation as lines of a comment. -/
def render (a : Annotation) : List String := a.headerLine :: a.body

end Annotation

end ApiScribe
