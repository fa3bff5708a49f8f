import ApiScribe.Annotation.Split
import ApiScribe.Builder.Run

/-!
# Documents from declarations

A document is built from the comments of declarations, one declaration after the other. Nothing but
the document is carried over from one to the next.
-/

namespace ApiScribe.Builder

open OpenApi

structure SourceLocation where
  file : String := ""
  line : Nat := 0
deriving Repr, DecidableEq

def SourceLocation.text (l : SourceLocation) : String := l.file ++ ":" ++ toString l.line

/-- A documented declaration of a source file. -/
structure Declaration where
  name : String
  /-- The text of a string constant. -/
  value : Option String := none
  doc : String
  location : SourceLocation := {}
deriving Repr, DecidableEq

/-- A failed annotation and where it stands. -/
structure Diagnostic where
  location : SourceLocation
  declaration : String
  kind : Annotation.Kind
  cause : AnnotationError
deriving Repr, DecidableEq

def Diagnostic.message (d : Diagnostic) : String :=
  d.location.text ++ ": " ++ (if d.declaration = "" then "" else d.declaration ++ ": ") ++
    "@" ++ d.kind.name ++ ": " ++ d.cause.message

namespace Declaration

def annotations (d : Declaration) : List Annotation := Annotation.ofComment d.doc

def diagnostic (d : Declaration) (failure : Failure) : Diagnostic :=
  { location := d.location, declaration := d.name, kind := failure.kind, cause := failure.error }

/-- Add what a declaration describes to a document. -/
def addTo (d : Declaration) (doc : Document) : Document × List Diagnostic :=
  let (final, failures) := runPass d.value (.start doc d.name) d.annotations
  (final.doc, failures.map d.diagnostic)

/-- What is reported while a declaration is added. -/
def log (d : Declaration) (doc : Document) : List Log.Record :=
  if d.annotations.isEmpty then []
  else
    .debug ("Processing " ++ toString d.annotations.length ++ " annotations of " ++ d.name ++
      " at " ++ d.location.text) ::
    runLog d.value (.start doc d.name) d.annotations ++
    (d.addTo doc).2.map (.warn ·.message)

end Declaration

/-- Add what declarations describe to a document, in their order. -/
def addAll (doc : Document) : List Declaration → Document × List Diagnostic
  | [] => (doc, [])
  | d :: rest =>
    let (next, diagnostics) := d.addTo doc
    let (final, others) := addAll next rest
    (final, diagnostics ++ others)

/-- The document that declarations describe, and the annotations that failed. -/
def build (declarations : List Declaration) : Document × List Diagnostic := addAll {} declarations

/-- What is reported while declarations are added. -/
def addAllLog (doc : Document) : List Declaration → List Log.Record
  | [] => []
  | d :: rest => d.log doc ++ addAllLog (d.addTo doc).1 rest

end ApiScribe.Builder
