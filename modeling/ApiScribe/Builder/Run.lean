import ApiScribe.Builder.Apply
import ApiScribe.Text.Quoted

/-!
# Applying annotations

Annotations are applied one after the other. A callback that is written in place starts a new pass,
which takes all annotations that are left. A run without passes inside passes replaces the state of
the pass instead.
-/

namespace ApiScribe.Builder

open OpenApi

/-- A document under construction. -/
structure State where
  doc : Document
  pass : Pass

/-- The state after an effect within the same pass. -/
def Effect.state (effect : Effect) : State := { doc := effect.doc, pass := effect.pass }

/-- An annotation as such, which stays in its pass. -/
def attempt (value : Option String) (s : State) (a : Annotation) : State × Outcome :=
  let effect := apply value s.doc s.pass a
  (effect.state, effect.outcome)

/-- The outcomes of annotations that are applied in the same pass, and the state they leave. -/
def attemptAll (value : Option String) (s : State) : List Annotation → List Outcome × State
  | [] => ([], s)
  | a :: rest =>
    let (next, outcome) := attempt value s a
    let (outcomes, final) := attemptAll value next rest
    (outcome :: outcomes, final)

/-- The failure of an annotation of some kind. -/
structure Failure where
  kind : Annotation.Kind
  error : AnnotationError
deriving Repr, DecidableEq

/-- Apply annotations in a pass; the result is the state at its end and all failures. The body of a
callback is applied in a pass of its own, of which the document is kept. -/
def runPass (value : Option String) (s : State) : List Annotation → State × List Failure
  | [] => (s, [])
  | a :: rest =>
    match attempt value s a with
    | (next, .done) => runPass value next rest
    | (next, .failed error) =>
      let (final, failures) := runPass value next rest
      (final, { kind := a.kind, error } :: failures)
    | (next, .entered callback) =>
      let (inner, failures) := runPass value { next with pass := .inside callback } rest
      ({ next with doc := inner.doc }, failures)

/-! ### Without nested passes -/

/-- Apply an annotation; a callback that is entered replaces the pass. -/
def step (value : Option String) (s : State) (a : Annotation) : State × List Failure :=
  match attempt value s a with
  | (next, .done) => (next, [])
  | (next, .failed error) => (next, [{ kind := a.kind, error }])
  | (next, .entered callback) => ({ next with pass := .inside callback }, [])

/-- Apply annotations step by step; the result is the last state and all failures. -/
def run (value : Option String) (s : State) : List Annotation → State × List Failure
  | [] => (s, [])
  | a :: rest =>
    let (next, failures) := step value s a
    let (final, others) := run value next rest
    (final, failures ++ others)

/-- The state in which the annotations of a declaration are applied. -/
def State.start (doc : Document) (name : String) : State := { doc, pass := .start name }

/-! ### Reports -/

def methodWord : Method → String
  | .get => "Get"
  | .put => "Put"
  | .post => "Post"
  | .delete => "Delete"
  | .options => "Options"
  | .head => "Head"
  | .patch => "Patch"
  | .trace => "Trace"

/-- A callback in reports. -/
def Container.describe : Container → String
  | document => "None"
  | component id => "Component(" ++ Text.quote id ++ ")"
  | inline container path method key =>
    let around :=
      match container with
      | document => "None"
      | _ => "Some(" ++ container.describe ++ ")"
    "Operation(OperationLoc \x7b callback: " ++ around ++ ", path: " ++ Text.quote path ++
      ", method: " ++ methodWord method ++ " \x7d, " ++ Text.quote key ++ ")"

/-- What is reported of one annotation. -/
def stepLog (value : Option String) (s : State) (a : Annotation) : List Log.Record :=
  let effect := apply value s.doc s.pass a
  effect.log ++
    match effect.outcome with
    | .done => []
    | .entered callback => [.debug ("Entering callback body: " ++ callback.describe)]
    | .failed error => [.debug ("@" ++ a.kind.name ++ " failed: " ++ error.message)]

/-- What is reported while annotations are applied. -/
def runLog (value : Option String) (s : State) : List Annotation → List Log.Record
  | [] => []
  | a :: rest => stepLog value s a ++ runLog value (step value s a).1 rest

end ApiScribe.Builder
