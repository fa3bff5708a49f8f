import ApiScribe.Text.Pattern

/-!
# Arguments of annotations

The forms that arguments have, each with the pattern that reads it.
-/

namespace ApiScribe.Builder.Argument

open Text

/-- The next word, which is kept under a number. -/
def wordGroup (number : Nat) : Pattern := .group number (.many .solid)

/-- The pattern `^\{(\S+)\}$`. -/
def referencePattern : Pattern :=
  .all [.start, .one (.only '\x7b'), wordGroup 1, .one (.only '\x7d'), .finish]

/-- The pattern `^(\S+)\s+(\S+)\s+-\s+(.+)$`. -/
def operationPattern : Pattern :=
  .all [.start, wordGroup 1, .many .blank, wordGroup 2, .many .blank, .literal "-", .many .blank,
    .group 3 (.many .inLine), .finish]

/-- The pattern `^(\S+)\s+(\S+)(?:\s+as\s+(\S+))?$`. -/
def parameterPattern : Pattern :=
  .all [.start, wordGroup 1, .many .blank, wordGroup 2,
    .option (.all [.many .blank, .literal "as", .many .blank, wordGroup 3]), .finish]

/-- The pattern `^(\S+)\s+-\s+(.+)$`. -/
def jsonExamplePattern : Pattern :=
  .all [.start, wordGroup 1, .many .blank, .literal "-", .many .blank, .group 2 (.many .inLine),
    .finish]

/-- The pattern `^(\S+):\s+(\S+)\s+in\s+(\S+)$`. -/
def apiKeyPattern : Pattern :=
  .all [.start, wordGroup 1, .one (.only ':'), .many .blank, wordGroup 2, .many .blank,
    .literal "in", .many .blank, wordGroup 3, .finish]

/-- A component reference such as `{User}`. -/
def reference? (argument : String) : Option String := do
  let captures ← referencePattern.captures? argument
  captures.text? 1

/-- Method, path and summary, as in `GET /me - Get current user`. -/
def operation? (argument : String) : Option (String × String × String) := do
  let captures ← operationPattern.captures? argument
  return (← captures.text? 1, ← captures.text? 2, ← captures.text? 3)

/-- Name, location and component ID, as in `id path` or `id path as UserID`. -/
def parameter? (argument : String) : Option (String × String × Option String) := do
  let captures ← parameterPattern.captures? argument
  return (← captures.text? 1, ← captures.text? 2, captures.text? 3)

/-- Name and summary, as in `Expiring - A user with an expiry`. -/
def jsonExample? (argument : String) : Option (String × String) := do
  let captures ← jsonExamplePattern.captures? argument
  return (← captures.text? 1, ← captures.text? 2)

/-- Name, field and location of an API key, as in `api_key: X-API-Key in header`. -/
def apiKeyPhrase? (argument : String) : Option (String × String × String) := do
  let captures ← apiKeyPattern.captures? argument
  return (← captures.text? 1, ← captures.text? 2, ← captures.text? 3)

/-- Name, field and location of an API key, as a phrase or in the form `api_key header X-API-Key`.
-/
def apiKey? (argument : String) : Option (String × String × String) :=
  match apiKeyPhrase? argument with
  | some key => some key
  | none =>
    match words argument with
    | [name, location, field] => some (name, field, location)
    | _ => none

end ApiScribe.Builder.Argument
