import ApiScribe.Rust.Grammar.Expression
import ApiScribe.Rust.Grammar.Item

/-!
# Statements
-/

namespace ApiScribe.Rust.Grammar

variable (parse : Productions)

/-- The start of an item that is not a macro call. -/
def seesItem : Sight := fun tokens =>
  let after := tokens.drop 1
  let next := tokens.drop 2
  seesAnyWord ["pub", "extern", "use", "fn", "mod", "type", "struct", "enum", "trait", "impl",
    "macro"] tokens ||
  (seesWord "crate" tokens && !seesSigns "::" after) ||
  (seesWord "static" tokens && (seesWord "mut" after || seesIdentifier after)) ||
  (seesWord "const" tokens && !(seesGroup .brace after || seesAnyWord ["static", "move"] after ||
    seesSigns "|" after ||
    (seesWord "async" after && !seesAnyWord ["unsafe", "extern", "fn"] next))) ||
  (seesWord "unsafe" tokens && !seesGroup .brace after) ||
  (seesWord "async" tokens && seesAnyWord ["unsafe", "extern", "fn"] after) ||
  (seesWord "union" tokens && seesIdentifier after) ||
  (seesWord "auto" tokens && seesWord "trait" after) ||
  (seesWord "default" tokens && seesAnyWord ["unsafe", "impl"] after)

/-- The tokens from the exclamation mark of a macro call on. -/
def afterMacroPath? (tokens : List TokenTree) : Option (List TokenTree) := do
  let (_, cursor) ← simplePath ⟨tokens, []⟩
  if seesSigns "!" cursor.tokens then some cursor.tokens else none

/-- A macro call that defines a name. -/
def seesNamedMacro : Sight := fun tokens =>
  match afterMacroPath? tokens with
  | some tokens => seesIdentifier (tokens.drop 1) || seesWord "try" (tokens.drop 1)
  | none => false

/-- A macro call with braces that is a whole statement. -/
def seesBracedMacro : Sight := fun tokens =>
  match afterMacroPath? tokens with
  | some tokens =>
    seesGroup .brace (tokens.drop 1) && !seesAnySigns [".", "?"] (tokens.drop 2)
  | none => false

def bracedMacro : Grammar Unit := do
  let _ ← simplePath
  signs "!"
  let _ ← someGroup
  let _ ← signs? ";"

def localVariable : Grammar Unit := do
  word "let"
  let _ ← parse .pattern
  if ← signs? ":" then type parse true
  if ← signs? "=" then
    expression parse
    if ← word? "else" then block parse
  signs ";"

/-- A statement, and whether something can follow it. -/
def statement : Grammar Bool := do
  let header ← header parse
  let tokens ← tokens
  if !seesNamedMacro tokens && seesBracedMacro tokens then
    record header.found
    bracedMacro
    return true
  else if seesWord "let" tokens then
    record header.found
    localVariable parse
    return true
  else if seesItem tokens || seesNamedMacro tokens then
    recordItem header (itemBody parse)
    return true
  else
    record header.found
    let form ← parse .bounded
    if ← signs? ";" then return true
    return form = .block

def statementsProduction : Grammar Form := do
  iterate (fun _ => do
    repeatWhile (seesSigns ";") (signs ";")
    if ← sees seesEnd then return .inr ()
    let complete ← statement parse
    if ← sees seesEnd then return .inr ()
    require complete
    return .inl ()) ()
  return .plain

end ApiScribe.Rust.Grammar
