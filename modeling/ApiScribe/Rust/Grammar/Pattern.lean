import ApiScribe.Rust.Grammar.Type

/-!
# Patterns
-/

namespace ApiScribe.Rust.Grammar

variable (parse : Productions)

def seesAlternative : Sight := fun tokens =>
  seesSigns "|" tokens && !seesAnySigns ["||", "|="] tokens

/-- Patterns with a bar between them and possibly one in front. A single one keeps its form. -/
def alternatives : Grammar Form := do
  let leading ← signs? "|"
  let form ← parse .pattern
  iterate (fun (form : Form) => do
    if ← sees seesAlternative then
      signs "|"
      let _ ← parse .pattern
      return .inl .plain
    return .inr form) (if leading then .plain else form)

/-- Alternatives whose form does not matter. -/
def anyPattern : Grammar Unit := do
  let _ ← alternatives parse

/-- The positions of a tuple's fields are below this. -/
def positionBound : Nat := 0x100000000

/-- A field by its name or, for those of tuples, by its position. -/
def field : Grammar Bool := take fun
  | .leaf (.word name) _ => if isKeyword name then none else some true
  | .leaf (.literal (.integer value false)) _ => if value < positionBound then some false else none
  | _ => none

/-! ### Ranges -/

def seesRangeEnd : Sight := fun tokens =>
  seesEnd tokens || seesAnySigns ["|", "=", ",", ";"] tokens || seesWord "if" tokens ||
    (seesSigns ":" tokens && !seesSigns "::" tokens)

/-- An end of a range, unless the pattern ends there. -/
def rangeBound? : Grammar Bool := do
  if ← sees seesRangeEnd then return false
  if ← sees seesLiteral then
    let _ ← literal
  else if ← word? "const" then
    let _ ← attributedBlock parse
  else
    let _ ← qualifiedPath parse true
  return true

/-- The rest of a range from its dots on. Only two dots can lack an end after them. -/
def rangeTail (hasStart : Bool) : Grammar Form := do
  let closed ← if ← signs? "..=" then pure true
    else if hasStart then signs? "..."
    else pure false
  if !closed then signs ".."
  if ← rangeBound? parse then return if hasStart then .plain else .range
  require !closed
  return if hasStart then .range else .plain

def rangeTail? : Grammar Form := do
  if ← sees (seesSigns "..") then rangeTail parse true else return .plain

/-! ### Kinds of patterns -/

/-- A path, and the fields, arguments or range that follow it. -/
def pathPattern : Grammar Form := do
  let shape ← qualifiedPath parse true
  let tokens ← tokens
  if !shape.qualified && shape.bare && seesSigns "!" tokens && !seesSigns "!=" tokens then
    signs "!"
    let _ ← someGroup
    return .plain
  if seesGroup .brace tokens then
    inside .brace <| commaSeparated do
      skipAttributes parse
      if ← signs? ".." then require (← sees seesEnd)
      else
        let boxed ← word? "box"
        let byReference ← word? "ref"
        let mutable ← word? "mut"
        if boxed || byReference || mutable then
          let _ ← identifier
        else
          let named ← field
          if !named || (← sees (seesSigns ":")) then
            signs ":"
            anyPattern parse
    return .plain
  if seesGroup .paren tokens then
    inside .paren (commaSeparated (anyPattern parse))
    return .plain
  rangeTail? parse

def bindingPattern : Grammar Form := do
  let _ ← word? "ref"
  let _ ← word? "mut"
  let _ ← identifierOr ["self"]
  if ← signs? "@" then
    let _ ← parse .pattern
  return .plain

def seesPathPattern : Sight := fun tokens =>
  let after := tokens.drop 1
  (seesIdentifier tokens && (seesAnySigns ["::", "!", ".."] after || seesGroup .brace after ||
    seesGroup .paren after)) ||
  (seesWord "self" tokens && seesSigns "::" after) ||
  seesSigns "::" tokens || seesSigns "<" tokens || seesAnyWord ["Self", "super", "crate"] tokens

def patternProduction : Grammar Form := do
  let tokens ← tokens
  if seesPathPattern tokens then pathPattern parse
  else if seesWord "_" tokens then
    word "_"
    return .plain
  else if seesWord "box" tokens then
    word "box"
    discard (parse .pattern)
  else if seesSigns "-" tokens || seesLiteral tokens || seesWord "const" tokens then
    require (← rangeBound? parse)
    rangeTail? parse
  else if seesIdentifier tokens || seesAnyWord ["ref", "mut", "self"] tokens then
    bindingPattern parse
  else if seesSigns "&" tokens then
    signs "&"
    let _ ← word? "mut"
    let _ ← parse .pattern
    return .plain
  else if seesGroup .paren tokens then
    inside .paren (commaSeparated (anyPattern parse))
    return .plain
  else if seesGroup .bracket tokens then
    inside .bracket <| commaSeparated do
      require ((← alternatives parse) ≠ .range)
    return .plain
  else
    require !(seesSigns "..." tokens)
    rangeTail parse false

end ApiScribe.Rust.Grammar
