import ApiScribe.Rust.Grammar.Attribute

/-!
# Paths, types and generics
-/

namespace ApiScribe.Rust.Grammar

variable (parse : Productions)

/-- A type without sums of bounds on its outside, or any type. -/
def type (sums : Bool) : Grammar Unit := do
  let _ ← parse (.type sums)

def expression : Grammar Unit := do
  let _ ← parse (.expression true)

def bound : Grammar Unit := do
  let _ ← parse (.bound false)

/-- A block without attributes of its own. -/
def block : Grammar Unit := do
  let _ ← inside .brace (parse .statements)

/-- A block with the attributes at its start. -/
def attributedBlock : Grammar (List Attribute) := inside .brace do
  let attributes ← innerAttributes parse
  let _ ← parse .statements
  return attributes

/-! ### Lifetimes and bounds -/

def seesBoundsEnd (signs : List String) : Sight := fun tokens =>
  seesEnd tokens || seesGroup .brace tokens || seesAnySigns signs tokens

/-- Lifetimes introduced by `for`, if there are any. -/
def forLifetimes? : Grammar Bool := do
  if ← word? "for" then
    angled do
      skipAttributes parse
      lifetime
    return true
  return false

/-- Bounds up to one of some signs. -/
def boundsUntil (stop : Sight) : Grammar Unit := separated "+" stop (bound parse)

/-! ### Paths -/

/-- The shape of a path. -/
structure PathShape where
  /-- Whether it belongs to a type in angle brackets. -/
  qualified : Bool := false
  /-- Whether it is one segment, not from the root. -/
  single : Bool := false
  /-- Whether none of its segments has arguments. -/
  bare : Bool := true
  /-- Whether its last segment has arguments. -/
  endsInArguments : Bool := false

/-- A constant that is an argument: a literal, a name or a block. -/
def constArgument : Grammar Unit := do
  if ← sees seesLiteral then
    let _ ← literal
  else if ← sees (seesGroup .brace) then
    let _ ← attributedBlock parse
  else
    let _ ← identifier

def genericArgument : Grammar Unit := do
  let tokens ← tokens
  if seesLifetime tokens && !seesSigns "+" (tokens.drop 1) then lifetime
  else if seesLiteral tokens || seesGroup .brace tokens then constArgument parse
  else
    let form ← parse (.type true)
    if form = .segment then
      if ← signs? "=" then
        if (← sees seesLiteral) || (← sees (seesGroup .brace)) then constArgument parse
        else type parse true
      else if ← signs? ":" then boundsUntil parse (seesAnySigns [",", ">"])

def genericArguments : Grammar Unit := angled (genericArgument parse)

/-- A segment of a path, and whether it has arguments. In expressions these start with `::`. -/
def pathSegment (inExpression : Bool) : Grammar Bool := do
  if ← sees (seesAnyWord ["super", "self", "crate", "try"]) then
    someWord
    return false
  let _ ← identifierOr ["Self"]
  let tokens ← tokens
  let direct := !inExpression && seesSigns "<" tokens && !seesSigns "<=" tokens
  if direct || (seesSigns "::" tokens && seesSigns "<" (tokens.drop 2)) then
    let _ ← signs? "::"
    genericArguments parse
    return true
  return false

def pathSegments (inExpression : Bool) (more : Sight) (shape : PathShape) : Grammar PathShape := do
  let arguments ← pathSegment parse inExpression
  iterate (fun shape => do
    if ← sees more then
      signs "::"
      let arguments ← pathSegment parse inExpression
      return .inl { shape with
        single := false, bare := shape.bare && !arguments, endsInArguments := arguments }
    return .inr shape) { shape with bare := !arguments, endsInArguments := arguments }

def path (inExpression : Bool) : Grammar PathShape := do
  let rooted ← signs? "::"
  let more : Sight := fun tokens => seesSigns "::" tokens && !seesGroup .paren (tokens.drop 2)
  pathSegments parse inExpression more { single := !rooted }

/-- A path that may start with a type in angle brackets. -/
def qualifiedPath (inExpression : Bool) : Grammar PathShape := do
  if ← signs? "<" then
    type parse true
    if ← word? "as" then
      let _ ← path parse false
    signs ">"
    signs "::"
    pathSegments parse inExpression (seesSigns "::") { qualified := true }
  else path parse inExpression

def arrow? (sums : Bool) : Grammar Unit := do
  if ← signs? "->" then type parse sums

/-- Arguments in parentheses after a path that has none yet, and whether there are any. -/
def callArguments? (shape : PathShape) : Grammar Bool := do
  let tokens ← tokens
  let follows := seesGroup .paren tokens ||
    (seesSigns "::" tokens && seesGroup .paren (tokens.drop 2))
  if shape.endsInArguments || !follows then return false
  let _ ← signs? "::"
  inside .paren (commaSeparated (type parse true))
  arrow? parse false
  return true

/-! ### Bounds -/

def traitBound : Grammar Unit := do
  let bound ← forLifetimes? parse
  if ← sees (seesGroup .bracket) then inside .bracket (word "const")
  else
    if (← sees (seesSigns "~")) && (← seesAfter 1 (seesWord "const")) then signs "~"
    let _ ← word? "const"
  if ← signs? "?" then
    if !bound then
      let _ ← forLifetimes? parse
  let shape ← path parse false
  let _ ← callArguments? parse shape

/-- The parameters that an opaque type captures. -/
def captured : Grammar Unit := do
  word "use"
  angled do
    if ← sees seesLifetime then lifetime
    else
      let _ ← identifierOr ["Self"]

def boundProduction (captures : Bool) : Grammar Form := do
  if ← sees seesLifetime then
    lifetime
    return .plain
  if ← sees (seesWord "use") then
    require captures
    captured
  else if ← sees (seesGroup .paren) then inside .paren (traitBound parse)
  else traitBound parse
  return .bound

def seesBound : Sight := fun tokens =>
  seesSomeWord tokens || seesAnySigns ["::", "?", "~"] tokens || seesLifetime tokens ||
    seesGroup .paren tokens || seesGroup .bracket tokens

/-- Bounds with a plus between them, of which one at least is not a lifetime. -/
def sumOfBounds (sums captures : Bool) : Grammar Unit := do
  let hasTrait ← iterate (fun (hasTrait : Bool) => do
    let form ← parse (.bound captures)
    let hasTrait := hasTrait || form = .bound
    if sums && (← signs? "+") then
      if ← sees seesBound then return .inl hasTrait
    return .inr hasTrait) false
  require hasTrait

/-- The bounds after the first one of a sum. -/
def moreBounds : Grammar Unit :=
  iterate (fun _ => do
    if ← signs? "+" then
      if ← sees seesBound then
        bound parse
        return .inl ()
    return .inr ()) ()

/-! ### Types -/

def abi? : Grammar Unit := do
  if ← word? "extern" then
    if ← sees seesString then
      let _ ← literal

/-- Three dots in place of the last parameters. -/
def variadic : Grammar Unit := do
  signs "..."
  let _ ← signs? ","
  require (← sees seesEnd)

/-- A parameter of a function type, the first of which may be `self`. -/
def functionTypeParameter : Grammar Unit := do
  skipAttributes parse
  let named : Sight := fun tokens =>
    (seesIdentifier tokens || seesAnyWord ["_", "self"] tokens) &&
      seesSigns ":" (tokens.drop 1) && !seesSigns "::" (tokens.drop 1)
  if (← sees (seesWord "mut")) && (← seesAfter 1 (seesWord "self")) then
    word "mut"
    word "self"
    if ← signs? ":" then type parse true
  else
    if ← sees named then
      someWord
      signs ":"
    if ← sees (seesSigns "...") then variadic else type parse true

def functionType : Grammar Unit := do
  let _ ← word? "unsafe"
  abi?
  word "fn"
  inside .paren (commaSeparated (functionTypeParameter parse))
  arrow? parse false

/-- A type between parentheses, a tuple, or the first bound of a sum. -/
def parenthesizedType (sums : Bool) : Grammar Form := do
  let isBound ← inside .paren do
    if ← sees seesEnd then return false
    if ← sees seesLifetime then
      sumOfBounds parse true false
      return false
    if ← sees (seesSigns "?") then
      traitBound parse
      return true
    let form ← parse (.type true)
    if ← signs? "," then
      commaSeparated (type parse true)
      return false
    return sums && [Form.segment, .path, .bound].contains form
  if isBound then moreBounds parse
  return .plain

/-- A path, a macro call, or a sum of bounds that starts with a path. -/
def pathType (sums : Bool) (hasLifetimes : Bool) : Grammar Form := do
  let shape ← qualifiedPath parse false
  if shape.qualified then
    let _ ← callArguments? parse shape
    return .plain
  let called ← callArguments? parse shape
  let tokens ← tokens
  if seesSigns "!" tokens && !seesSigns "!=" tokens && shape.bare && !called then
    signs "!"
    let _ ← someGroup
    return .plain
  if sums && seesSigns "+" tokens then
    moreBounds parse
    return .plain
  if hasLifetimes then return .bound
  return if shape.single && !called then .segment else .path

def typeProduction (sums : Bool) : Grammar Form := do
  let hasLifetimes ← forLifetimes? parse
  let tokens ← tokens
  let function := seesAnyWord ["fn", "unsafe", "extern"] tokens
  let name := seesIdentifier tokens || seesAnyWord pathWords tokens
  if hasLifetimes then require (function || name)
  if seesGroup .paren tokens then parenthesizedType parse sums
  else if function then
    functionType parse
    return .plain
  else if name || seesSigns "::" tokens || seesSigns "<" tokens then
    pathType parse sums hasLifetimes
  else if seesWord "dyn" tokens then
    word "dyn"
    let _ ← signs? "*"
    sumOfBounds parse sums false
    return .plain
  else if seesWord "impl" tokens then
    word "impl"
    sumOfBounds parse sums true
    return .plain
  else if seesLifetime tokens then
    sumOfBounds parse true false
    return .plain
  else if seesGroup .bracket tokens then
    inside .bracket do
      type parse true
      if ← signs? ";" then expression parse
    return .plain
  else if seesSigns "*" tokens then
    signs "*"
    if !(← word? "const") then word "mut"
    type parse false
    return .plain
  else if seesSigns "&" tokens then
    signs "&"
    lifetime?
    let _ ← word? "mut"
    type parse false
    return .plain
  else if seesSigns "!" tokens then
    signs "!"
    return .plain
  else
    word "_"
    return .plain

/-! ### Generics -/

def genericParameter : Grammar Unit := do
  skipAttributes parse
  let stop : Sight := fun tokens => seesEnd tokens || seesAnySigns [",", ">", "="] tokens
  if ← sees seesLifetime then
    lifetime
    if ← signs? ":" then separated "+" stop lifetime
  else if ← word? "const" then
    let _ ← identifier
    signs ":"
    type parse true
    if ← signs? "=" then constArgument parse
  else if ← word? "_" then pure ()
  else
    let _ ← identifier
    if ← signs? ":" then boundsUntil parse stop
    if ← signs? "=" then type parse true

/-- Parameters between angle brackets, and whether there are brackets. -/
def generics? : Grammar Bool := do
  if ← sees (seesSigns "<") then
    angled (genericParameter parse)
    return true
  return false

def seesPredicateEnd : Sight := fun tokens =>
  seesBoundsEnd [",", ";", "="] tokens || (seesSigns ":" tokens && !seesSigns "::" tokens)

def predicate : Grammar Unit := do
  if (← sees seesLifetime) && (← seesAfter 1 (seesSigns ":")) then
    lifetime
    signs ":"
    separated "+" seesPredicateEnd lifetime
  else
    let _ ← forLifetimes? parse
    type parse true
    signs ":"
    boundsUntil parse seesPredicateEnd

/-- Conditions on the parameters, and whether there are any. -/
def where? : Grammar Bool := do
  if ← word? "where" then
    separated "," seesPredicateEnd (predicate parse)
    return true
  return false

end ApiScribe.Rust.Grammar
