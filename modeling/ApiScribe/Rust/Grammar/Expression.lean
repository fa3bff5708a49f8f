import ApiScribe.Rust.Grammar.Pattern
import ApiScribe.Rust.Literal

/-!
# Expressions

Operators are only checked as far as the order of evaluation decides what is well formed:
comparisons do not follow one another, and no operator follows a range.
-/

namespace ApiScribe.Rust.Grammar

variable (parse : Productions)

def seesField : Sight := fun tokens => seesSigns "." tokens && !seesSigns ".." tokens

/-- A label in front of a loop or block. -/
def seesLabel : Sight := fun tokens => seesLifetime tokens && seesSigns ":" (tokens.drop 1)

/-! ### Operators -/

/-- How strongly an operator binds, as far as it is told apart. -/
inductive Strength where
  | assignment
  | range
  | logical
  | comparison
  | arithmetic
deriving DecidableEq, Repr

def Strength.rank : Strength → Nat
  | .assignment => 0
  | .range => 1
  | .logical => 2
  | .comparison => 3
  | .arithmetic => 4

/-- Operators between two operands. Those that start with another one come first. -/
def operators : List (String × Strength) :=
  [("<<=", .assignment), (">>=", .assignment)] ++
  ["+=", "-=", "*=", "/=", "%=", "^=", "&=", "|="].map (·, .assignment) ++
  [("&&", .logical), ("||", .logical), ("<<", .arithmetic), (">>", .arithmetic)] ++
  ["==", "<=", "!=", ">="].map (·, .comparison) ++
  ["+", "-", "*", "/", "%", "^", "&", "|"].map (·, .arithmetic) ++
  ["<", ">"].map (·, .comparison)

def operator? (tokens : List TokenTree) : Option (String × Strength) :=
  match operators.find? fun (signs, _) => seesSigns signs tokens with
  | some operator => some operator
  | none => if seesSigns "=" tokens && !seesSigns "=>" tokens then some ("=", .assignment) else none

/-- Where a range without an end stops. -/
def seesOpenRangeEnd (structs : Bool) : Sight := fun tokens =>
  seesEnd tokens || seesField tokens || seesWord "as" tokens ||
    (!structs && seesGroup .brace tokens) ||
    seesAnySigns [",", ";", "?", "=>", "=", "+", "/", "%", "^", ">", "<=", "!=", "-=", "*=", "&=",
      "|=", "<<="] tokens

/-- Operators with what follows them, as long as they bind more strongly than a limit. -/
def operatorsAbove (structs : Bool) (limit : Option Strength) (form : Form) : Grammar Form :=
  let above (strength : Strength) : Bool := limit.all (·.rank < strength.rank)
  iterate (fun (form, compared) => do
    let tokens ← tokens
    if form = .range then return .inr form
    match operator? tokens with
    | some (operator, strength) =>
      if !above strength then return .inr form
      require !(strength = .comparison && compared)
      signs operator
      let _ ← parse (.operand structs)
      let compared := strength = .comparison || (strength = .arithmetic && compared)
      return .inl (.plain, compared)
    | none =>
      if seesWord "as" tokens then
        word "as"
        type parse false
        return .inl (.plain, compared)
      return .inr form) (form, false)

/-- The dots of a range and its end, if it has one. -/
def range (structs : Bool) : Grammar Form := do
  let closed ← signs? "..="
  if !closed then
    require !(← sees (seesSigns "..."))
    signs ".."
  if closed || !(← sees (seesOpenRangeEnd structs)) then
    let form ← parse (.operand structs)
    let _ ← operatorsAbove parse structs (some .range) form
  return .range

def expressionFrom (structs : Bool) (form : Form) : Grammar Form := do
  let form ← operatorsAbove parse structs none form
  if form ≠ .range && (← sees (seesSigns "..")) then range parse structs else return form

/-! ### What follows an operand -/

def arguments : Grammar Unit := inside .paren (commaSeparated (expression parse))

/-- The positions that a number with a point stands for in `x.0.1`. -/
inductive Positions where
  | none
  | all
  /-- The last point has nothing after it. -/
  | unfinished

def positions (text : String) : Positions :=
  let isPosition (cs : List Char) : Bool :=
    cs.head?.any Char.isDigit && (integer? cs).any fun (value, rest) =>
      value < positionBound && rest.isEmpty
  let before := text.toList.takeWhile (· ≠ '.')
  match text.toList.dropWhile (· ≠ '.') with
  | ['.'] => if isPosition before then .unfinished else .none
  | _ :: after => if isPosition before && isPosition after then .all else .none
  | [] => .none

def member : Grammar Unit := do
  if ← word? "await" then return
  let named ← field
  if named && (← sees (seesSigns "::")) then
    signs "::"
    genericArguments parse
    arguments parse
  else if named && (← sees (seesGroup .paren)) then arguments parse

/-- Calls, fields, indices and question marks. -/
def suffixes (form : Form) : Grammar Form :=
  iterate (fun (form : Form) => do
    let tokens ← tokens
    if seesGroup .paren tokens then
      arguments parse
      return .inl .plain
    else if seesGroup .bracket tokens then
      inside .bracket (expression parse)
      return .inl .plain
    else if form = .range then return .inr form
    else if seesField tokens then
      signs "."
      match (← Grammar.tokens) with
      | .leaf (.literal (.float text)) _ :: _ =>
        let _ ← literal
        match positions text with
        | .none => fail
        | .all => pure ()
        | .unfinished => member parse
      | _ => member parse
      return .inl .plain
    else if seesSigns "?" tokens then
      signs "?"
      return .inl .plain
    else return .inr form) form

/-! ### Blocks and loops -/

/-- An expression after which a brace starts a block. -/
def condition : Grammar Unit := do
  let _ ← parse (.expression false)

def conditional : Grammar Unit :=
  iterate (fun _ => do
    word "if"
    condition parse
    block parse
    if ← word? "else" then
      if ← sees (seesWord "if") then return .inl ()
      block parse
    return .inr ()) ()

/-- Loops, and blocks that can have a label. -/
def labelled : Grammar Unit := do
  if ← word? "while" then condition parse
  else if ← word? "for" then
    anyPattern parse
    word "in"
    condition parse
  else
    let _ ← word? "loop"
  let _ ← attributedBlock parse

/-- An arm of a `match`. Only one whose body is a block can lack a comma before the next. -/
def arm : Grammar Unit := do
  skipAttributes parse
  anyPattern parse
  if ← word? "if" then expression parse
  signs "=>"
  let form ← parse .bounded
  if !(← signs? ",") then require (form = .block || (← sees seesEnd))

def selection : Grammar Unit := do
  word "match"
  condition parse
  inside .brace do
    let _ ← innerAttributes parse
    repeatWhile (!seesEnd ·) (arm parse)

/-- The lifetimes of a closure, where a loop could start as well. -/
def seesClosureLifetimes : Sight := fun tokens =>
  seesWord "for" tokens && seesSigns "<" (tokens.drop 1) &&
    (seesLifetime (tokens.drop 2) || seesSigns ">" (tokens.drop 2))

/-- An expression that ends in a block, if there is one. -/
def blockLike? : Grammar Bool := do
  let tokens ← tokens
  let seesBlockAfter (name : String) : Bool :=
    seesWord name tokens && seesGroup .brace (tokens.drop 1)
  if seesWord "if" tokens then conditional parse
  else if seesWord "match" tokens then selection parse
  else if seesAnyWord ["while", "loop"] tokens || seesGroup .brace tokens ||
      (seesWord "for" tokens && !seesClosureLifetimes tokens) then
    labelled parse
  else if seesLabel tokens then
    lifetime
    signs ":"
    labelled parse
  else if seesBlockAfter "try" then
    word "try"
    block parse
  else if seesWord "unsafe" tokens || seesBlockAfter "const" then
    someWord
    let _ ← attributedBlock parse
  else return false
  return true

def boundedProduction : Grammar Form := do
  skipAttributes parse
  if ← blockLike? parse then
    if (← sees seesField) || (← sees (seesSigns "?")) then
      expressionFrom parse true (← suffixes parse .plain)
    else return .block
  else expressionFrom parse true (← parse (.operand true))

/-! ### Closures -/

def seesClosure : Sight := fun tokens =>
  let after := tokens.drop 1
  seesSigns "|" tokens || seesAnyWord ["move", "static"] tokens || seesClosureLifetimes tokens ||
    (seesWord "const" tokens && !seesGroup .brace after) ||
    (seesWord "async" tokens && (seesSigns "|" after || seesWord "move" after))

def closure (structs : Bool) : Grammar Unit := do
  let _ ← forLifetimes? parse
  for name in ["const", "static", "async", "move"] do
    let _ ← word? name
  signs "|"
  separated "," (seesSigns "|") do
    skipAttributes parse
    let _ ← parse .pattern
    if ← signs? ":" then type parse true
  signs "|"
  if ← signs? "->" then
    type parse true
    block parse
  else
    let _ ← parse (.expression structs)

/-! ### Operands -/

/-- Whether an expression can start here, where it can be left out. -/
def seesExpression : Sight := fun tokens =>
  (seesSomeWord tokens && !seesWord "as" tokens) ||
    seesGroup .paren tokens || seesGroup .bracket tokens || seesGroup .brace tokens ||
    seesLiteral tokens || seesLifetime tokens ||
    (seesSigns "!" tokens && !seesSigns "!=" tokens) ||
    (seesSigns "-" tokens && !seesAnySigns ["-=", "->"] tokens) ||
    (seesSigns "*" tokens && !seesSigns "*=" tokens) ||
    (seesSigns "|" tokens && !seesSigns "|=" tokens) ||
    (seesSigns "&" tokens && !seesSigns "&=" tokens) ||
    (seesSigns "<" tokens && !seesAnySigns ["<=", "<<="] tokens) ||
    seesAnySigns ["..", "::", "#"] tokens

def structFields : Grammar Unit :=
  inside .brace <| commaSeparated do
    if ← signs? ".." then
      if !(← sees seesEnd) then expression parse
      require (← sees seesEnd)
    else
      skipAttributes parse
      let named ← field
      if !named || (← sees (seesSigns ":")) then
        signs ":"
        expression parse

/-- A path, a macro call or a struct literal. -/
def pathExpression (structs : Bool) : Grammar Unit := do
  let shape ← qualifiedPath parse true
  let tokens ← tokens
  if !shape.qualified && shape.bare && seesSigns "!" tokens && !seesSigns "!=" tokens then
    signs "!"
    let _ ← someGroup
  else if structs && seesGroup .brace tokens then structFields parse

/-- An expression in parentheses, whose form it keeps, or a tuple. -/
def parenthesized : Grammar Form := inside .paren do
  if ← sees seesEnd then return .plain
  let form ← parse (.expression true)
  if ← signs? "," then
    commaSeparated (expression parse)
    return .plain
  return match form with
    | .text value => .text value
    | _ => .plain

def array : Grammar Unit := inside .bracket do
  if ← sees seesEnd then return
  expression parse
  if ← signs? ";" then expression parse
  else if ← signs? "," then commaSeparated (expression parse)

/-- The label and the value of a `break`. -/
def breakTail (structs : Bool) : Grammar Unit := do
  require !(← sees seesLabel)
  lifetime?
  if (← sees seesExpression) && (structs || !(← sees (seesGroup .brace))) then
    let _ ← parse (.expression structs)

/-- The value of an expression that leaves a function, if there is one. -/
def value? : Grammar Unit := do
  if ← sees seesExpression then expression parse

/-- A test of a pattern. -/
def letTest (structs : Bool) : Grammar Unit := do
  word "let"
  anyPattern parse
  signs "="
  let form ← parse (.operand structs)
  let _ ← operatorsAbove parse structs (some .comparison) form

def seesAsyncBlock : Sight := fun tokens =>
  let after := tokens.drop 1
  seesWord "async" tokens && (seesGroup .brace after ||
    (seesWord "move" after && seesGroup .brace (tokens.drop 2)))

def seesPathExpression : Sight := fun tokens =>
  seesIdentifier tokens || seesAnyWord pathWords tokens || seesAnySigns ["::", "<"] tokens ||
    (seesWord "try" tokens && seesAnySigns ["!", "::"] (tokens.drop 1))

def atom (structs : Bool) : Grammar Form := do
  let tokens ← tokens
  if seesLiteral tokens then
    return match ← literal with
      | some value => .text value
      | none => .plain
  if seesSigns ".." tokens then return ← range parse structs
  if seesGroup .paren tokens then return ← parenthesized parse
  if seesAsyncBlock tokens then
    word "async"
    let _ ← word? "move"
    block parse
  else if ← blockLike? parse then pure ()
  else if seesClosure tokens then closure parse structs
  else if seesWord "builtin" tokens && seesSigns "#" (tokens.drop 1) then
    word "builtin"
    signs "#"
    let _ ← identifier
    require ((← someGroup) = .paren)
  else if seesPathExpression tokens then pathExpression parse structs
  else if seesGroup .bracket tokens then array parse
  else if seesWord "let" tokens then letTest parse structs
  else if ← word? "break" then breakTail parse structs
  else if ← word? "continue" then lifetime?
  else if (← word? "return") || (← word? "yield") then value? parse
  else if ← word? "become" then expression parse
  else word "_"
  return .plain

def operandProduction (structs : Bool) : Grammar Form := do
  let attributes ← outerAttributes parse
  let tokens ← tokens
  if seesSigns "&" tokens then
    signs "&"
    let raw := seesWord "raw" (tokens.drop 1) && seesAnyWord ["mut", "const"] (tokens.drop 2)
    if raw then
      word "raw"
      if !(← word? "mut") then word "const"
    else
      let _ ← word? "mut"
    let _ ← parse (.operand structs)
    return .plain
  if seesAnySigns ["*", "!", "-"] tokens then
    let _ ← take fun
      | .leaf (.punct _ _) _ => some ()
      | _ => none
    let _ ← parse (.operand structs)
    return .plain
  let form ← suffixes parse (← atom parse structs)
  require (attributes.isEmpty || form ≠ .range)
  return form

def expressionProduction (structs : Bool) : Grammar Form := do
  expressionFrom parse structs (← parse (.operand structs))

end ApiScribe.Rust.Grammar
