import ApiScribe.Rust.Quoted
import ApiScribe.Rust.Token

/-!
# Literals

Each function reads a literal at the start of a text.
-/

namespace ApiScribe.Rust

open Text (isIdentifierStart isIdentifierContinue)

/-- What was read, the number of line breaks in it, and the text after it. -/
structure Lexeme (α : Type) where
  value : α
  breaks : Nat
  rest : List Char

def isWordStart (c : Char) : Bool := c = '_' || isIdentifierStart c

/-- An identifier or keyword at the start of a text. -/
def word? : List Char → Option (List Char × List Char)
  | [] => none
  | c :: cs =>
    if isWordStart c then some (c :: cs.takeWhile isIdentifierContinue,
      cs.dropWhile isIdentifierContinue)
    else none

/-- The suffix that any literal may have, and the text after it. -/
def splitSuffix (cs : List Char) : List Char × List Char := (word? cs).getD ([], cs)

/-! ### Strings -/

def string? (alphabet : Alphabet) (literal : String → Literal) (cs : List Char) :
    Option (Lexeme Literal) := do
  let (body, rest) ← quotedBody? cs
  let text ← unescaped? alphabet body
  return ⟨literal (.ofList text), body.count '\n', (splitSuffix rest).2⟩

/-- A raw string from its hash signs on, of which there are at most 255. -/
def rawString? (alphabet : Alphabet) (literal : String → Literal) (cs : List Char) :
    Option (Lexeme Literal) :=
  let hashes := (cs.takeWhile (· = '#')).length
  match cs.drop hashes with
  | '"' :: cs => do
    if 255 < hashes then none
    let (body, rest) ← rawBody? hashes cs
    if !body.all alphabet.allows then none
    return ⟨literal (.ofList body), body.count '\n', (splitSuffix rest).2⟩
  | _ => none

/-! ### Characters -/

/-- A character or byte from its opening quote on. -/
def character? (alphabet : Alphabet) : List Char → Option (Lexeme Literal)
  | '\\' :: c :: cs => do
    if c = '\n' ∨ c = '\r' then none
    let text ← unescaped? alphabet ('\\' :: c :: cs.takeWhile (· ≠ '\''))
    match text, cs.dropWhile (· ≠ '\'') with
    | [_], _ :: rest => return ⟨.other, 0, (splitSuffix rest).2⟩
    | _, _ => none
  | c :: '\'' :: rest =>
    if c = '\\' ∨ !alphabet.allows c then none
    else some ⟨.other, if c = '\n' then 1 else 0, (splitSuffix rest).2⟩
  | _ => none

/-! ### Numbers -/

/-- The digits after the mark of an exponent, among which a sign may stand before the first. -/
def exponent? : (signed valued : Bool) → List Char → Option (List Char × List Char)
  | signed, valued, c :: cs =>
    let further (signed valued : Bool) :=
      (exponent? signed valued cs).map fun (digits, rest) => (c :: digits, rest)
    if c.isDigit then further signed true
    else if c = '_' then further signed valued
    else if (c = '+' ∨ c = '-') ∧ !valued then
      if signed then none else further true valued
    else if valued then some ([], c :: cs) else none
  | _, valued, [] => if valued then some ([], []) else none

def isDecimal (c : Char) : Bool := c.isDigit || c = '_'

/-- A number with a point or an exponent, without its suffix. -/
def floatDigits? (cs : List Char) : Option (List Char × List Char) :=
  let whole := cs.takeWhile isDecimal
  match cs.dropWhile isDecimal with
  | '.' :: cs =>
    if cs.head?.any fun c => c = '.' || isWordStart c then none
    else
      let mantissa := whole ++ '.' :: cs.takeWhile isDecimal
      match cs.dropWhile isDecimal with
      | e :: after =>
        if e = 'e' ∨ e = 'E' then
          match exponent? false false after with
          | some (digits, rest) => some (mantissa ++ e :: digits, rest)
          | none => some (mantissa, e :: after)
        else some (mantissa, e :: after)
      | [] => some (mantissa, [])
  | e :: after =>
    if e = 'e' ∨ e = 'E' then
      (exponent? false false after).map fun (digits, rest) => (whole ++ e :: digits, rest)
    else none
  | [] => none

/-- The value of the digits of an integer, none of which is too great for its radix, and the text
after them. The first value is that of the digits before, if there are any. -/
def digits? (radix : Nat) : Option Nat → List Char → Option (Nat × List Char)
  | value?, [] => value?.map (·, [])
  | value?, c :: cs =>
    match hexValue? c with
    | some digit =>
      if digit < radix then digits? radix (some (value?.getD 0 * radix + digit)) cs
      else if c.isDigit then none
      else value?.map (·, c :: cs)
    | none =>
      if c = '_' then digits? radix value? cs
      else value?.map (·, c :: cs)

/-- An integer without its suffix. -/
def integer? : List Char → Option (Nat × List Char)
  | '0' :: 'x' :: cs => digits? 16 none cs
  | '0' :: 'o' :: cs => digits? 8 none cs
  | '0' :: 'b' :: cs => digits? 2 none cs
  | cs => digits? 10 none cs

/-- A number from its first digit on. -/
def number? (cs : List Char) : Option (Lexeme Literal) := do
  let (literal, rest) ←
    match floatDigits? cs with
    | some (digits, rest) =>
      let (suffix, rest) := splitSuffix rest
      pure (Literal.float (.ofList (digits ++ suffix)), rest)
    | none => do
      let (value, rest) ← integer? cs
      let (suffix, rest) := splitSuffix rest
      pure (Literal.integer value (!suffix.isEmpty), rest)
  if rest.head?.any isIdentifierContinue then none
  return ⟨literal, 0, rest⟩

/-! ### Any literal -/

/-- The text that stands for a literal that could not be read. -/
def errorMark : List Char := "(/*ERROR*/)".toList

def literal? : List Char → Option (Lexeme Literal)
  | '"' :: cs => string? .text .string cs
  | 'r' :: cs => rawString? .text .string cs
  | 'b' :: '"' :: cs => string? .bytes (fun _ => .other) cs
  | 'b' :: 'r' :: cs => rawString? .bytes (fun _ => .other) cs
  | 'b' :: '\'' :: cs => character? .bytes cs
  | 'c' :: '"' :: cs => string? .terminated (fun _ => .other) cs
  | 'c' :: 'r' :: cs => rawString? .terminated (fun _ => .other) cs
  | '\'' :: cs => character? .text cs
  | '(' :: cs =>
    if errorMark.isPrefixOf ('(' :: cs) then some ⟨.other, 0, ('(' :: cs).drop errorMark.length⟩
    else none
  | c :: cs => if c.isDigit then number? (c :: cs) else none
  | [] => none

end ApiScribe.Rust
