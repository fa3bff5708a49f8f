import ApiScribe.Json.Numeral

/-!
# Tokens of JSON text

A text is cut into tokens without regard to where they stand. A scalar token already holds its
tree, faulty or not; after a token that breaks off there are no more tokens.
-/

namespace ApiScribe.Json

inductive Token where
  | openBrace
  | closeBrace
  | openBracket
  | closeBracket
  | comma
  | colon
  /-- A string. -/
  | text (tree : Tree)
  /-- A number or a word. -/
  | literal (tree : Tree)
  /-- A character that starts no token. -/
  | stray

structure Located where
  token : Token
  start : Position
  stop : Position

/-- The position of a reader that has looked at the token. -/
def Located.seen (t : Located) : Position := t.start.skip 1

namespace Token

def isSpace (c : Char) : Bool := c = ' ' || c = '\n' || c = '\t' || c = '\r'

/-! ### Words -/

/-- A token with the position after it and the rest of the text. A token that breaks off has an
empty rest. -/
structure Scan where
  token : Token
  stop : Position
  rest : List Char

/-- The rest of a word of which the first letter has been seen. -/
def scanWord (value : Tree) (p : Position) : List Char → List Char → Scan
  | [], cs => { token := .literal value, stop := p, rest := cs }
  | _ :: _, [] =>
    { token := .literal (.broken { cause := .endInWord, position := p }), stop := p, rest := [] }
  | letter :: letters, c :: cs =>
    if c = letter then scanWord value (p.skip 1) letters cs
    else
      let position := p.bump c
      { token := .literal (.broken { cause := .expectedWord, position }), stop := position,
        rest := [] }

/-! ### Strings -/

/-- What has been read of a string. -/
structure Content where
  /-- The characters, last first. -/
  chars : List Char := []
  /-- A leading surrogate whose other half must follow. -/
  lead : Option Nat := none
  /-- The first fault that matters only if the string is kept. -/
  flaw : Option Fault := none

namespace Content

def push (content : Content) (c : Char) : Content :=
  { content with chars := c :: content.chars }

def refuse (content : Content) (cause : Cause) (position : Position) : Content :=
  { content with lead := none, flaw := content.flaw.or (some { cause, position }) }

/-- Anything but another code unit ends the wait for the second half of a pair. -/
def unpaired (content : Content) (position : Position) : Content :=
  if content.lead.isSome then content.refuse .unpairedSurrogate position else content

def isTrailing (unit : Nat) : Bool := 0xDC00 ≤ unit && unit ≤ 0xDFFF

def isLeading (unit : Nat) : Bool := 0xD800 ≤ unit && unit ≤ 0xDBFF

/-- Take the code unit of an escape that ends at the position. -/
def takeUnit (content : Content) (unit : Nat) (position : Position) : Content :=
  match content.lead with
  | some lead =>
    if isTrailing unit then
      { content with lead := none }.push
        (.ofNat (0x10000 + (lead - 0xD800) * 0x400 + (unit - 0xDC00)))
    else content.refuse .loneSurrogate position
  | none =>
    if isTrailing unit then content.refuse .loneSurrogate position
    else if isLeading unit then { content with lead := some unit }
    else content.push (.ofNat unit)

def tree (content : Content) : Tree :=
  .guardWith content.flaw (.string (.ofList content.chars.reverse))

end Content

def hexValue? (c : Char) : Option Nat :=
  if '0' ≤ c ∧ c ≤ '9' then some (c.toNat - '0'.toNat)
  else if 'a' ≤ c ∧ c ≤ 'f' then some (c.toNat - 'a'.toNat + 10)
  else if 'A' ≤ c ∧ c ≤ 'F' then some (c.toNat - 'A'.toNat + 10)
  else none

/-- The code unit of four hexadecimal digits. -/
def unit? (a b c d : Char) : Option Nat := do
  let a ← hexValue? a
  let b ← hexValue? b
  let c ← hexValue? c
  let d ← hexValue? d
  return ((a * 16 + b) * 16 + c) * 16 + d

/-- The character of an escape of one letter. -/
def shortEscape? : Char → Option Char
  | '"' => some '"'
  | '\\' => some '\\'
  | '/' => some '/'
  | 'b' => some '\x08'
  | 'f' => some '\x0c'
  | 'n' => some '\n'
  | 'r' => some '\r'
  | 't' => some '\t'
  | _ => none

def brokenString (content : Content) (cause : Cause) (position : Position) : Scan :=
  { token := .text (.guardWith content.flaw (.broken { cause, position })), stop := position,
    rest := [] }

/-- The rest of a string of which the opening quote has been seen. -/
def scanString (content : Content) (p : Position) : List Char → Scan
  | [] => brokenString content .endOfString p
  | ['\\'] => brokenString content .endOfString (p.skip 1)
  | '\\' :: 'u' :: a :: b :: c :: d :: cs =>
    match unit? a b c d with
    | some unit => scanString (content.takeUnit unit (p.skip 6)) (p.skip 6) cs
    | none => brokenString content .invalidEscape ((p.skip 2).advanceBytes 4 [a, b, c, d])
  | '\\' :: 'u' :: cs =>
    if cs.foldl (fun size c => size + c.utf8Size) 0 < 4 then
      brokenString content .endOfString ((p.skip 2).advanceAll cs)
    else brokenString content .invalidEscape ((p.skip 2).advanceBytes 4 cs)
  | '\\' :: c :: cs =>
    let position := (p.skip 1).bump c
    let content := content.unpaired position
    match shortEscape? c with
    | some char => scanString (content.push char) (p.skip 2) cs
    | none => brokenString content .invalidEscape position
  | c :: cs =>
    let content := content.unpaired (p.bump c)
    if c = '"' then { token := .text content.tree, stop := p.skip 1, rest := cs }
    else if c.toNat < 0x20 then brokenString content .controlCharacter (p.bump c)
    else scanString (content.push c) (p.advance c) cs

/-! ### Cutting a text -/

def scanNumeral (p : Position) (cs : List Char) : Scan :=
  let scan := Numeral.scan p cs
  { token := .literal scan.tree, stop := scan.stop, rest := scan.rest }

/-- The token that starts with the character `c`. -/
def scan (p : Position) (c : Char) (cs : List Char) : Scan :=
  let one (token : Token) : Scan := { token, stop := p.skip 1, rest := cs }
  match c with
  | '\x7b' => one .openBrace
  | '\x7d' => one .closeBrace
  | '[' => one .openBracket
  | ']' => one .closeBracket
  | ',' => one .comma
  | ':' => one .colon
  | '"' => scanString {} (p.skip 1) cs
  | 'n' => scanWord .null (p.skip 1) ['u', 'l', 'l'] cs
  | 't' => scanWord (.bool true) (p.skip 1) ['r', 'u', 'e'] cs
  | 'f' => scanWord (.bool false) (p.skip 1) ['a', 'l', 's', 'e'] cs
  | c =>
    if c = '-' ∨ c.isDigit then scanNumeral p (c :: cs)
    else { token := .stray, stop := p.bump c, rest := [] }

/-! ### The rest of the text gets shorter -/

theorem scanWord_rest_length (value : Tree) (p : Position) (letters cs : List Char) :
    (scanWord value p letters cs).rest.length ≤ cs.length := by
  fun_induction scanWord value p letters cs <;> grind

theorem scanString_rest_length (content : Content) (p : Position) (cs : List Char) :
    (scanString content p cs).rest.length ≤ cs.length := by
  fun_induction scanString content p cs <;> simp_all [brokenString] <;> omega

theorem scan_rest_length (p : Position) (c : Char) (cs : List Char) :
    (scan p c cs).rest.length ≤ cs.length := by
  rw [scan.eq_def]
  split
  all_goals first
    | exact Nat.le_refl _
    | exact scanString_rest_length ..
    | exact scanWord_rest_length ..
    | skip
  split
  · exact Numeral.scan_rest_length ..
  · simp

/-- The tokens of a text that starts at the position. -/
def lex (p : Position) : List Char → List Located
  | [] => []
  | c :: cs =>
    if isSpace c then lex (p.advance c) cs
    else
      let next := scan p c cs
      { token := next.token, start := p, stop := next.stop } :: lex next.stop next.rest
termination_by cs => cs.length
decreasing_by
  · simp
  · have := scan_rest_length p c cs
    simp
    omega

end Token

end ApiScribe.Json
