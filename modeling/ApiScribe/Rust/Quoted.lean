import ApiScribe.Text.Identifier

/-!
# Quoted literals

The body of a string literal ends at the first quote that is not escaped, and that of a raw string
at the first quote that is followed by enough hash signs.
-/

namespace ApiScribe.Rust

/-- What the body of a literal may hold besides plain ASCII. -/
structure Alphabet where
  /-- Escapes by code point. -/
  unicodeEscapes : Bool
  /-- Escapes of bytes from `80` to `FF`. -/
  highBytes : Bool
  nonAscii : Bool
  nul : Bool

def Alphabet.text : Alphabet :=
  { unicodeEscapes := true, highBytes := false, nonAscii := true, nul := true }

def Alphabet.bytes : Alphabet :=
  { unicodeEscapes := false, highBytes := true, nonAscii := false, nul := true }

/-- The alphabet of strings that end in a zero byte, which they cannot hold. -/
def Alphabet.terminated : Alphabet :=
  { unicodeEscapes := true, highBytes := true, nonAscii := true, nul := false }

def Alphabet.allows (alphabet : Alphabet) (c : Char) : Bool :=
  (alphabet.nonAscii || c.toNat < 0x80) && (alphabet.nul || c ≠ '\x00')

/-! ### Escapes -/

def hexValue? (c : Char) : Option Nat :=
  if c.isDigit then some (c.toNat - '0'.toNat)
  else if 'a' ≤ c ∧ c ≤ 'f' then some (c.toNat - 'a'.toNat + 10)
  else if 'A' ≤ c ∧ c ≤ 'F' then some (c.toNat - 'A'.toNat + 10)
  else none

/-- The character of an escape by one letter or sign. -/
def simpleEscape? (alphabet : Alphabet) : Char → Option Char
  | 'n' => some '\n'
  | 'r' => some '\r'
  | 't' => some '\t'
  | '\\' => some '\\'
  | '\'' => some '\''
  | '"' => some '"'
  | '0' => if alphabet.nul then some '\x00' else none
  | _ => none

def byteEscape? (alphabet : Alphabet) (high low : Char) : Option Char := do
  let value := 16 * (← hexValue? high) + (← hexValue? low)
  if (0x7F < value && !alphabet.highBytes) || (value = 0 && !alphabet.nul) then none
  else some (.ofNat value)

def codePoint? (alphabet : Alphabet) (value : Nat) : Option Char :=
  if value.isValidChar && (alphabet.nul || value ≠ 0) then some (.ofNat value) else none

/-- Where in a literal a character stands. -/
inductive Mode where
  /-- In the text, right after an escaped line break if `skipping` the blanks that follow it. -/
  | text (skipping : Bool)
  /-- Among the digits of an escape by code point. -/
  | codePoint (value digits : Nat)

/-- The text that the body of a literal stands for. -/
def unescape (alphabet : Alphabet) : Mode → List Char → Option (List Char)
  | .text _, [] => some []
  | .text _, '\\' :: 'x' :: high :: low :: cs => do
    let c ← byteEscape? alphabet high low
    return c :: (← unescape alphabet (.text false) cs)
  | .text _, '\\' :: 'u' :: '\x7b' :: cs =>
    if alphabet.unicodeEscapes then unescape alphabet (.codePoint 0 0) cs else none
  | .text _, '\\' :: '\n' :: cs => unescape alphabet (.text true) cs
  | .text _, '\\' :: '\r' :: '\n' :: cs => unescape alphabet (.text true) cs
  | .text _, '\\' :: c :: cs => do
    let c ← simpleEscape? alphabet c
    return c :: (← unescape alphabet (.text false) cs)
  | .text skipping, '\r' :: '\n' :: cs =>
    if skipping then unescape alphabet (.text true) cs
    else (unescape alphabet (.text false) cs).map ('\n' :: ·)
  | .text skipping, c :: cs =>
    if skipping ∧ (c = ' ' ∨ c = '\t' ∨ c = '\n') then unescape alphabet (.text true) cs
    else if c = '\\' ∨ c = '\r' ∨ !alphabet.allows c then none
    else (unescape alphabet (.text false) cs).map (c :: ·)
  | .codePoint _ _, [] => none
  | .codePoint value digits, c :: cs =>
    if c = '\x7d' then do
      if digits = 0 then none
      let c ← codePoint? alphabet value
      return c :: (← unescape alphabet (.text false) cs)
    else if c = '_' then
      if digits = 0 then none else unescape alphabet (.codePoint value digits) cs
    else do
      if digits = 6 then none
      unescape alphabet (.codePoint (16 * value + (← hexValue? c)) (digits + 1)) cs

def unescaped? (alphabet : Alphabet) (body : List Char) : Option (List Char) :=
  unescape alphabet (.text false) body

/-! ### Bodies -/

/-- The characters up to a quote that is not escaped, and those after it. -/
def quotedBody? : List Char → Option (List Char × List Char)
  | [] => none
  | '"' :: cs => some ([], cs)
  | '\\' :: c :: cs => do
    let (body, rest) ← quotedBody? cs
    return ('\\' :: c :: body, rest)
  | c :: cs => do
    let (body, rest) ← quotedBody? cs
    return (c :: body, rest)

/-- The characters up to a quote with the given number of hash signs, and those after it. -/
def rawBody? (hashes : Nat) : List Char → Option (List Char × List Char)
  | [] => none
  | '\r' :: '\n' :: cs => do
    let (body, rest) ← rawBody? hashes cs
    return ('\r' :: '\n' :: body, rest)
  | c :: cs =>
    if c = '"' ∧ cs.take hashes = List.replicate hashes '#' then some ([], cs.drop hashes)
    else if c = '\r' then none
    else do
      let (body, rest) ← rawBody? hashes cs
      return (c :: body, rest)

end ApiScribe.Rust
