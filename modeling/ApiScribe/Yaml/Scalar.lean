import ApiScribe.Yaml.Resolve

/-!
# Scalars

A text is written plainly where nothing else could be read from it, as a literal block if it has
several lines, and otherwise between quotes.
-/

namespace ApiScribe.Yaml

inductive Style where
  | plain
  | singleQuoted
  | doubleQuoted
  | literal
deriving DecidableEq, Repr

/-! ### Characters -/

def isBreak (c : Char) : Bool :=
  c = '\n' || c = '\r' || c = '\u0085' || c = '\u2028' || c = '\u2029'

/-- Characters that need no escape. -/
def isPrintable (c : Char) : Bool :=
  c = '\n' || (' ' ≤ c && c ≤ '~') ||
    (0xA0 ≤ c.toNat && c.toNat ≠ 0xFEFF && c.toNat ≠ 0xFFFE && c.toNat ≠ 0xFFFF)

/-- The end of the text counts as a blank, which is `none` here. -/
def isBlankOrEnd : Option Char → Bool
  | none => true
  | some c => c = ' ' || c = '\t' || isBreak c

/-- Characters that cannot start a plain scalar, whatever follows them. -/
def isIndicator (c : Char) : Bool := "#,[]\x7b\x7d&*!|>'\"%@\x60".toList.contains c

/-! ### What a text rules out -/

def startsAsIndicator : List Char → Bool
  | '-' :: '-' :: '-' :: _ => true
  | '.' :: '.' :: '.' :: _ => true
  | c :: cs => isIndicator c || ((c = '?' || c = ':' || c = '-') && isBlankOrEnd cs.head?)
  | [] => false

/-- A colon before a blank ends a key, and a hash sign after a blank starts a comment. -/
def hasIndicatorAfter : Char → List Char → Bool
  | _, [] => false
  | before, c :: cs =>
    (c = ':' && isBlankOrEnd cs.head?) || (c = '#' && isBlankOrEnd (some before)) ||
      hasIndicatorAfter c cs

def hasIndicator : List Char → Bool
  | [] => false
  | c :: cs => startsAsIndicator (c :: cs) || hasIndicatorAfter c cs

def hasSpaceBeforeBreak : List Char → Bool
  | ' ' :: c :: cs => isBreak c || hasSpaceBeforeBreak (c :: cs)
  | _ :: cs => hasSpaceBeforeBreak cs
  | [] => false

def hasSpaceAfterBreak : List Char → Bool
  | b :: c :: cs => (isBreak b && c = ' ') || hasSpaceAfterBreak (c :: cs)
  | _ => false

def allowsPlain (cs : List Char) : Bool :=
  !hasIndicator cs && cs.all (fun c => isPrintable c && !isBreak c) &&
    cs.head? ≠ some ' ' && cs.getLast? ≠ some ' '

def allowsSingleQuoted (cs : List Char) : Bool :=
  cs.all isPrintable && !hasSpaceBeforeBreak cs && !hasSpaceAfterBreak cs

def allowsLiteral (cs : List Char) : Bool :=
  cs.all isPrintable && !hasSpaceBeforeBreak cs && cs.getLast? ≠ some ' '

/-- The style a string is written in. -/
def Style.ofString (s : String) : Style :=
  let cs := s.toList
  if cs.contains '\n' then
    if allowsLiteral cs then .literal else .doubleQuoted
  else if !isResolved s && allowsPlain cs then .plain
  else if allowsSingleQuoted cs then .singleQuoted
  else .doubleQuoted

/-! ### Text -/

/-- Writes a margin before the first character of each line but the first, which has one if
`fresh`. -/
def indentLines (margin : List Char) : (fresh : Bool) → List Char → List Char
  | _, [] => []
  | fresh, c :: cs =>
    if isBreak c then c :: indentLines margin true cs
    else if fresh then margin ++ c :: indentLines margin false cs
    else c :: indentLines margin false cs

def endsInBreak (cs : List Char) : Bool := cs.getLast?.any isBreak

def singleQuotedChars (margin cs : List Char) : List Char :=
  let quoted := cs.flatMap fun c => if c = '\'' then ['\'', '\''] else [c]
  let closing := if endsInBreak cs then margin else []
  '\'' :: indentLines margin false quoted ++ closing ++ ['\'']

/-- The lowest hexadecimal digits of a number, in upper case. -/
def hexChars : (width n : Nat) → List Char
  | 0, _ => []
  | width + 1, n => hexChars width (n / 16) ++ [(Nat.digitChar (n % 16)).toUpper]

/-- Escapes that have a letter of their own. -/
def escapeLetter? (c : Char) : Option Char :=
  match c.toNat with
  | 0x00 => some '0'
  | 0x07 => some 'a'
  | 0x08 => some 'b'
  | 0x09 => some 't'
  | 0x0A => some 'n'
  | 0x0B => some 'v'
  | 0x0C => some 'f'
  | 0x0D => some 'r'
  | 0x1B => some 'e'
  | 0x22 => some '"'
  | 0x5C => some '\\'
  | 0x85 => some 'N'
  | 0x2028 => some 'L'
  | 0x2029 => some 'P'
  | _ => none

def escapeChars (c : Char) : List Char :=
  match escapeLetter? c with
  | some letter => ['\\', letter]
  | none =>
    if c.toNat ≤ 0xFF then '\\' :: 'x' :: hexChars 2 c.toNat
    else if c.toNat ≤ 0xFFFF then '\\' :: 'u' :: hexChars 4 c.toNat
    else '\\' :: 'U' :: hexChars 8 c.toNat

def doubleQuotedChars (cs : List Char) : List Char :=
  let escaped := cs.flatMap fun c =>
    if !isPrintable c || isBreak c || c = '"' || c = '\\' then escapeChars c else [c]
  '"' :: escaped ++ ['"']

/-- How the line breaks at the end of a literal block are to be read: none, one, or as they are. -/
def chomping (cs : List Char) : List Char :=
  match cs.reverse with
  | [] => ['-']
  | c :: rest =>
    if !isBreak c then ['-']
    else if rest.isEmpty || rest.head?.any isBreak then ['+']
    else []

/-- A literal block names its indent if its first character is a space or a break. -/
def indentHint (cs : List Char) : List Char :=
  if cs.head?.any fun c => c = ' ' || isBreak c then ['2'] else []

def literalChars (margin cs : List Char) : List Char :=
  '|' :: indentHint cs ++ chomping cs ++ '\n' :: indentLines margin true cs

/-- The text of a string whose lines after the first one start with `margin`. -/
def scalarChars (margin : List Char) (s : String) : List Char :=
  match Style.ofString s with
  | .plain => s.toList
  | .singleQuoted => singleQuotedChars margin s.toList
  | .doubleQuoted => doubleQuotedChars s.toList
  | .literal => literalChars margin s.toList

end ApiScribe.Yaml
