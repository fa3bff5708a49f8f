/-!
# Faults in JSON text

What can be wrong with a text that should be JSON, and where.
-/

namespace ApiScribe.Json

/-- A place in a text: lines count from one, and the column is the number of bytes before it. -/
structure Position where
  line : Nat := 1
  column : Nat := 0
deriving Repr, DecidableEq

namespace Position

/-- The position after the characters that fill `count` bytes of one line. -/
def skip (p : Position) (count : Nat) : Position := { p with column := p.column + count }

def advance (p : Position) (c : Char) : Position :=
  if c = '\n' then { line := p.line + 1, column := 0 } else p.skip c.utf8Size

/-- The position after the first byte of a character. -/
def bump (p : Position) (c : Char) : Position :=
  if c = '\n' then { line := p.line + 1, column := 0 } else p.skip 1

def advanceAll (p : Position) (cs : List Char) : Position := cs.foldl advance p

/-- The position after so many bytes of the characters. -/
def advanceBytes (p : Position) : Nat → List Char → Position
  | 0, _ => p
  | _, [] => p
  | count, c :: cs =>
    if count < c.utf8Size then p.skip count
    else advanceBytes (p.advance c) (count - c.utf8Size) cs

end Position

inductive Cause where
  | endOfValue
  | endInNumber
  | endInWord
  | endAfterComma
  | endOfList
  | endOfObject
  | endOfString
  | expectedColon
  | expectedListEnd
  | expectedObjectEnd
  | expectedWord
  | expectedValue
  | invalidEscape
  | invalidNumber
  | numberOutOfRange
  | controlCharacter
  | labelNotString
  | loneSurrogate
  | unpairedSurrogate
  | trailingComma
  | trailingCharacters
  | nestingTooDeep
  | notAnObject (found : String)
deriving Repr, DecidableEq

namespace Cause

def message : Cause → String
  | endOfValue | endInNumber | endInWord | endAfterComma => "EOF while parsing a value"
  | endOfList => "EOF while parsing a list"
  | endOfObject => "EOF while parsing an object"
  | endOfString => "EOF while parsing a string"
  | expectedColon => "expected `:`"
  | expectedListEnd => "expected `,` or `]`"
  | expectedObjectEnd => "expected `,` or `\x7d`"
  | expectedWord => "expected ident"
  | expectedValue => "expected value"
  | invalidEscape => "invalid escape"
  | invalidNumber => "invalid number"
  | numberOutOfRange => "number out of range"
  | controlCharacter => "control character (\\u0000-\\u001F) found while parsing a string"
  | labelNotString => "key must be a string"
  | loneSurrogate => "lone leading surrogate in hex escape"
  | unpairedSurrogate => "unexpected end of hex escape"
  | trailingComma => "trailing comma"
  | trailingCharacters => "trailing characters"
  | nestingTooDeep => "recursion limit exceeded"
  | notAnObject found => "invalid type: " ++ found ++ ", expected a map"

/-- Whether the text ended too early. -/
def isEnd : Cause → Bool
  | endOfValue | endInNumber | endInWord | endAfterComma => true
  | endOfList | endOfObject | endOfString => true
  | _ => false

end Cause

structure Fault where
  cause : Cause
  position : Position
deriving Repr, DecidableEq

def Fault.message (f : Fault) : String :=
  f.cause.message ++ " at line " ++ toString f.position.line ++ " column " ++
    toString f.position.column

end ApiScribe.Json
