import ApiScribe.Decimal.Layout
import ApiScribe.Json.Basic

/-!
# JSON text

A value is written compactly, or over several lines with an indent of two spaces. Only quotes,
backslashes and the control characters below U+0020 are escaped in strings.
-/

namespace ApiScribe.Json

/-- Doubles have the sign of a positive exponent written out. -/
def doubleLayout : Decimal.Layout := { plusSign := true }

def integerChars (value : Int) : List Char :=
  if value < 0 then '-' :: Nat.toDigits 10 value.natAbs else Nat.toDigits 10 value.natAbs

def Number.chars : Number → List Char
  | .integer value => integerChars value
  | .double value => doubleLayout.write value

/-! ### Strings -/

def hexDigit (n : Nat) : Char := (Nat.digitChar (n % 16))

/-- The characters a character of a string is written with. -/
def escape (c : Char) : List Char :=
  if c = '"' then ['\\', '"']
  else if c = '\\' then ['\\', '\\']
  else if c = '\x08' then ['\\', 'b']
  else if c = '\x0c' then ['\\', 'f']
  else if c = '\n' then ['\\', 'n']
  else if c = '\r' then ['\\', 'r']
  else if c = '\t' then ['\\', 't']
  else if c.toNat < 0x20 then ['\\', 'u', '0', '0', hexDigit (c.toNat / 16), hexDigit c.toNat]
  else [c]

def quoted (s : String) : List Char := '"' :: s.toList.flatMap escape ++ ['"']

/-! ### Compact text -/

mutual
def compactChars : Json → List Char
  | .null => "null".toList
  | .bool true => "true".toList
  | .bool false => "false".toList
  | .number n => n.chars
  | .string s => quoted s
  | .array [] => ['[', ']']
  | .array (item :: items) => '[' :: compactChars item ++ compactItems items
  | .object ⟨[]⟩ => ['\x7b', '\x7d']
  | .object ⟨(key, value) :: fields⟩ =>
    '\x7b' :: quoted key ++ ':' :: compactChars value ++ compactFields fields

/-- The items after the first one, and the closing bracket. -/
def compactItems : List Json → List Char
  | [] => [']']
  | item :: items => ',' :: compactChars item ++ compactItems items

/-- The fields after the first one, and the closing brace. -/
def compactFields : List (String × Json) → List Char
  | [] => ['\x7d']
  | (key, value) :: fields =>
    ',' :: quoted key ++ ':' :: compactChars value ++ compactFields fields
end

def compact (json : Json) : String := .ofList json.compactChars

/-! ### Text over several lines -/

/-- A line break with the indent of a nesting depth. -/
def newline (depth : Nat) : List Char := '\n' :: List.replicate (2 * depth) ' '

mutual
def prettyChars (depth : Nat) : Json → List Char
  | .null => "null".toList
  | .bool true => "true".toList
  | .bool false => "false".toList
  | .number n => n.chars
  | .string s => quoted s
  | .array [] => ['[', ']']
  | .array (item :: items) =>
    '[' :: newline (depth + 1) ++ prettyChars (depth + 1) item ++ prettyItems depth items
  | .object ⟨[]⟩ => ['\x7b', '\x7d']
  | .object ⟨(key, value) :: fields⟩ =>
    '\x7b' :: newline (depth + 1) ++ quoted key ++ ':' :: ' ' ::
      prettyChars (depth + 1) value ++ prettyFields depth fields

/-- The items after the first one, and the closing bracket on a line of its own. -/
def prettyItems (depth : Nat) : List Json → List Char
  | [] => newline depth ++ [']']
  | item :: items =>
    ',' :: newline (depth + 1) ++ prettyChars (depth + 1) item ++ prettyItems depth items

/-- The fields after the first one, and the closing brace on a line of its own. -/
def prettyFields (depth : Nat) : List (String × Json) → List Char
  | [] => newline depth ++ ['\x7d']
  | (key, value) :: fields =>
    ',' :: newline (depth + 1) ++ quoted key ++ ':' :: ' ' ::
      prettyChars (depth + 1) value ++ prettyFields depth fields
end

def pretty (json : Json) : String := .ofList (json.prettyChars 0)

end ApiScribe.Json
