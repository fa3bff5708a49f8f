import ApiScribe.Json.Write
import ApiScribe.Yaml.Scalar

/-!
# YAML text

A value is written in block style with an indent of two spaces. A sequence that is the value of a
key is not indented further than the key, and empty collections are written between brackets.
-/

namespace ApiScribe.Yaml

open ApiScribe (Json)

/-- A positive exponent has no sign. -/
def doubleLayout : Decimal.Layout := { plusSign := false }

def numberChars : Json.Number → List Char
  | .integer value => Json.integerChars value
  | .double value => doubleLayout.write value

def margin (indent : Nat) : List Char := List.replicate indent ' '

/-- Ends a line that does not already end in a break. -/
def closeLine (cs : List Char) : List Char := if endsInBreak cs then cs else cs ++ ['\n']

/-! ### Where a value stands -/

/-- What a value follows on its line: nothing, a marker (`-`, `?`, or the `:` of a long key), or a
key with its colon. -/
inductive Place where
  | document
  | marker
  | key
deriving DecidableEq, Repr

/-- The indent of the items of a sequence whose owner has the given indent. -/
def Place.itemIndent (place : Place) (indent : Nat) : Nat :=
  if place = .marker then indent + 2 else indent

/-- The indent of the entries of a mapping whose owner has the given indent. -/
def Place.entryIndent (place : Place) (indent : Nat) : Nat :=
  if place = .document then indent else indent + 2

/-- What stands before a scalar or an empty collection. -/
def Place.gap (place : Place) : List Char := if place = .document then [] else [' ']

/-- What stands before the first entry of a collection with the given indent. -/
def Place.opening (place : Place) (indent : Nat) : List Char :=
  if place = .key then '\n' :: margin indent else place.gap

/-! ### Keys -/

/-- Whether a key can stand before a colon on one line. -/
def isSimpleKey (key : String) : Bool := !key.toList.any isBreak && key.utf8ByteSize ≤ 128

/-- A key up to its colon. -/
def keyChars (indent : Nat) (key : String) : List Char :=
  let text := scalarChars (margin (indent + 2)) key
  if isSimpleKey key then text ++ [':']
  else '?' :: ' ' :: closeLine text ++ margin indent ++ [':']

def placeAfter (key : String) : Place := if isSimpleKey key then .key else .marker

/-! ### Values -/

mutual
/-- The rest of the line on which a value starts, and its other lines. -/
def nodeChars (place : Place) (indent : Nat) : Json → List Char
  | .null => place.gap ++ "null\n".toList
  | .bool true => place.gap ++ "true\n".toList
  | .bool false => place.gap ++ "false\n".toList
  | .number n => place.gap ++ closeLine (numberChars n)
  | .string s => place.gap ++ closeLine (scalarChars (margin (indent + 2)) s)
  | .array [] => place.gap ++ "[]\n".toList
  | .array (item :: items) =>
    let column := place.itemIndent indent
    place.opening column ++ '-' :: nodeChars .marker column item ++ itemChars column items
  | .object ⟨[]⟩ => place.gap ++ "\x7b\x7d\n".toList
  | .object ⟨(key, value) :: fields⟩ =>
    let column := place.entryIndent indent
    place.opening column ++ keyChars column key ++ nodeChars (placeAfter key) column value ++
      fieldChars column fields

/-- The items of a sequence after the first one. -/
def itemChars (indent : Nat) : List Json → List Char
  | [] => []
  | item :: items => margin indent ++ '-' :: nodeChars .marker indent item ++ itemChars indent items

/-- The entries of a mapping after the first one. -/
def fieldChars (indent : Nat) : List (String × Json) → List Char
  | [] => []
  | (key, value) :: fields =>
    margin indent ++ keyChars indent key ++ nodeChars (placeAfter key) indent value ++
      fieldChars indent fields
end

/-- The YAML text of a value. -/
def write (json : Json) : String := .ofList (nodeChars .document 0 json)

end ApiScribe.Yaml
