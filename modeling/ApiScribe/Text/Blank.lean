import ApiScribe.Text.Ranges

/-!
# Blanks, words and lines

Blank characters are those of Unicode's `White_Space` property. Trimming, splitting into words and
splitting into lines are defined on character lists, with a counterpart on strings.
-/

namespace ApiScribe.Text

/-- The 25 characters of the property `White_Space`. -/
def blankRanges : Ranges :=
  [(0x9, 0xD), (0x20, 0x20), (0x85, 0x85), (0xA0, 0xA0), (0x1680, 0x1680), (0x2000, 0x200A),
    (0x2028, 0x2029), (0x202F, 0x202F), (0x205F, 0x205F), (0x3000, 0x3000)]

def isBlank (c : Char) : Bool := blankRanges.contains c

/-- Put a character in front of the first group, opening one if there is none. -/
def consHead (c : Char) : List (List Char) → List (List Char)
  | [] => [[c]]
  | group :: groups => (c :: group) :: groups

/-! ### Trimming -/

def trimStartChars (cs : List Char) : List Char := cs.dropWhile isBlank

def trimEndChars (cs : List Char) : List Char := (cs.reverse.dropWhile isBlank).reverse

def trimChars (cs : List Char) : List Char := trimEndChars (trimStartChars cs)

/-- The text without the blanks at both of its ends. -/
def trim (s : String) : String := .ofList (trimChars s.toList)

/-! ### Words -/

/-- The maximal runs of characters that are not blank. -/
def wordChars : List Char → List (List Char)
  | [] => []
  | [c] => if isBlank c then [] else [[c]]
  | c :: d :: cs =>
    if isBlank c then wordChars (d :: cs)
    else if isBlank d then [c] :: wordChars (d :: cs)
    else consHead c (wordChars (d :: cs))

def words (s : String) : List String := (wordChars s.toList).map .ofList

/-! ### Lines -/

/-- The lines of a text: a newline, with a carriage return right before it, ends a line, and no
empty line follows the last newline. -/
def lineChars : List Char → List (List Char)
  | [] => []
  | '\n' :: cs => [] :: lineChars cs
  | '\r' :: '\n' :: cs => [] :: lineChars cs
  | c :: cs => consHead c (lineChars cs)

def lines (s : String) : List String := (lineChars s.toList).map .ofList

end ApiScribe.Text
