import ApiScribe.Text.Blank

/-!
# Patterns

Regular expressions with numbered groups. A text is matched by backtracking: a match that starts
further left goes first, and at one place a repetition takes as many characters as it can, and an
option is taken, before they give anything back.
-/

namespace ApiScribe.Text

/-- A set of characters. -/
inductive CharClass where
  | only (c : Char)
  | blank
  | solid
  /-- All characters but the newline. -/
  | inLine
deriving Repr, DecidableEq

def CharClass.accepts : CharClass → Char → Bool
  | only d, c => c == d
  | blank, c => isBlank c
  | solid, c => !isBlank c
  | inLine, c => c != '\n'

/-- What is left of a text after one or more characters of a class, in the order in which it is
tried: the least first. -/
def CharClass.rests (cls : CharClass) : List Char → List (List Char)
  | [] => []
  | c :: cs => if cls.accepts c then cls.rests cs ++ [cs] else []

inductive Pattern where
  | empty
  /-- The start of the text. -/
  | start
  /-- The end of the text. -/
  | finish
  | one (cls : CharClass)
  /-- One or more characters, as many as possible. -/
  | many (cls : CharClass)
  /-- A pattern or nothing, if possible the pattern. -/
  | option (p : Pattern)
  /-- A pattern whose text is kept under a number. -/
  | group (number : Nat) (p : Pattern)
  | seq (p q : Pattern)
deriving Repr, DecidableEq

/-- The texts of the groups that have been matched, the last one first. -/
abbrev Captures := List (Nat × List Char)

def Captures.text? (captures : Captures) (number : Nat) : Option String :=
  (captures.lookup number).map .ofList

/-- A place in a text, and the groups matched on the way to it. -/
structure Cursor where
  atStart : Bool
  rest : List Char
  captures : Captures := []

namespace Cursor

def advance (s : Cursor) (rest : List Char) : Cursor := { s with atStart := false, rest }

/-- Keep the text from one place to another. -/
def capture (s : Cursor) (number : Nat) (t : Cursor) : Cursor :=
  { t with captures := (number, s.rest.take (s.rest.length - t.rest.length)) :: t.captures }

end Cursor

namespace Pattern

/-- Patterns one after the other. -/
def all (ps : List Pattern) : Pattern := ps.foldr seq empty

def literal (text : String) : Pattern := all (text.toList.map fun c => one (.only c))

/-- Where the matches from a place on end, in the order in which they are tried. -/
def ends : Pattern → Cursor → List Cursor
  | empty, s => [s]
  | start, s => if s.atStart then [s] else []
  | finish, s => if s.rest = [] then [s] else []
  | one cls, s =>
    match s.rest with
    | [] => []
    | c :: cs => if cls.accepts c then [s.advance cs] else []
  | many cls, s => (cls.rests s.rest).map s.advance
  | option p, s => p.ends s ++ [s]
  | group number p, s => (p.ends s).map (s.capture number)
  | seq p q, s => (p.ends s).flatMap q.ends

/-- Where the matches in a text end, in the order in which they are tried. -/
def search (p : Pattern) (atStart : Bool) : List Char → List Cursor
  | [] => p.ends { atStart, rest := [] }
  | c :: cs => p.ends { atStart, rest := c :: cs } ++ p.search false cs

/-- The groups of the first match. -/
def captures? (p : Pattern) (text : String) : Option Captures :=
  (p.search true text.toList).head?.map (·.captures)

end Pattern

end ApiScribe.Text
