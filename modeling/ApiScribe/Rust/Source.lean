import ApiScribe.Rust.Literal
import ApiScribe.Text.Blank

/-!
# Source text

A source text is cut into tokens, which are then grouped by their brackets. Comments are dropped,
except for doc comments, each of which stands for an attribute.
-/

namespace ApiScribe.Rust

/-- A token tree that needs no closing bracket, or a bracket. -/
inductive Piece where
  | tree (tree : TokenTree)
  | opening (delimiter : Delimiter)
  | closing (delimiter : Delimiter)

/-! ### Comments -/

inductive Comment where
  | plain
  | doc (inner : Bool) (text : List Char)

/-- The rest of a line, and the text from its end on. -/
def splitLine : List Char → List Char × List Char
  | [] => ([], [])
  | '\n' :: cs => ([], '\n' :: cs)
  | '\r' :: '\n' :: cs => ([], '\n' :: cs)
  | c :: cs =>
    let (line, rest) := splitLine cs
    (c :: line, rest)

/-- The text of a block comment after its opening, in which other ones may be nested, and the text
after it. -/
def blockBody? : (depth : Nat) → List Char → Option (List Char × List Char)
  | _, [] => none
  | depth, '/' :: '*' :: cs => do
    let (body, rest) ← blockBody? (depth + 1) cs
    return ('/' :: '*' :: body, rest)
  | 0, '*' :: '/' :: cs => some ([], cs)
  | depth + 1, '*' :: '/' :: cs => do
    let (body, rest) ← blockBody? depth cs
    return ('*' :: '/' :: body, rest)
  | depth, c :: cs => do
    let (body, rest) ← blockBody? depth cs
    return (c :: body, rest)

def lineComment (comment : List Char → Comment) (cs : List Char) : Lexeme Comment :=
  let (text, rest) := splitLine cs
  ⟨comment text, 0, rest⟩

def blockComment? (comment : List Char → Comment) (cs : List Char) : Option (Lexeme Comment) := do
  let (body, rest) ← blockBody? 0 cs
  return ⟨comment body, body.count '\n', rest⟩

def startsComment : List Char → Bool
  | '/' :: '/' :: _ | '/' :: '*' :: _ => true
  | _ => false

/-- A carriage return that no newline follows. -/
def hasBareReturn : List Char → Bool
  | '\r' :: '\n' :: cs => hasBareReturn cs
  | '\r' :: _ => true
  | _ :: cs => hasBareReturn cs
  | [] => false

def comment? : List Char → Option (Lexeme Comment)
  | '/' :: '/' :: '/' :: '/' :: cs => some (lineComment (fun _ => .plain) cs)
  | '/' :: '/' :: '/' :: cs => some (lineComment (.doc false) cs)
  | '/' :: '/' :: '!' :: cs => some (lineComment (.doc true) cs)
  | '/' :: '/' :: cs => some (lineComment (fun _ => .plain) cs)
  | '/' :: '*' :: '*' :: '/' :: cs => some ⟨.plain, 0, cs⟩
  | '/' :: '*' :: '*' :: '*' :: cs => blockComment? (fun _ => .plain) ('*' :: '*' :: cs)
  | '/' :: '*' :: '*' :: cs => blockComment? (.doc false) cs
  | '/' :: '*' :: '!' :: cs => blockComment? (.doc true) cs
  | '/' :: '*' :: cs => blockComment? (fun _ => .plain) cs
  | _ => none

/-- The attribute that a doc comment stands for. -/
def docAttribute (inner : Bool) (text : String) (line : Nat) : List TokenTree :=
  let bang := if inner then [TokenTree.leaf (.punct '!' false) line] else []
  let meaning := [.leaf (.word "doc") line, .leaf (.punct '=' false) line,
    .leaf (.literal (.string text)) line]
  .leaf (.punct '#' false) line :: bang ++ [.group .bracket meaning]

/-- The tokens of a comment that starts at a line. -/
def Comment.trees? (line : Nat) : Comment → Option (List TokenTree)
  | .plain => some []
  | .doc inner text =>
    if hasBareReturn text then none else some (docAttribute inner (.ofList text) line)

/-! ### Words and signs -/

/-- Texts that can only start a literal, so that no identifier starts there. -/
def literalOpenings : List (List Char) :=
  ["r\"", "r#\"", "r##", "b\"", "b'", "br\"", "br#", "c\"", "cr\"", "cr#"].map String.toList

/-- Words that have no raw form. -/
def unrawWords : List String := ["_", "super", "self", "Self", "crate"]

/-- An identifier after its raw mark. -/
def rawWord? (cs : List Char) : Option (String × List Char) := do
  let (name, rest) ← word? cs
  if unrawWords.contains (.ofList name) then none
  return ("r#" ++ .ofList name, rest)

def anyWord? : List Char → Option (String × List Char)
  | 'r' :: '#' :: cs => rawWord? cs
  | cs => (word? cs).map fun (name, rest) => (.ofList name, rest)

def isSign (c : Char) : Bool := "~!@#$%^&*-=+|;:,<.>/?'".toList.contains c

def startsSign (cs : List Char) : Bool := !startsComment cs && cs.head?.any isSign

/-- A lifetime after its apostrophe. -/
def lifetime? (cs : List Char) : Option (Lexeme Token) := do
  let (_, rest) ← anyWord? cs
  let raw := cs.take 2 = ['r', '#']
  if rest.head? = some '\'' ∨ (rest.head? = some '#' ∧ !raw) then none
  return ⟨.lifetime, 0, rest⟩

def sign? : List Char → Option (Lexeme Token)
  | '\'' :: cs => lifetime? cs
  | c :: cs => if isSign c then some ⟨.punct c (startsSign cs), 0, cs⟩ else none
  | [] => none

def token? (cs : List Char) : Option (Lexeme Token) :=
  match literal? cs with
  | some lexeme => some { lexeme with value := .literal lexeme.value }
  | none => (sign? cs).or <| do
    if literalOpenings.any (·.isPrefixOf cs) then none
    let (name, rest) ← anyWord? cs
    return ⟨.word name, 0, rest⟩

/-! ### Pieces -/

/-- Blanks, with the two marks of writing direction. -/
def isSpace (c : Char) : Bool := Text.isBlank c || c = '\u200e' || c = '\u200f'

/-- A bracket at the start of a text, unless a literal starts there. -/
def bracket? : List Char → Option Piece
  | '(' :: cs => if errorMark.isPrefixOf ('(' :: cs) then none else some (.opening .paren)
  | '[' :: _ => some (.opening .bracket)
  | '\x7b' :: _ => some (.opening .brace)
  | ')' :: _ => some (.closing .paren)
  | ']' :: _ => some (.closing .bracket)
  | '\x7d' :: _ => some (.closing .brace)
  | _ => none

/-- The pieces of a text that starts at a line, after those of the text before it, latest first.
Each step takes a character at least, so that as many as there are characters suffice. -/
def pieces : (steps line : Nat) → List Piece → List Char → Option (List Piece)
  | _, _, before, [] => some before.reverse
  | 0, _, _, _ :: _ => none
  | steps + 1, line, before, c :: cs =>
    if isSpace c then pieces steps (if c = '\n' then line + 1 else line) before cs
    else if startsComment (c :: cs) then
      match comment? (c :: cs) with
      | none => none
      | some comment =>
        match comment.value.trees? line with
        | none => none
        | some trees =>
          let before := (trees.map Piece.tree).reverse ++ before
          pieces steps (line + comment.breaks) before comment.rest
    else
      match bracket? (c :: cs) with
      | some piece => pieces steps line (piece :: before) cs
      | none =>
        match token? (c :: cs) with
        | none => none
        | some token =>
          let piece := Piece.tree (.leaf token.value line)
          pieces steps (line + token.breaks) (piece :: before) token.rest

/-! ### Groups -/

/-- A group that has not been closed, with the trees in front of it, latest first. -/
structure OpenGroup where
  delimiter : Delimiter
  before : List TokenTree

/-- The trees of a sequence of pieces, inside the open groups, innermost first. -/
def nest : List OpenGroup → List TokenTree → List Piece → Option (List TokenTree)
  | [], trees, [] => some trees.reverse
  | _ :: _, _, [] => none
  | groups, trees, .tree tree :: pieces => nest groups (tree :: trees) pieces
  | groups, trees, .opening delimiter :: pieces => nest (⟨delimiter, trees⟩ :: groups) [] pieces
  | [], _, .closing _ :: _ => none
  | group :: groups, trees, .closing delimiter :: pieces =>
    if group.delimiter = delimiter then
      nest groups (.group delimiter trees.reverse :: group.before) pieces
    else none

/-! ### Files -/

def byteOrderMark : Char := '\ufeff'

def dropByteOrderMark : List Char → List Char
  | [] => []
  | c :: cs => if c = byteOrderMark then cs else c :: cs

/-- The text without the blanks and plain comments at its start. -/
def skipSpace : (steps : Nat) → List Char → List Char
  | _, [] => []
  | 0, cs => cs
  | steps + 1, c :: cs =>
    if isSpace c then skipSpace steps cs
    else
      match comment? (c :: cs) with
      | some ⟨.plain, _, rest⟩ => skipSpace steps rest
      | _ => c :: cs

/-- The text from the end of its first line on, if that names an interpreter: `#!` not followed by
the bracket of an attribute. -/
def dropShebang : List Char → List Char
  | '#' :: '!' :: cs =>
    if (skipSpace cs.length cs).head? = some '[' then '#' :: '!' :: cs
    else cs.dropWhile (· ≠ '\n')
  | cs => cs

/-- The token trees of a source text, if it has only known tokens and balanced brackets. -/
def trees? (source : String) : Option (List TokenTree) :=
  let cs := dropByteOrderMark (dropShebang (dropByteOrderMark source.toList))
  (pieces cs.length 1 [] cs).bind (nest [] [])

end ApiScribe.Rust
