/-!
# Tokens

Rust source text is a sequence of tokens in which brackets are balanced.
-/

namespace ApiScribe.Rust

inductive Delimiter where
  | paren
  | bracket
  | brace
deriving DecidableEq, Repr

/-- Literals, as far as their kind or value is of use. -/
inductive Literal where
  | string (value : String)
  | integer (value : Nat) (suffixed : Bool)
  | float (text : String)
  | other
deriving DecidableEq, Repr

inductive Token where
  /-- An identifier or a keyword. -/
  | word (name : String)
  /-- A sign, which is joint if another one follows it at once. -/
  | punct (sign : Char) (joint : Bool)
  | lifetime
  | literal (value : Literal)
deriving DecidableEq, Repr

inductive TokenTree where
  | leaf (token : Token) (line : Nat)
  | group (delimiter : Delimiter) (content : List TokenTree)

mutual
/-- The number of leaves and groups of a tree. -/
def TokenTree.size : TokenTree → Nat
  | .leaf _ _ => 1
  | .group _ content => 1 + sizes content

def sizes : List TokenTree → Nat
  | [] => 0
  | tree :: trees => tree.size + sizes trees
end

end ApiScribe.Rust
