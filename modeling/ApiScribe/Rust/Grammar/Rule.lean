import ApiScribe.Rust.Grammar.Basic

/-!
# Rules

The productions that are reached through one another are named by rules. A production takes those
of the rules as an argument, so that only the table of all of them is recursive.
-/

namespace ApiScribe.Rust

inductive Rule where
  /-- A type, which may be a sum of bounds if `sums`. -/
  | type (sums : Bool)
  /-- A bound, which may list captured parameters if `captures`. -/
  | bound (captures : Bool)
  /-- A pattern without alternatives. -/
  | pattern
  /-- An expression, in which a brace after a path starts a struct literal if `structs`. -/
  | expression (structs : Bool)
  /-- An expression without operators between its parts. -/
  | operand (structs : Bool)
  /-- An expression that ends after its block if it is one that ends in a block, as those of
  statements and arms do. -/
  | bounded
  /-- The content of a block. -/
  | statements
  | item
  /-- A tree of imported paths, each of which may start at the root if `rooted`. -/
  | imports (rooted : Bool)
deriving DecidableEq, Repr

/-- What has been recognized, as far as the surrounding production depends on it. -/
inductive Form where
  | plain
  /-- A string literal, possibly in parentheses. -/
  | text (value : String)
  /-- An expression that ends in a block and needs no semicolon after it. -/
  | block
  /-- A range of expressions, or one of patterns that is open at an end. -/
  | range
  /-- A type that is one segment of a path, without arguments in parentheses. -/
  | segment
  /-- A type that is any other path. -/
  | path
  /-- A type that is a single bound with lifetimes of its own. -/
  | bound
deriving DecidableEq, Repr

abbrev Productions := Rule → Grammar Form

end ApiScribe.Rust
