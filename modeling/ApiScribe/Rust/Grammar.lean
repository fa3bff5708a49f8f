import ApiScribe.Rust.Grammar.Statement
import ApiScribe.Rust.Source

/-!
# The grammar of Rust

The table of all rules, and the documented items of a source text.
-/

namespace ApiScribe.Rust

namespace Grammar

def production (parse : Productions) : Rule → Grammar Form
  | .type sums => typeProduction parse sums
  | .bound captures => boundProduction parse captures
  | .pattern => patternProduction parse
  | .expression structs => expressionProduction parse structs
  | .operand structs => operandProduction parse structs
  | .bounded => boundedProduction parse
  | .statements => statementsProduction parse
  | .item => itemProduction parse
  | .imports rooted => importsProduction parse rooted

/-- The productions of all rules, nested in one another up to a depth. -/
def productions : (depth : Nat) → Productions
  | 0 => fun _ => fail
  | depth + 1 => production (productions depth)

end Grammar

/-- A depth that no text with that many tokens exceeds: between two rules that take no token lie
fewer than eight others. -/
def depthBound (tokens : List TokenTree) : Nat := 8 * (sizes tokens + 1)

/-- The documented items of a source text in the order of the text, if that is well formed. -/
def items? (source : String) : Option (List Item) := do
  let tokens ← trees? source
  match Grammar.file (Grammar.productions (depthBound tokens)) ⟨tokens, []⟩ with
  | some ((), ⟨[], found⟩) => some found.reverse
  | _ => none

end ApiScribe.Rust
