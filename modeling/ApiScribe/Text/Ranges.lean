/-!
# Ranges of code points

A character property of Unicode is held as its code point ranges, in increasing order.
-/

namespace ApiScribe.Text

/-- Code point ranges, both ends included. -/
abbrev Ranges := List (Nat × Nat)

/-- Whether the code point of `c` lies in one of the ranges. -/
def Ranges.contains (ranges : Ranges) (c : Char) : Bool :=
  ranges.any fun (first, last) => decide (first ≤ c.toNat ∧ c.toNat ≤ last)

end ApiScribe.Text
