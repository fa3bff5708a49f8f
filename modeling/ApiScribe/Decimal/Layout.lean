import ApiScribe.Decimal.Shortest

/-!
# Layout of doubles

Where a double is written positionally, and how its exponent looks otherwise.
-/

namespace ApiScribe.Decimal

structure Layout where
  /-- The powers of ten of the first digit for which the number is written positionally. -/
  plainFrom : Int := -5
  plainTo : Int := 15
  /-- Whether a positive exponent has a sign. -/
  plusSign : Bool

def Layout.exponent (layout : Layout) (power : Int) : List Char :=
  let sign := if power < 0 then ['-'] else if layout.plusSign then ['+'] else []
  'e' :: sign ++ Nat.toDigits 10 power.natAbs

/-- Positional notation, which always has a point. -/
def positional (d : Digits) : List Char :=
  if d.exponent < 0 then
    '0' :: '.' :: List.replicate (d.exponent.natAbs - 1) '0' ++ d.digits
  else
    let whole := d.exponent.toNat + 1
    let fraction := d.digits.drop whole
    d.digits.take whole ++ List.replicate (whole - d.digits.length) '0' ++
      '.' :: if fraction.isEmpty then ['0'] else fraction

def Layout.unsigned (layout : Layout) (d : Digits) : List Char :=
  match d.digits with
  | [] => ['0', '.', '0']
  | first :: rest =>
    if layout.plainFrom ≤ d.exponent ∧ d.exponent ≤ layout.plainTo then positional d
    else if rest.isEmpty then first :: layout.exponent d.exponent
    else first :: '.' :: rest ++ layout.exponent d.exponent

/-- The text of a finite double. -/
def Layout.write (layout : Layout) (x : Float) : List Char :=
  let text := layout.unsigned (shortest x)
  if isNegative x then '-' :: text else text

end ApiScribe.Decimal
