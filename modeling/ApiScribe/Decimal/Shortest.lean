/-!
# Shortest decimals

The decimal with the fewest digits that reads back as a given double, the nearest of those, and of
two equally near ones the even one. All comparisons are exact, in natural numbers.
-/

namespace ApiScribe.Decimal

/-- A finite double without its sign: the value is `significand * 2 ^ exponent`. -/
structure Magnitude where
  significand : Nat
  exponent : Int
  /-- Whether the next smaller double is only half as far away as the next greater one. -/
  narrowBelow : Bool

/-- The magnitude of a finite double. -/
def Magnitude.ofFloat (x : Float) : Magnitude :=
  let bits := x.toBits.toNat % Nat.pow 2 63
  let biased : Nat := bits / Nat.pow 2 52
  let fraction : Nat := bits % Nat.pow 2 52
  if biased = 0 then { significand := fraction, exponent := -1074, narrowBelow := false }
  else
    { significand := fraction + Nat.pow 2 52, exponent := (biased : Int) - 1075,
      narrowBelow := fraction = 0 && biased > 1 }

def isNegative (x : Float) : Bool := x.toBits.toNat ≥ Nat.pow 2 63

/-- Digits without leading or trailing zeros, and the power of ten of the first one. Zero has no
digits. -/
structure Digits where
  digits : List Char
  exponent : Int
deriving Repr, DecidableEq

/-- The digits of `n * 10 ^ scale`. -/
def Digits.ofScaled (n : Nat) (scale : Int) : Digits :=
  let all := Nat.toDigits 10 n
  { digits := (all.reverse.dropWhile (· = '0')).reverse, exponent := scale + (all.length - 1) }

/-- The power of ten of the first digit of the positive quotient `num / den`. -/
def leadingPower (num den : Nat) : Int :=
  if den ≤ num then (Nat.toDigits 10 (num / den)).length - 1
  else
    let count := (Nat.toDigits 10 (den / num)).length
    if den = num * Nat.pow 10 (count - 1) then -(count - 1 : Int) else -count

/-- The point of the grid of multiples of `10 ^ scale` that stands for the magnitude, if one of the
two points around it reads back. The distance to a neighbouring double is counted in quarters of
the last binary place. -/
def onGrid? (m : Magnitude) (scale : Int) : Option Nat :=
  let num := Nat.pow 2 (m.exponent - 2).toNat * Nat.pow 10 (-scale).toNat
  let den := Nat.pow 2 (2 - m.exponent).toNat * Nat.pow 10 scale.toNat
  let exact := 4 * m.significand * num
  let lower := (4 * m.significand - if m.narrowBelow then 1 else 2) * num
  let upper := (4 * m.significand + 2) * num
  let readsBack (point : Nat) : Bool :=
    if m.significand % 2 = 0 then lower ≤ point * den && point * den ≤ upper
    else lower < point * den && point * den < upper
  let below := exact / den
  let above := below + 1
  match readsBack below, readsBack above with
  | false, false => none
  | true, false => some below
  | false, true => some above
  | true, true =>
    let downward := exact - below * den
    let upward := above * den - exact
    if downward < upward || (downward = upward && below % 2 = 0) then some below else some above

/-- The shortest digits of a finite double. Seventeen digits always suffice. -/
def shortest (x : Float) : Digits :=
  let m := Magnitude.ofFloat x
  if m.significand = 0 then { digits := [], exponent := 0 }
  else
    let power :=
      leadingPower (m.significand * Nat.pow 2 m.exponent.toNat) (Nat.pow 2 (-m.exponent).toNat)
    let attempt (count : Nat) : Option Digits :=
      let scale := power - count
      (onGrid? m scale).map (Digits.ofScaled · scale)
    ((List.range 17).findSome? attempt).getD { digits := [], exponent := 0 }

end ApiScribe.Decimal
