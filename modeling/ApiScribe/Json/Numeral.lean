import ApiScribe.Json.Tree

/-!
# Numbers in JSON text

An integer that fits 64 bits is kept as it is. Every other number becomes a double: its digits are
gathered into a significand of 64 bits while they fit, and the significand is then scaled by one
power of ten, or by several where one is out of range.
-/

namespace ApiScribe.Json

/-- The parts of a number as it is written. -/
structure Numeral where
  negative : Bool
  whole : List Char
  fraction : Option (List Char) := none
  exponent : Option (Bool × List Char) := none

namespace Numeral

def digitValue (c : Char) : Nat := c.toNat - '0'.toNat

def significandLimit : Nat := Nat.pow 2 64 - 1

def exponentLimit : Nat := Nat.pow 2 31 - 1

/-- Gather the digits while the significand fits; the result is the significand and the number of
digits left over. -/
def gather (significand : Nat) : List Char → Nat × Nat
  | [] => (significand, 0)
  | c :: cs =>
    let next := significand * 10 + digitValue c
    if next > significandLimit then (significand, cs.length + 1) else gather next cs

/-- The significand and the power of ten it is scaled by, before the exponent is applied: whole
digits that do not fit raise the power, digits of the fraction that do not fit are dropped. -/
def significand (n : Numeral) : Nat × Int :=
  let (whole, raised) := gather 0 n.whole
  match n.fraction with
  | none => (whole, raised)
  | some fraction =>
    let (all, dropped) := gather whole fraction
    (all, (raised : Int) - (fraction.length - dropped : Nat))

/-- The value of exponent digits, or the number of them after which it is out of range. -/
def exponentValue (value : Nat) (count : Nat) : List Char → Except Nat Nat
  | [] => .ok value
  | c :: cs =>
    let next := value * 10 + digitValue c
    if next > exponentLimit then .error (count + 1) else exponentValue next (count + 1) cs

def powerOfTen (n : Nat) : Float := Float.ofScientific 1 false n

/-- Scale by a power of ten, in steps of 308 where the power is smaller than a double can hold. -/
def scale (value : Float) (power : Int) : Option Float :=
  if power.natAbs ≤ 308 then
    if power < 0 then some (value / powerOfTen power.natAbs)
    else
      let scaled := value * powerOfTen power.natAbs
      if scaled.isInf then none else some scaled
  else if value == 0.0 then some value
  else if 0 < power then none
  else scale (value / powerOfTen 308) (power + 308)
termination_by power.natAbs

def signed (negative : Bool) (value : Float) : Float := if negative then -value else value

def double? (negative : Bool) (significand : Nat) (power : Int) : Option Number :=
  (scale significand.toUInt64.toFloat power).map fun value => .double (signed negative value)

/-- The integer a numeral without fraction and exponent stands for, unless it is negative zero or
does not fit 64 bits. -/
def integer? (n : Numeral) : Option Int :=
  let (value, excess) := gather 0 n.whole
  if excess ≠ 0 then none
  else if !n.negative then some value
  else if 0 < value ∧ value ≤ Nat.pow 2 63 then some (-value)
  else none

/-- The number, or the count of the exponent's digits that were read when it turned out to be out
of range (`none` for all of them). -/
def value (n : Numeral) : Except (Option Nat) Number :=
  let (significand, power) := n.significand
  let double (power : Int) : Except (Option Nat) Number :=
    match double? n.negative significand power with
    | some result => .ok result
    | none => .error none
  match n.fraction, n.exponent with
  | none, none =>
    match n.integer? with
    | some value => .ok (.integer value)
    | none => double power
  | _, none => double power
  | _, some (negativeExponent, digits) =>
    match exponentValue 0 0 digits with
    | .ok exponent => double (if negativeExponent then power - exponent else power + exponent)
    | .error count =>
      if significand ≠ 0 ∧ !negativeExponent then .error (some count)
      else .ok (.double (signed n.negative 0.0))

/-! ### Scanning -/

/-- A number in a text: its tree, the position after it and the rest of the text. A number that
breaks off has an empty rest. -/
structure Scan where
  tree : Tree
  stop : Position
  rest : List Char

def Scan.broken (cause : Cause) (position : Position) : Scan :=
  { tree := .broken { cause, position }, stop := position, rest := [] }

/-- The text ends inside the number; a reader that skips the number calls it invalid. -/
def Scan.ended (position : Position) : Scan :=
  { tree := .guarded { cause := .endInNumber, position }
      (.broken { cause := .invalidNumber, position })
    stop := position
    rest := [] }

/-- The number is complete. -/
def finish (n : Numeral) (beforeExponent stop : Position) (rest : List Char) : Scan :=
  let tree :=
    match n.value with
    | .ok result => .number result
    | .error none => .guarded { cause := .numberOutOfRange, position := stop } .null
    | .error (some count) =>
      .guarded { cause := .numberOutOfRange, position := beforeExponent.skip count } .null
  { tree, stop, rest }

/-- The digits of an exponent, of which there is at least one. -/
def scanExponentDigits (n : Numeral) (negative : Bool) (p : Position) : List Char → Scan
  | [] => .ended p
  | c :: cs =>
    if c.isDigit then
      let digits := c :: cs.takeWhile Char.isDigit
      finish { n with exponent := some (negative, digits) } p (p.skip digits.length)
        (cs.dropWhile Char.isDigit)
    else .broken .invalidNumber (p.bump c)

/-- What follows the whole part and the fraction. -/
def scanExponent (n : Numeral) (p : Position) : List Char → Scan
  | [] => finish n p p []
  | c :: cs =>
    if c = 'e' ∨ c = 'E' then
      match cs with
      | '+' :: cs => scanExponentDigits n false (p.skip 2) cs
      | '-' :: cs => scanExponentDigits n true (p.skip 2) cs
      | cs => scanExponentDigits n false (p.skip 1) cs
    else finish n p p (c :: cs)

/-- What follows the whole part. -/
def scanFraction (n : Numeral) (p : Position) : List Char → Scan
  | '.' :: cs =>
    let fraction := cs.takeWhile Char.isDigit
    if fraction.isEmpty then
      match cs with
      | [] => .ended (p.skip 1)
      | c :: _ => .broken .invalidNumber ((p.skip 1).bump c)
    else
      scanExponent { n with fraction := some fraction } (p.skip (1 + fraction.length))
        (cs.dropWhile Char.isDigit)
  | cs => scanExponent n p cs

/-- What follows the sign. -/
def scanWhole (negative : Bool) (p : Position) : List Char → Scan
  | [] => .ended p
  | '0' :: cs =>
    match cs with
    | [] => scanFraction { negative, whole := ['0'] } (p.skip 1) []
    | c :: cs =>
      if c.isDigit then .broken .invalidNumber (p.skip 2)
      else scanFraction { negative, whole := ['0'] } (p.skip 1) (c :: cs)
  | c :: cs =>
    if c.isDigit then
      let whole := c :: cs.takeWhile Char.isDigit
      scanFraction { negative, whole } (p.skip whole.length) (cs.dropWhile Char.isDigit)
    else .broken .invalidNumber (p.bump c)

/-- The number at the start of a text. -/
def scan (p : Position) : List Char → Scan
  | '-' :: cs => scanWhole true (p.skip 1) cs
  | cs => scanWhole false p cs

/-! ### The rest of the text gets shorter -/

theorem length_dropWhile_le (f : Char → Bool) (cs : List Char) :
    (cs.dropWhile f).length ≤ cs.length :=
  (List.dropWhile_sublist f).length_le

theorem scanExponentDigits_rest_length (n : Numeral) (negative : Bool) (p : Position)
    (cs : List Char) : (scanExponentDigits n negative p cs).rest.length ≤ cs.length := by
  cases cs with
  | nil => simp [scanExponentDigits, Scan.ended]
  | cons c cs =>
    have := length_dropWhile_le Char.isDigit cs
    simp only [scanExponentDigits]
    split
    · simp only [finish, List.length_cons]
      omega
    · simp [Scan.broken]

theorem scanExponent_rest_length (n : Numeral) (p : Position) (cs : List Char) :
    (scanExponent n p cs).rest.length ≤ cs.length := by
  fun_cases scanExponent n p cs with
  | case1 => simp [finish]
  | case2 c h cs => exact Nat.le_trans (scanExponentDigits_rest_length ..) (by simp; omega)
  | case3 c h cs => exact Nat.le_trans (scanExponentDigits_rest_length ..) (by simp; omega)
  | case4 c cs h h1 h2 => exact Nat.le_trans (scanExponentDigits_rest_length ..) (by simp)
  | case5 c cs h => simp [finish]

theorem scanFraction_rest_length (n : Numeral) (p : Position) (cs : List Char) :
    (scanFraction n p cs).rest.length ≤ cs.length := by
  fun_cases scanFraction n p cs with
  | case1 => simp [Scan.ended]
  | case2 => simp [Scan.broken]
  | case3 cs fraction h =>
    have := length_dropWhile_le Char.isDigit cs
    exact Nat.le_trans (scanExponent_rest_length ..) (by simp; omega)
  | case4 => exact scanExponent_rest_length ..

theorem scanWhole_rest_length (negative : Bool) (p : Position) (cs : List Char) :
    (scanWhole negative p cs).rest.length ≤ cs.length - 1 := by
  fun_cases scanWhole negative p cs with
  | case1 => simp [Scan.ended]
  | case2 => exact Nat.le_trans (scanFraction_rest_length ..) (by simp)
  | case3 => simp [Scan.broken]
  | case4 => exact Nat.le_trans (scanFraction_rest_length ..) (by simp)
  | case5 c cs =>
    have := length_dropWhile_le Char.isDigit cs
    exact Nat.le_trans (scanFraction_rest_length ..) (by simpa using this)
  | case6 => simp [Scan.broken]

theorem scan_rest_length (p : Position) (cs : List Char) :
    (scan p cs).rest.length ≤ cs.length - 1 := by
  fun_cases scan p cs with
  | case1 => exact Nat.le_trans (scanWhole_rest_length ..) (by simp)
  | case2 => exact scanWhole_rest_length ..

end Numeral

end ApiScribe.Json
