/-!
# Plain texts that mean something else

A plain scalar that spells a null, a Boolean or a number is read as one, so a string with such a
text has to be quoted.
-/

namespace ApiScribe.Yaml

def spellsNull (s : String) : Bool := ["", "null", "Null", "NULL", "~"].contains s

def spellsBool (s : String) : Bool :=
  ["true", "True", "TRUE", "false", "False", "FALSE"].contains s

/-- The value of a hexadecimal digit of either case. -/
def digitValue (c : Char) : Nat :=
  if c.isDigit then c.toNat - '0'.toNat
  else if 'a' ≤ c ∧ c ≤ 'f' then c.toNat - 'a'.toNat + 10
  else if 'A' ≤ c ∧ c ≤ 'F' then c.toNat - 'A'.toNat + 10
  else 16

def ofDigits (radix : Nat) (digits : List Char) : Nat :=
  digits.foldl (fun n c => radix * n + digitValue c) 0

/-- Whether the characters are digits of a number of at most `limit`. -/
def isNumeral (radix limit : Nat) (digits : List Char) : Bool :=
  !digits.isEmpty && digits.all (digitValue · < radix) && ofDigits radix digits ≤ limit

/-- A numeral whose radix is shown by a leading `0x`, `0o` or `0b`, ten being the default. -/
def isRadixNumeral (limit : Nat) : List Char → Bool
  | '0' :: 'x' :: digits => isNumeral 16 limit digits
  | '0' :: 'o' :: digits => isNumeral 8 limit digits
  | '0' :: 'b' :: digits => isNumeral 2 limit digits
  | digits => isNumeral 10 limit digits

/-- Integers have at most 128 bits. -/
def spellsInteger : List Char → Bool
  | '-' :: cs => isRadixNumeral (Nat.pow 2 127) cs
  | '+' :: cs => isRadixNumeral (Nat.pow 2 128 - 1) cs
  | cs => isRadixNumeral (Nat.pow 2 128 - 1) cs

/-- Digits after a zero, with or without a sign. -/
def isZeroPadded : List Char → Bool
  | '-' :: '0' :: cs | '+' :: '0' :: cs | '0' :: cs => !cs.isEmpty && cs.all Char.isDigit
  | _ => false

/-! ### Floating point numbers -/

/-- An unsigned decimal: its digits without the point, and the power of ten of the last one. -/
structure Scientific where
  digits : List Char
  exponent : Int

/-- The part after the digits: nothing, or `e` and an integer. -/
def exponent? : List Char → Option Int
  | [] => some 0
  | c :: cs =>
    if c = 'e' ∨ c = 'E' then
      let (negative, digits) :=
        match cs with
        | '-' :: digits => (true, digits)
        | '+' :: digits => (false, digits)
        | digits => (false, digits)
      if digits.isEmpty || !digits.all Char.isDigit then none
      else some (if negative then -(ofDigits 10 digits : Int) else ofDigits 10 digits)
    else none

/-- Digits with at most one point among or beside them, then an exponent. -/
def scientific? (cs : List Char) : Option Scientific :=
  let whole := cs.takeWhile Char.isDigit
  let (fraction, rest) :=
    match cs.dropWhile Char.isDigit with
    | '.' :: after => (after.takeWhile Char.isDigit, after.dropWhile Char.isDigit)
    | rest => ([], rest)
  if whole.isEmpty && fraction.isEmpty then none
  else (exponent? rest).map fun exponent => ⟨whole ++ fraction, exponent - fraction.length⟩

/-- The least magnitude that is rounded to infinity, half a unit above the greatest double. -/
def overflowBound : Nat := Nat.pow 2 1024 - Nat.pow 2 970

/-- Whether the number rounds to a finite double. -/
def Scientific.isFinite (x : Scientific) : Bool :=
  let digits := x.digits.dropWhile (· = '0')
  let magnitude := digits.length + x.exponent
  if digits.isEmpty ∨ magnitude < 309 then true
  else if magnitude > 309 then false
  else
    ofDigits 10 digits * Nat.pow 10 x.exponent.toNat <
      overflowBound * Nat.pow 10 (-x.exponent).toNat

def isFiniteDecimal (cs : List Char) : Bool := (scientific? cs).any Scientific.isFinite

def isInfinity (cs : List Char) : Bool :=
  [".inf".toList, ".Inf".toList, ".INF".toList].contains cs

def isNaN (cs : List Char) : Bool := [".nan".toList, ".NaN".toList, ".NAN".toList].contains cs

def spellsFloat : List Char → Bool
  | '-' :: cs | '+' :: cs => isInfinity cs || isFiniteDecimal cs
  | cs => isInfinity cs || isNaN cs || isFiniteDecimal cs

/-- Whether a plain scalar with this text is not read as a string. -/
def isResolved (s : String) : Bool :=
  spellsNull s || spellsBool s || spellsInteger s.toList || isZeroPadded s.toList ||
    spellsFloat s.toList

end ApiScribe.Yaml
