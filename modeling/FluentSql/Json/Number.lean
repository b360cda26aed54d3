import FluentSql.Json

/-!
# `Json.Number` — reading a number

The digits of a number are collected in a 64-bit significand. Where the next digit would not fit, the
remaining digits of the whole part only raise the power of ten, and the remaining digits of the
fraction are ignored. A number with a fraction, an exponent or too many digits becomes a double by one
multiplication or division with a power of ten, so the result is within rounding of the written number
but need not be the nearest double.

## Contents
- `Significand`, digits collected so far with their power of ten.
- `scaled?`, the double of a significand and a power of ten.
- `readNumber?`, a number at the front of a text.
-/

namespace FluentSql.Json

/-- Digits collected so far: the number `value * 10 ^ exponent`. `full` is set once a digit did not
    fit. -/
structure Significand where
  value : Nat
  exponent : Int
  full : Bool

namespace Significand

/-- Whether one more digit fits into 64 bits. -/
def fits (s : Significand) (digit : Nat) : Bool :=
  !s.full && s.value * 10 + digit < twoPow 64

/-- A digit of the whole part. -/
def pushWhole (s : Significand) (digit : Nat) : Significand :=
  if s.fits digit then { s with value := s.value * 10 + digit }
  else { s with exponent := s.exponent + 1, full := true }

/-- A digit of the fraction. -/
def pushFraction (s : Significand) (digit : Nat) : Significand :=
  if s.fits digit then { s with value := s.value * 10 + digit, exponent := s.exponent - 1 }
  else { s with full := true }

end Significand

/-- The double nearest a power of ten. -/
def powerOfTen (exponent : Nat) : Double :=
  Double.ofRatio false (tenPow exponent) 1

/-- The double of `x * 10 ^ exponent` by one multiplication or division, after dividing by `1e308` as
    long as the exponent is below -308. None if the result is too large. -/
def scaled? : (fuel : Nat) → Double → Int → Option Double
  | fuel, x, exponent =>
    if 0 ≤ exponent then
      if exponent ≤ 308 then
        let product := x.mul (powerOfTen exponent.toNat)
        if product.isFinite then some product else none
      else if x.units = 0 then some x else none
    else if -308 ≤ exponent then some (x.div (powerOfTen (-exponent).toNat))
    else if x.units = 0 then some x
    else
      match fuel with
      | 0 => some x
      | fuel + 1 => scaled? fuel (x.div (powerOfTen 308)) (exponent + 308)

/-- A number with a sign, a significand and a power of ten. Two divisions by `1e308` bring every
    64-bit significand to zero. -/
def ofParts? (negative : Bool) (significand : Nat) (exponent : Int) : Option Json :=
  (scaled? 3 (Double.ofInt significand) exponent).map fun x =>
    .float (if negative then x.neg else x)

/-- A whole number: an integer of 64 bits, signed or unsigned, or else the nearest double. The zero
    with a minus sign is the negative zero of the doubles. -/
def ofWhole (negative : Bool) (n : Nat) : Json :=
  if !negative then .int n
  else if n = 0 ∨ twoPow 63 < n then .float (Double.ofInt n).neg
  else .int (-n)

/-- The value of a decimal digit. -/
def digitValue (c : Char) : Nat :=
  c.toNat - '0'.toNat

/-- The decimal digits at the front of a text, and the rest. -/
def spanDigits (cs : List Char) : List Nat × List Char :=
  ((cs.takeWhile Char.isDigit).map digitValue, cs.dropWhile Char.isDigit)

/-- The power of ten after an exponent mark, and the rest; at least one digit is required. -/
def readExponent? (cs : List Char) : Option (Int × List Char) :=
  let (negative, cs) : Bool × List Char :=
    match cs with
    | '+' :: rest => (false, rest)
    | '-' :: rest => (true, rest)
    | rest => (false, rest)
  match spanDigits cs with
  | ([], _) => none
  | (digits, rest) =>
    let n : Nat := digits.foldl (fun n digit => n * 10 + digit) 0
    some (if negative then -Int.ofNat n else Int.ofNat n, rest)

/-- The number that ends after the significand, or after an exponent that follows it. -/
def withExponent? (negative : Bool) (s : Significand) (cs : List Char) :
    Option (Json × List Char) :=
  match cs with
  | 'e' :: rest | 'E' :: rest => do
    let (n, rest) ← readExponent? rest
    return (← ofParts? negative s.value (s.exponent + n), rest)
  | rest => do return (← ofParts? negative s.value s.exponent, rest)

/-- A number at the front of a text, without its sign, and the rest. A zero stands alone before the
    point, and a point is followed by a digit. -/
def readUnsigned? (negative : Bool) (cs : List Char) : Option (Json × List Char) :=
  match spanDigits cs with
  | ([], _) => none
  | (0 :: _ :: _, _) => none
  | (digits, rest) =>
    let whole := digits.foldl Significand.pushWhole ⟨0, 0, false⟩
    match rest with
    | '.' :: rest =>
      match spanDigits rest with
      | ([], _) => none
      | (fraction, rest) =>
        withExponent? negative (fraction.foldl Significand.pushFraction { whole with full := false })
          rest
    | 'e' :: _ | 'E' :: _ => withExponent? negative whole rest
    | _ =>
      if whole.full then withExponent? negative whole rest
      else some (ofWhole negative whole.value, rest)

/-- A number at the front of a text, and the rest. -/
def readNumber? : List Char → Option (Json × List Char)
  | '-' :: rest => readUnsigned? true rest
  | cs => readUnsigned? false cs

end FluentSql.Json
