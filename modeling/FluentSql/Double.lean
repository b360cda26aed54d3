/-!
# `Double` — double-precision numbers as bit patterns

A double is kept as its 64 bits, so that two numbers are equal exactly when they are the same number
with the same sign and, for a NaN, the same payload. Rounding is exact arithmetic on naturals.

## Contents
- `Double` and its fields: sign, exponent, fraction.
- `Double.ofRatio`, the double nearest a quotient, and what is built from it: `ofInt`, `mul`, `div`.
- `Double.ofSingle`, the double with the value of a single-precision number.
-/

namespace FluentSql

/-- A power of two. -/
def twoPow (n : Nat) : Nat :=
  Nat.pow 2 n

/-- A double-precision number, as its IEEE 754 bits. -/
structure Double where
  bits : UInt64
  deriving DecidableEq

namespace Double

/-- Whether the sign bit is set. -/
def negative (x : Double) : Bool :=
  twoPow 63 ≤ x.bits.toNat

/-- The eleven exponent bits. -/
def exponentField (x : Double) : Nat :=
  x.bits.toNat / twoPow 52 % twoPow 11

/-- The fifty-two fraction bits. -/
def fraction (x : Double) : Nat :=
  x.bits.toNat % twoPow 52

/-- Whether the number is neither infinite nor a NaN. -/
def isFinite (x : Double) : Bool :=
  x.exponentField ≠ 2047

/-- The absolute value of a finite double as a multiple of `2 ^ -1074`, the least positive double. -/
def units (x : Double) : Nat :=
  if x.exponentField = 0 then x.fraction
  else (twoPow 52 + x.fraction) * twoPow (x.exponentField - 1)

/-- The double with the opposite sign. -/
def neg (x : Double) : Double :=
  ⟨x.bits ^^^ 0x8000000000000000⟩

/-! ## Rounding -/

/-- The natural number nearest `n / d`; a half goes to the even neighbour. -/
def roundHalfEven (n d : Nat) : Nat :=
  let q := n / d
  let twice := 2 * (n % d)
  if twice < d ∨ (twice = d ∧ q % 2 = 0) then q else q + 1

/-- The double with the absolute value `m * 2 ^ shift` multiples of `2 ^ -1074`, where `m` is at most
    `2 ^ 53`, and at least `2 ^ 52` if `shift` is positive. What is too large becomes infinite. The
    carry of `m = 2 ^ 53` lands in the exponent by itself. -/
def pack (negative : Bool) (m shift : Nat) : Double :=
  let magnitude := shift * twoPow 52 + m
  let infinite := 2047 * twoPow 52
  let sign := if negative then twoPow 63 else 0
  ⟨UInt64.ofNat ((if magnitude < infinite then magnitude else infinite) + sign)⟩

/-- The double nearest `num / den`, a half going to the even neighbour. -/
def ofRatio (negative : Bool) (num den : Nat) : Double :=
  let scaled := num * twoPow 1074
  let shift := (scaled / den).log2 - 52
  pack negative (roundHalfEven scaled (den * twoPow shift)) shift

/-- The double nearest an integer. -/
def ofInt (n : Int) : Double :=
  ofRatio (n < 0) n.natAbs 1

/-- The product of two finite doubles, rounded. -/
def mul (x y : Double) : Double :=
  ofRatio (x.negative != y.negative) (x.units * y.units) (twoPow 2148)

/-- The quotient of two finite doubles, rounded; the divisor is not zero. -/
def div (x y : Double) : Double :=
  ofRatio (x.negative != y.negative) x.units y.units

/-! ## Single precision -/

/-- The double with the value of a single-precision number given by its bits. Every finite single is
    a double; a NaN keeps its payload in the upper fraction bits and becomes quiet. -/
def ofSingle (bits : UInt32) : Double :=
  let n := bits.toNat
  let sign : Bool := twoPow 31 ≤ n
  let exponent := n / twoPow 23 % twoPow 8
  let fraction := n % twoPow 23
  if exponent = 255 then
    let infinite := pack sign 0 2047
    if fraction = 0 then infinite
    else ⟨infinite.bits ||| UInt64.ofNat (twoPow 51 ||| fraction * twoPow 29)⟩
  else if exponent = 0 then ofRatio sign fraction (twoPow 149)
  else ofRatio sign ((twoPow 23 + fraction) * twoPow (exponent - 1)) (twoPow 149)

end Double

end FluentSql
