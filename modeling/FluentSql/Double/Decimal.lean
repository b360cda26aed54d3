import FluentSql.Double

/-!
# `Double.Decimal` — the shortest decimal that reads back

Among the decimals that round to a given double, the shortest is the one with the fewest digits, and
among those the nearest to the double.

## Contents
- `Decimal`, digits with a power of ten, and the double that it reads as.
- `Double.shortest`, the shortest decimal of a finite double.
- `Decimal.text`, positional or scientific notation.
-/

namespace FluentSql

/-- A power of ten. -/
def tenPow (n : Nat) : Nat :=
  Nat.pow 10 n

/-- The number `digits * 10 ^ exponent`. -/
structure Decimal where
  digits : Nat
  exponent : Int
  deriving DecidableEq

namespace Decimal

/-- The number as a quotient of naturals. -/
def ratio (d : Decimal) : Nat × Nat :=
  (d.digits * tenPow d.exponent.toNat, tenPow (-d.exponent).toNat)

/-- The double nearest the number. -/
def toDouble (negative : Bool) (d : Decimal) : Double :=
  Double.ofRatio negative d.ratio.1 d.ratio.2

/-- Move the zeros at the end of the digits, at most `fuel` of them, into the exponent. -/
def dropZeros : (fuel : Nat) → Decimal → Decimal
  | 0, d => d
  | fuel + 1, d =>
    if d.digits ≠ 0 ∧ d.digits % 10 = 0 then dropZeros fuel ⟨d.digits / 10, d.exponent + 1⟩ else d

/-! ## Text -/

/-- Positional notation from `10 ^ low` to `10 ^ high`, always with a point; scientific notation with
    a signed exponent beyond. The number is not zero and its digits end in no zero. -/
def text (low high : Int) (d : Decimal) : String :=
  let ds := Nat.toDigits 10 d.digits
  let scientific := d.exponent + ds.length - 1
  if low ≤ scientific ∧ scientific ≤ high then
    if 0 ≤ d.exponent then
      String.ofList (ds ++ List.replicate d.exponent.toNat '0') ++ ".0"
    else if 0 ≤ scientific then
      let whole := scientific.toNat + 1
      String.ofList (ds.take whole) ++ "." ++ String.ofList (ds.drop whole)
    else
      "0." ++ String.ofList (List.replicate (-scientific - 1).toNat '0' ++ ds)
  else
    let mantissa :=
      match ds with
      | first :: second :: rest => String.ofList (first :: '.' :: second :: rest)
      | short => String.ofList short
    mantissa ++ (if scientific < 0 then "e-" else "e+") ++ Nat.repr scientific.natAbs

end Decimal

namespace Double

/-- The number of decimal digits of a natural; zero has none. -/
def digitCount (n : Nat) : Nat :=
  if n = 0 then 0 else (Nat.toDigits 10 n).length

/-- The integer `p` with `10 ^ (p - 1) ≤ num / den < 10 ^ p`, for a positive quotient. -/
def magnitude (num den : Nat) : Int :=
  if den ≤ num then digitCount (num / den) else 1 - digitCount ((den - 1) / num)

/-- The decimals with `count` digits around `num / den`, the nearer one first; of two equally near
    ones the one with even digits is first. -/
def neighbours (num den count : Nat) : List Decimal :=
  let exponent := magnitude num den - count
  let above := num * tenPow (-exponent).toNat
  let below := den * tenPow exponent.toNat
  let near := roundHalfEven above below
  let far := if near = above / below then near + 1 else near - 1
  [⟨near, exponent⟩, ⟨far, exponent⟩]

/-- The nearest decimal with `count` digits that reads back as `x`, if one does. -/
def decimalOfLength? (x : Double) (num den count : Nat) : Option Decimal :=
  (neighbours num den count).find? fun d => d.toDouble x.negative = x

/-- A decimal that is found reads back. -/
theorem toDouble_of_decimalOfLength? {x : Double} {num den count : Nat} {d : Decimal}
    (h : x.decimalOfLength? num den count = some d) : d.toDouble x.negative = x := by
  simpa using List.find?_some h

/-- The shortest decimal that reads back as a finite double other than zero. Seventeen digits always
    do; the exact decimal stands in the last line to keep the function total. -/
def shortest (x : Double) : Decimal :=
  let num := x.units
  let den := twoPow 1074
  match (List.range 17).findSome? fun n => x.decimalOfLength? num den (n + 1) with
  | some d => d.dropZeros 17
  | none => ⟨num * Nat.pow 5 1074, -1074⟩

end Double

end FluentSql
