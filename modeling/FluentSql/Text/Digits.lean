/-!
# `Text.Digits` — numbers of fixed width

Dates, times and identifiers write numbers with leading zeros up to a width; a longer number is
written in full.
-/

namespace FluentSql.Text

/-- The digits of `n` in `base`, padded with zeros to at least `width` characters. -/
def padded (base width n : Nat) : List Char :=
  let digits := Nat.toDigits base n
  List.replicate (width - digits.length) '0' ++ digits

/-- The decimal text of an integer. -/
def decimal (n : Int) : String :=
  match n with
  | .ofNat n => Nat.repr n
  | .negSucc n => "-" ++ Nat.repr (n + 1)

/-- At least `width` decimal digits. -/
theorem width_le_length_padded (base width n : Nat) : width ≤ (padded base width n).length := by
  simp only [padded, List.length_append, List.length_replicate]
  omega

end FluentSql.Text
