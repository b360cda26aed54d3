import FluentSql.Proofs.Bytes
import FluentSql.Text.Digits
import Mathlib.Algebra.Ring.Nat
import Mathlib.Order.Compare

/-!
# `Chronology.Digits` — texts compared byte by byte

Texts are compared from the front: the first byte that differs decides, and a text stands before its own
continuations. So numbers of one width compare like their texts, and fields of fixed widths in a row
compare like the numbers in them, the first field first. Fractions have different widths. What counts
there is that nothing which follows a fraction comes after a digit.

## Contents
- `Text.compareBytes`, and `Text.compareBytes_ofList` for texts of ASCII characters.
- `Text.lastDigits`, the digits of a field, and `Text.compare_padded_append`, a field and what follows.
- `Text.compare_fraction_lt`, fractions of different widths.
-/

namespace FluentSql.Text

/-! ## Bytes -/

/-- Two texts compared byte by byte. -/
def compareBytes (s t : String) : Ordering :=
  compare (bytes s) (bytes t)

/-- Of two characters of ASCII, the bytes compare like the characters. -/
theorem compare_toUInt8 {c d : Char} (hc : c.toNat < 128) (hd : d.toNat < 128) :
    compare c.toUInt8 d.toUInt8 = compare c d := by
  have hbyte : ∀ {c : Char}, c.toNat < 128 → c.toUInt8.toNat = c.toNat := by
    intro c hc
    rw [← Char.toUInt8_val, UInt32.toNat_toUInt8]
    exact Nat.mod_eq_of_lt (Nat.lt_trans hc (by decide))
  have hlt : c.toUInt8 < d.toUInt8 ↔ c < d := by
    rw [UInt8.lt_iff_toNat_lt, hbyte hc, hbyte hd]
    exact Iff.rfl
  have heq : c.toUInt8 = d.toUInt8 ↔ c = d := by
    rw [← UInt8.toNat_inj, hbyte hc, hbyte hd, Char.toNat_inj]
  show compareOfLessAndEq c.toUInt8 d.toUInt8 = compareOfLessAndEq c d
  simp only [compareOfLessAndEq, hlt, heq]

theorem compareBytes_ofList {cs ds : List Char} (hcs : Ascii cs) (hds : Ascii ds) :
    compareBytes (String.ofList cs) (String.ofList ds) = compare cs ds := by
  rw [compareBytes, bytes_ofList hcs, bytes_ofList hds]
  induction cs generalizing ds with
  | nil => cases ds <;> rfl
  | cons c cs ih =>
    cases ds with
    | nil => rfl
    | cons d ds =>
      obtain ⟨hc, hcs⟩ := List.forall_mem_cons.mp hcs
      obtain ⟨hd, hds⟩ := List.forall_mem_cons.mp hds
      rw [List.map_cons, List.map_cons, List.compare_cons_cons, List.compare_cons_cons, ih hcs hds,
        compare_toUInt8 hc hd]

/-! ## Lists with the same front -/

/-- The same element in front of two lists does not matter. -/
theorem compare_cons_self (c : Char) (cs ds : List Char) :
    compare (c :: cs) (c :: ds) = compare cs ds := by
  rw [List.compare_cons_cons, Std.compare_self, Ordering.eq_then]

/-- Of lists with fronts of one length, the fronts are compared first. -/
theorem compare_append {xs ys : List Char} (h : xs.length = ys.length) (xs' ys' : List Char) :
    compare (xs ++ xs') (ys ++ ys') = (compare xs ys).then (compare xs' ys') := by
  induction xs generalizing ys with
  | nil =>
    obtain rfl := List.length_eq_zero_iff.mp h.symm
    rw [List.nil_append, List.nil_append, Std.compare_self, Ordering.eq_then]
  | cons x xs ih =>
    cases ys with
    | nil => cases h
    | cons y ys =>
      rw [List.cons_append, List.cons_append, List.compare_cons_cons, List.compare_cons_cons,
        ih (Nat.succ.inj h), Ordering.then_assoc]

/-! ## Fields of digits -/

/-- Numbers compare like their quotients, and if these are equal like their remainders. -/
theorem compare_div_mod (k m n : Nat) :
    compare m n = (compare (m / k) (n / k)).then (compare (m % k) (n % k)) := by
  have hm := Nat.div_add_mod m k
  have hn := Nat.div_add_mod n k
  rcases Nat.lt_trichotomy (m / k) (n / k) with h | h | h
  · rw [Nat.compare_eq_lt.mpr h, Nat.compare_eq_lt.mpr (Nat.lt_of_div_lt_div h)]
    rfl
  · rw [h, Std.compare_self, Ordering.eq_then]
    rw [h] at hm
    rcases Nat.lt_trichotomy (m % k) (n % k) with h' | h' | h'
    · rw [Nat.compare_eq_lt.mpr h', Nat.compare_eq_lt.mpr (by omega)]
    · rw [h', Std.compare_self, Nat.compare_eq_eq.mpr (by omega)]
    · rw [Nat.compare_eq_gt.mpr h', Nat.compare_eq_gt.mpr (by omega)]
  · rw [Nat.compare_eq_gt.mpr h, Nat.compare_eq_gt.mpr (Nat.lt_of_div_lt_div h)]
    rfl

/-- The last digits of a number, from the first to the last of them. -/
def lastDigits : Nat → Nat → List Char
  | 0, _ => []
  | width + 1, n => lastDigits width (n / 10) ++ [Nat.digitChar (n % 10)]

@[simp] theorem length_lastDigits (width n : Nat) : (lastDigits width n).length = width := by
  induction width generalizing n with
  | zero => rfl
  | succ width ih => rw [lastDigits, List.length_append, ih, List.length_singleton]

theorem lastDigits_zero (width : Nat) : lastDigits width 0 = List.replicate width '0' := by
  induction width with
  | zero => rfl
  | succ width ih =>
    rw [lastDigits, Nat.zero_div, ih, List.replicate_succ']
    rfl

/-- A number that has no more digits than its field is written with its last digits. -/
theorem padded_eq_lastDigits {width n : Nat} (hwidth : 0 < width) (hn : n < 10 ^ width) :
    padded 10 width n = lastDigits width n := by
  induction width generalizing n with
  | zero => exact absurd hwidth (Nat.lt_irrefl 0)
  | succ width ih =>
    rw [lastDigits]
    by_cases hdigit : n < 10
    · -- one digit, with nothing but zeros before it
      rw [Nat.div_eq_of_lt hdigit, Nat.mod_eq_of_lt hdigit, lastDigits_zero, padded,
        Nat.toDigits_of_lt_base hdigit]
      rfl
    · have hwidth' : 0 < width := by
        rcases Nat.eq_zero_or_pos width with rfl | hpos
        · exact absurd hn hdigit
        · exact hpos
      have hdiv : n / 10 < 10 ^ width := by
        rw [Nat.pow_succ] at hn
        omega
      rw [← ih hwidth' hdiv, padded, padded, Nat.toDigits_eq_if (b := 10) (n := n) (by decide),
        if_neg hdigit]
      simp

/-- The digits at the front of a field are those of the quotient. -/
theorem lastDigits_add (front width n : Nat) :
    lastDigits (front + width) n = lastDigits front (n / 10 ^ width) ++ lastDigits width n := by
  induction width generalizing n with
  | zero => rw [Nat.pow_zero, Nat.div_one, lastDigits, List.append_nil, Nat.add_zero]
  | succ width ih =>
    rw [← Nat.add_assoc, lastDigits, ih, Nat.div_div_eq_div_mul, ← Nat.pow_succ', lastDigits,
      List.append_assoc]

theorem isDigit_of_mem_lastDigits {width n : Nat} {c : Char} (h : c ∈ lastDigits width n) :
    ∃ digit < 10, c = Nat.digitChar digit := by
  induction width generalizing n with
  | zero => cases h
  | succ width ih =>
    rw [lastDigits] at h
    rcases List.mem_append.mp h with h | h
    · exact ih h
    · exact ⟨n % 10, Nat.mod_lt n (by decide), List.mem_singleton.mp h⟩

/-- **A field.** Fields of one width compare like the numbers that stand in them. -/
theorem compare_lastDigits (width m n : Nat) :
    compare (lastDigits width m) (lastDigits width n) = compare (m % 10 ^ width) (n % 10 ^ width) := by
  have hdigits : ∀ a < 10, ∀ b < 10, compare [Nat.digitChar a] [Nat.digitChar b] = compare a b := by
    decide
  induction width generalizing m n with
  | zero => rw [Nat.pow_zero, Nat.mod_one, Nat.mod_one, Std.compare_self]; rfl
  | succ width ih =>
    have hdiv : ∀ a, a % 10 ^ (width + 1) / 10 = a / 10 % 10 ^ width := by
      intro a
      rw [Nat.pow_succ', Nat.mod_mul_right_div_self]
    have hmod : ∀ a, a % 10 ^ (width + 1) % 10 = a % 10 := by
      intro a
      rw [Nat.pow_succ', Nat.mod_mul_right_mod]
    rw [lastDigits, lastDigits, compare_append (by simp), ih,
      hdigits _ (Nat.mod_lt m (by decide)) _ (Nat.mod_lt n (by decide)),
      compare_div_mod 10 (m % 10 ^ (width + 1)), hdiv, hdiv, hmod, hmod]

/-- **A field and what follows.** -/
theorem compare_padded_append {width m n : Nat} (hwidth : 0 < width) (hm : m < 10 ^ width)
    (hn : n < 10 ^ width) (xs ys : List Char) :
    compare (padded 10 width m ++ xs) (padded 10 width n ++ ys) =
      (compare m n).then (compare xs ys) := by
  rw [padded_eq_lastDigits hwidth hm, padded_eq_lastDigits hwidth hn, compare_append (by simp),
    compare_lastDigits, Nat.mod_eq_of_lt hm, Nat.mod_eq_of_lt hn]

/-! ## Fractions -/

/-- The text is empty, or it begins with a character that stands before the point and the digits. -/
def BeforePoint (rest : List Char) : Prop :=
  ∀ c ∈ rest.head?, c.toNat < '.'.toNat

/-- Such a text comes before one that begins with the point or a digit. -/
theorem BeforePoint.compare_cons {rest : List Char} (hrest : BeforePoint rest) {c : Char}
    (hc : '.'.toNat ≤ c.toNat) (cs : List Char) : compare rest (c :: cs) = .lt := by
  cases rest with
  | nil => rfl
  | cons r rest =>
    have hlt : r < c := Nat.lt_of_lt_of_le (hrest r rfl) hc
    have hfirst : compareOfLessAndEq r c = .lt := if_pos hlt
    rw [List.compare_cons_cons]
    exact congrArg (·.then (compare rest cs)) hfirst

/-- The first `width` of the nine digits of a number of billionths. -/
def fractionDigits (width n : Nat) : List Char :=
  lastDigits width (n / 10 ^ (9 - width))

theorem div_lt_of_width {width n : Nat} (hwidth : width ≤ 9) (hn : n < 10 ^ 9) :
    n / 10 ^ (9 - width) < 10 ^ width := by
  have hwidths : width + (9 - width) = 9 := by omega
  rwa [Nat.div_lt_iff_lt_mul (Nat.pow_pos (by decide)), ← Nat.pow_add, hwidths]

/-- More digits of a number begin with fewer digits of it. -/
theorem fractionDigits_of_le {v w : Nat} (hvw : v ≤ w) (hw : w ≤ 9) (n : Nat) :
    fractionDigits w n = fractionDigits v n ++ lastDigits (w - v) (n / 10 ^ (9 - w)) := by
  have hsplit := lastDigits_add v (w - v) (n / 10 ^ (9 - w))
  have hwidth : v + (w - v) = w := by omega
  have hzeros : 9 - w + (w - v) = 9 - v := by omega
  rwa [hwidth, Nat.div_div_eq_div_mul, ← Nat.pow_add, hzeros] at hsplit

/-- Of two numbers, the digits at the front compare as far as they go. -/
theorem compare_fractionDigits {width m n : Nat} (hwidth : width ≤ 9) (hm : m < 10 ^ 9)
    (hn : n < 10 ^ 9) :
    compare (fractionDigits width m) (fractionDigits width n) =
      compare (m / 10 ^ (9 - width)) (n / 10 ^ (9 - width)) := by
  rw [fractionDigits, fractionDigits, compare_lastDigits,
    Nat.mod_eq_of_lt (div_lt_of_width hwidth hm), Nat.mod_eq_of_lt (div_lt_of_width hwidth hn)]

/-- **Fractions of different widths.** The smaller number comes first, if the greater one is written
    exactly. -/
theorem compare_fraction_lt {v w m n : Nat} (hv : v ≤ 9) (hw : w ≤ 9) (hn : n < 10 ^ 9)
    (hexact : 10 ^ (9 - w) ∣ n) (hmn : m < n) {rest : List Char} (hrest : BeforePoint rest) :
    compare (fractionDigits v m ++ rest) (fractionDigits w n ++ rest) = .lt := by
  have hm : m < 10 ^ 9 := Nat.lt_trans hmn hn
  rcases Nat.lt_or_ge v w with hvw | hwv
  · -- the text of the smaller number ends first
    have hle : m / 10 ^ (9 - v) ≤ n / 10 ^ (9 - v) := Nat.div_le_div_right (Nat.le_of_lt hmn)
    rw [fractionDigits_of_le (Nat.le_of_lt hvw) hw n, List.append_assoc,
      compare_append (by simp [fractionDigits]), compare_fractionDigits hv hm hn]
    rcases Nat.lt_or_eq_of_le hle with hlt | heq
    · rw [Nat.compare_eq_lt.mpr hlt]
      rfl
    · obtain ⟨c, cs, hdigits⟩ : ∃ c cs, lastDigits (w - v) (n / 10 ^ (9 - w)) = c :: cs := by
        apply List.exists_cons_of_length_pos
        rw [length_lastDigits]
        omega
      obtain ⟨digit, hdigit, hc⟩ := isDigit_of_mem_lastDigits (hdigits ▸ List.mem_cons_self)
      have hpoint : ∀ digit < 10, '.'.toNat ≤ (Nat.digitChar digit).toNat := by decide
      rw [heq, Std.compare_self, Ordering.eq_then, hdigits, List.cons_append]
      exact hrest.compare_cons (hc ▸ hpoint digit hdigit) _
  · -- the digits at the front decide
    have hlt : m / 10 ^ (9 - w) < n / 10 ^ (9 - w) := by
      rwa [Nat.div_lt_iff_lt_mul (Nat.pow_pos (by decide)), Nat.div_mul_cancel hexact]
    rw [fractionDigits_of_le hwv hv m, List.append_assoc, compare_append (by simp [fractionDigits]),
      compare_fractionDigits hw hm hn, Nat.compare_eq_lt.mpr hlt]
    rfl

end FluentSql.Text
