import FluentSql.Proofs.Chronology.Digits
import FluentSql.Value.Calendar

/-!
# `Chronology.Calendar` — which of two days and times is the earlier one

Days are numbered one after the other, so that the earlier day is the one with the smaller number. A time
of day is a second with a nanosecond in it. A leap second is told by its nanosecond: it belongs to the
last second of its minute and comes before the next minute. The number of a day grows with the year, in a
year with the month, and in a month with the day, so that days compare field by field; so do times.

## Contents
- `Date.number`, and `Date.order`, `Clock.order`, `Timestamp.order`.
- `Date.order_eq_fields` and `Clock.order_eq_fields`, the orders field by field.
- `Date.order_eq_iff`, `Clock.order_eq_iff` and `Timestamp.order_eq_iff`: only equal ones compare as equal.
-/

namespace FluentSql

/-! ## Days -/

/-- The number of days from the first day of the year 0 to the first day of a year. Of the years from 0
    on, each fourth one has a day more, but of the hundreds only each fourth one. -/
def daysBeforeYear (year : Int) : Int :=
  365 * year + (year + 3) / 4 - (year + 99) / 100 + (year + 399) / 400

/-- The number of days of a year before a month. -/
def daysBeforeMonth (year : Int) (month : Nat) : Nat :=
  ((List.range (month - 1)).map fun m => daysInMonth year (m + 1)).sum

/-- The number of a day. -/
def Date.number (d : Date) : Int :=
  daysBeforeYear d.year + daysBeforeMonth d.year d.month + d.day

/-- Which of two days is the earlier one. -/
def Date.order (d e : Date) : Ordering :=
  compare d.number e.number

theorem daysBeforeMonth_succ (year : Int) {month : Nat} (h : 1 ≤ month) :
    daysBeforeMonth year (month + 1) = daysBeforeMonth year month + daysInMonth year month := by
  obtain ⟨m, rfl⟩ := Nat.exists_eq_add_of_le' h
  simp [daysBeforeMonth, List.range_succ]

/-- A month ends before a later one of the same year begins. -/
theorem daysBeforeMonth_le (year : Int) {m n : Nat} (hm : 1 ≤ m) (hmn : m < n) :
    daysBeforeMonth year m + daysInMonth year m ≤ daysBeforeMonth year n := by
  induction hmn with
  | refl => exact Nat.le_of_eq (daysBeforeMonth_succ year hm).symm
  | @step n hn ih =>
    rw [daysBeforeMonth_succ year (Nat.le_trans (Nat.le_add_left 1 m) hn)]
    exact Nat.le_add_right_of_le ih

/-- The months of a year are the days to the next one. -/
theorem daysBeforeYear_succ (year : Int) :
    daysBeforeYear (year + 1) = daysBeforeYear year + daysBeforeMonth year 13 := by
  have hmonths : daysBeforeMonth year 13 = if isLeapYear year then 366 else 365 := by
    simp only [daysBeforeMonth, List.range_succ, List.range_zero, daysInMonth]
    cases isLeapYear year <;> rfl
  rw [hmonths]
  simp only [daysBeforeYear, isLeapYear, Bool.and_eq_true, Bool.or_eq_true, decide_eq_true_eq]
  split <;> omega

/-- A year ends before a later one begins. -/
theorem daysBeforeYear_le {y z : Int} (h : y < z) :
    daysBeforeYear y + daysBeforeMonth y 13 ≤ daysBeforeYear z := by
  rw [← daysBeforeYear_succ]
  unfold daysBeforeYear
  omega

namespace Date

variable {d e : Date}

/-- A day of a month is a day of its year. -/
theorem ordinal_le (d : Date) :
    daysBeforeMonth d.year d.month + d.day ≤ daysBeforeMonth d.year 13 :=
  Nat.le_trans (Nat.add_le_add_left d.day_le _)
    (daysBeforeMonth_le d.year d.month_pos (Nat.lt_succ_of_le d.month_le))

theorem number_lt_of_year (h : d.year < e.year) : d.number < e.number := by
  have hyear := daysBeforeYear_le h
  have hordinal := d.ordinal_le
  have hday := e.day_pos
  unfold number
  omega

theorem number_lt_of_month (hyear : d.year = e.year) (h : d.month < e.month) :
    d.number < e.number := by
  have hmonth := daysBeforeMonth_le d.year d.month_pos h
  have hlast := d.day_le
  have hday := e.day_pos
  unfold number
  rw [← hyear]
  omega

theorem number_lt_of_day (hyear : d.year = e.year) (hmonth : d.month = e.month) (h : d.day < e.day) :
    d.number < e.number := by
  unfold number
  rw [← hyear, ← hmonth]
  omega

/-- **Days** compare by the year, then by the month, then by the day. -/
theorem order_eq_fields (d e : Date) :
    d.order e =
      (compare d.year e.year).then ((compare d.month e.month).then (compare d.day e.day)) := by
  unfold order
  rcases Int.lt_trichotomy d.year e.year with hyear | hyear | hyear
  · rw [Int.compare_eq_lt.mpr hyear, Int.compare_eq_lt.mpr (number_lt_of_year hyear)]
    rfl
  · rw [hyear, Std.compare_self, Ordering.eq_then]
    rcases Nat.lt_trichotomy d.month e.month with hmonth | hmonth | hmonth
    · rw [Nat.compare_eq_lt.mpr hmonth, Int.compare_eq_lt.mpr (number_lt_of_month hyear hmonth)]
      rfl
    · rw [hmonth, Std.compare_self, Ordering.eq_then]
      rcases Nat.lt_trichotomy d.day e.day with hday | hday | hday
      · rw [Nat.compare_eq_lt.mpr hday, Int.compare_eq_lt.mpr (number_lt_of_day hyear hmonth hday)]
      · have hnumber : d.number = e.number := by rw [number, number, hyear, hmonth, hday]
        rw [hday, hnumber, Std.compare_self, Std.compare_self]
      · rw [Nat.compare_eq_gt.mpr hday,
          Int.compare_eq_gt.mpr (number_lt_of_day hyear.symm hmonth.symm hday)]
    · rw [Nat.compare_eq_gt.mpr hmonth,
        Int.compare_eq_gt.mpr (number_lt_of_month hyear.symm hmonth)]
      rfl
  · rw [Int.compare_eq_gt.mpr hyear, Int.compare_eq_gt.mpr (number_lt_of_year hyear)]
    rfl

theorem order_eq_iff : d.order e = .eq ↔ d = e := by
  constructor
  · intro h
    rw [order_eq_fields, Ordering.then_eq_eq, Ordering.then_eq_eq, Std.compare_eq_iff_eq,
      Std.compare_eq_iff_eq, Std.compare_eq_iff_eq] at h
    obtain ⟨hyear, hmonth, hday⟩ := h
    cases d
    cases e
    simp_all
  · rintro rfl
    exact Std.compare_self

end Date

/-! ## Times -/

/-- The seconds of the day before the second of a time. -/
def Clock.secondOfDay (c : Clock) : Nat :=
  3600 * c.hour + 60 * c.minute + c.second

/-- Which of two times is the earlier one: the second decides, and within a second the nanosecond. -/
def Clock.order (c d : Clock) : Ordering :=
  (compare c.secondOfDay d.secondOfDay).then (compare c.nanosecond d.nanosecond)

/-- Which of two timestamps is the earlier one. -/
def Timestamp.order (t u : Timestamp) : Ordering :=
  (t.date.order u.date).then (t.clock.order u.clock)

namespace Clock

variable {c d : Clock}

/-- The second as it is shown and the fraction of it are those of the nanoseconds since the minute
    began. -/
theorem div_mod_nanoseconds (c : Clock) :
    (1000000000 * c.second + c.nanosecond) / 1000000000 = c.shownSecond ∧
      (1000000000 * c.second + c.nanosecond) % 1000000000 = c.nanosecond % 1000000000 := by
  unfold shownSecond
  omega

/-- A second with all its nanoseconds, be it a leap second, ends before a later one of the minute. -/
theorem nanoseconds_lt (h : c.second < d.second) :
    1000000000 * c.second + c.nanosecond < 1000000000 * d.second + d.nanosecond := by
  have hlast := d.second_lt
  have hleap : c.nanosecond < 1000000000 := by
    apply Nat.lt_of_not_le
    intro hle
    have hsecond := c.leap_second hle
    omega
  omega

/-- **Seconds.** In a minute, the second as it is shown decides, and then the fraction of it. -/
theorem compare_second (c d : Clock) :
    (compare c.second d.second).then (compare c.nanosecond d.nanosecond) =
      (compare c.shownSecond d.shownSecond).then
        (compare (c.nanosecond % 1000000000) (d.nanosecond % 1000000000)) := by
  obtain ⟨hcsecond, hcfraction⟩ := c.div_mod_nanoseconds
  obtain ⟨hdsecond, hdfraction⟩ := d.div_mod_nanoseconds
  rw [← hcsecond, ← hdsecond, ← hcfraction, ← hdfraction, ← Text.compare_div_mod]
  rcases Nat.lt_trichotomy c.second d.second with h | h | h
  · rw [Nat.compare_eq_lt.mpr h, Nat.compare_eq_lt.mpr (nanoseconds_lt h)]
    rfl
  · rw [h, Std.compare_self, Ordering.eq_then]
    rcases Nat.lt_trichotomy c.nanosecond d.nanosecond with h' | h' | h'
    · rw [Nat.compare_eq_lt.mpr h', Nat.compare_eq_lt.mpr (Nat.add_lt_add_left h' _)]
    · rw [h', Std.compare_self, Std.compare_self]
    · rw [Nat.compare_eq_gt.mpr h', Nat.compare_eq_gt.mpr (Nat.add_lt_add_left h' _)]
  · rw [Nat.compare_eq_gt.mpr h, Nat.compare_eq_gt.mpr (nanoseconds_lt h)]
    rfl

/-- The hour, the minute and the second are those of the second of the day. -/
theorem div_mod_secondOfDay (c : Clock) :
    c.secondOfDay / 3600 = c.hour ∧ c.secondOfDay % 3600 / 60 = c.minute ∧
      c.secondOfDay % 3600 % 60 = c.second := by
  have hminute := c.minute_lt
  have hsecond := c.second_lt
  unfold secondOfDay
  omega

/-- **Times** compare by the hour, the minute, the second as it is shown, and its fraction. -/
theorem order_eq_fields (c d : Clock) :
    c.order d =
      (compare c.hour d.hour).then ((compare c.minute d.minute).then
        ((compare c.shownSecond d.shownSecond).then
          (compare (c.nanosecond % 1000000000) (d.nanosecond % 1000000000)))) := by
  obtain ⟨hchour, hcminute, hcsecond⟩ := c.div_mod_secondOfDay
  obtain ⟨hdhour, hdminute, hdsecond⟩ := d.div_mod_secondOfDay
  rw [order, Text.compare_div_mod 3600 c.secondOfDay, hchour, hdhour,
    Text.compare_div_mod 60 (c.secondOfDay % 3600), hcminute, hdminute, hcsecond, hdsecond,
    Ordering.then_assoc, Ordering.then_assoc, compare_second]

theorem order_eq_iff : c.order d = .eq ↔ c = d := by
  constructor
  · intro h
    rw [order, Ordering.then_eq_eq, Std.compare_eq_iff_eq, Std.compare_eq_iff_eq] at h
    obtain ⟨hsecondOfDay, hnanosecond⟩ := h
    obtain ⟨hchour, hcminute, hcsecond⟩ := c.div_mod_secondOfDay
    obtain ⟨hdhour, hdminute, hdsecond⟩ := d.div_mod_secondOfDay
    rw [hsecondOfDay] at hchour hcminute hcsecond
    cases c
    cases d
    simp_all
  · rintro rfl
    rw [order, Std.compare_self, Std.compare_self]
    rfl

end Clock

theorem Timestamp.order_eq_iff {t u : Timestamp} : t.order u = .eq ↔ t = u := by
  rw [order, Ordering.then_eq_eq, Date.order_eq_iff, Clock.order_eq_iff]
  cases t
  cases u
  simp

end FluentSql
