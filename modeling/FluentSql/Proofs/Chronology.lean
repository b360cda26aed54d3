import FluentSql.Proofs.Chronology.Calendar
import FluentSql.Value

/-!
# `Chronology` — the texts of dates and times are in the order of time

An engine without a type for dates compares their texts byte by byte, when it sorts rows and when it
looks for a range. Every field has a fixed width and the larger unit comes first, so that the first field
that differs decides, as it does in the calendar. The fraction of a second, of which only as many digits
are written as it needs, comes last; after it stands at most the zone, whose sign comes before the point
and the digits.

## Contents
- `Date.compare_chars` and `Clock.compare_chars`, a day and a time with what follows them.
- `Date.compareBytes_text`, `Timestamp.compareBytes_text`, `Timestamp.compareBytes_utcText`.
- `Value.texts_in_order`, the values of days and times.
-/

namespace FluentSql

/-! ## Characters -/

theorem ascii_padded (width n : Nat) : Text.Ascii (Text.padded 10 width n) := by
  intro c hc
  rcases List.mem_append.mp hc with hc | hc
  · obtain rfl := List.eq_of_mem_replicate hc
    decide
  · have hdigit := Nat.isDigit_of_mem_toDigits (by decide) (by decide) hc
    simp only [Char.isDigit, Bool.and_eq_true, decide_eq_true_eq] at hdigit
    have hle : c.toNat ≤ 57 := hdigit.2
    omega

theorem ascii_fractionText (n : Nat) : Text.Ascii (Clock.fractionText n) := by
  unfold Clock.fractionText
  split
  · nofun
  · split
    · exact .cons (by decide) (ascii_padded _ _)
    · split
      · exact .cons (by decide) (ascii_padded _ _)
      · exact .cons (by decide) (ascii_padded _ _)

theorem Date.ascii_chars (d : Date) : Text.Ascii d.chars := by
  have hyear : Text.Ascii (yearText d.year) := by
    unfold yearText
    split
    · exact .cons (by decide) (ascii_padded _ _)
    · split
      · exact ascii_padded _ _
      · exact .cons (by decide) (ascii_padded _ _)
  exact (hyear.append (.cons (by decide) (ascii_padded _ _))).append
    (.cons (by decide) (ascii_padded _ _))

theorem Clock.ascii_chars (c : Clock) : Text.Ascii c.chars :=
  (((ascii_padded _ _).append (.cons (by decide) (ascii_padded _ _))).append
    (.cons (by decide) (ascii_padded _ _))).append (ascii_fractionText _)

/-! ## Days -/

/-- The year is written with four digits and nothing else. -/
def Date.FourDigitYear (d : Date) : Prop :=
  0 ≤ d.year ∧ d.year ≤ 9999

namespace Date

variable {d e : Date}

theorem FourDigitYear.yearText_eq (h : d.FourDigitYear) :
    yearText d.year = Text.padded 10 4 d.year.natAbs := by
  rw [yearText, if_neg (Int.not_lt.mpr h.1), if_pos h.2]

/-- Years from 0 on compare like their texts without a sign. -/
theorem FourDigitYear.compare_natAbs (hd : d.FourDigitYear) (he : e.FourDigitYear) :
    compare d.year.natAbs e.year.natAbs = compare d.year e.year := by
  have hdpos := hd.1
  have hepos := he.1
  rcases Int.lt_trichotomy d.year e.year with h | h | h
  · rw [Int.compare_eq_lt.mpr h, Nat.compare_eq_lt.mpr (by omega)]
  · rw [h, Std.compare_self, Std.compare_self]
  · rw [Int.compare_eq_gt.mpr h, Nat.compare_eq_gt.mpr (by omega)]

theorem day_le_31 (d : Date) : d.day ≤ 31 := by
  have hday := d.day_le
  unfold daysInMonth at hday
  repeat' split at hday
  all_goals omega

/-- **A day** and what follows. -/
theorem compare_chars (hd : d.FourDigitYear) (he : e.FourDigitYear) (xs ys : List Char) :
    compare (d.chars ++ xs) (e.chars ++ ys) = (d.order e).then (compare xs ys) := by
  have hfields : ∀ d : Date, d.FourDigitYear →
      d.year.natAbs < 10 ^ 4 ∧ d.month < 10 ^ 2 ∧ d.day < 10 ^ 2 := by
    intro d hd
    have hyear := hd.2
    have hpos := hd.1
    have hmonth := d.month_le
    have hday := d.day_le_31
    omega
  obtain ⟨hdyear, hdmonth, hdday⟩ := hfields d hd
  obtain ⟨heyear, hemonth, heday⟩ := hfields e he
  rw [chars, chars, hd.yearText_eq, he.yearText_eq, order_eq_fields]
  simp only [List.append_assoc, List.cons_append]
  rw [Text.compare_padded_append (by decide) hdyear heyear, Text.compare_cons_self,
    Text.compare_padded_append (by decide) hdmonth hemonth, Text.compare_cons_self,
    Text.compare_padded_append (by decide) hdday heday, hd.compare_natAbs he]
  simp only [Ordering.then_assoc]

/-- **The texts of days** are in the order of the days. -/
theorem compareBytes_text (hd : d.FourDigitYear) (he : e.FourDigitYear) :
    Text.compareBytes d.text e.text = d.order e := by
  have hchars := compare_chars hd he [] []
  rw [List.append_nil, List.append_nil, Std.compare_self, Ordering.then_eq] at hchars
  rw [text, text, Text.compareBytes_ofList d.ascii_chars e.ascii_chars, hchars]

end Date

/-! ## Times -/

namespace Clock

variable {c d : Clock} {rest : List Char}

/-- The fraction of a second has digits enough for all of it. -/
theorem exists_fractionDigits {n : Nat} (hne : n ≠ 0) (hn : n < 10 ^ 9) :
    ∃ width ≤ 9, 10 ^ (9 - width) ∣ n ∧ fractionText n = '.' :: Text.fractionDigits width n := by
  have hdigits : ∀ width, 0 < width → width ≤ 9 →
      Text.padded 10 width (n / 10 ^ (9 - width)) = Text.fractionDigits width n :=
    fun width hpos hle => Text.padded_eq_lastDigits hpos (Text.div_lt_of_width hle hn)
  unfold fractionText
  rw [if_neg hne]
  split
  · next h =>
    exact ⟨3, by decide, Nat.dvd_of_mod_eq_zero h, congrArg _ (hdigits 3 (by decide) (by decide))⟩
  · split
    · next h =>
      exact ⟨6, by decide, Nat.dvd_of_mod_eq_zero h, congrArg _ (hdigits 6 (by decide) (by decide))⟩
    · have hall := hdigits 9 (by decide) (by decide)
      rw [Nat.sub_self, Nat.pow_zero, Nat.div_one] at hall
      exact ⟨9, by decide, Nat.one_dvd n, congrArg _ hall⟩

/-- The smaller of two fractions comes first, also if it is none. -/
theorem compare_fractionText_lt (hrest : Text.BeforePoint rest) {m n : Nat} (hn : n < 10 ^ 9)
    (hmn : m < n) : compare (fractionText m ++ rest) (fractionText n ++ rest) = .lt := by
  obtain ⟨w, hw, hexact, hright⟩ := exists_fractionDigits (Nat.ne_zero_of_lt hmn) hn
  by_cases hzero : m = 0
  · rw [hright, fractionText, if_pos hzero, List.nil_append, List.cons_append]
    exact hrest.compare_cons (Nat.le_refl _) _
  · obtain ⟨v, hv, _, hleft⟩ := exists_fractionDigits hzero (Nat.lt_trans hmn hn)
    rw [hleft, hright, List.cons_append, List.cons_append, Text.compare_cons_self]
    exact Text.compare_fraction_lt hv hw hn hexact hmn hrest

/-- **Fractions** with what follows both of them. -/
theorem compare_fractionText (hrest : Text.BeforePoint rest) {m n : Nat} (hm : m < 10 ^ 9)
    (hn : n < 10 ^ 9) :
    compare (fractionText m ++ rest) (fractionText n ++ rest) = compare m n := by
  rcases Nat.lt_trichotomy m n with h | h | h
  · rw [Nat.compare_eq_lt.mpr h, compare_fractionText_lt hrest hn h]
  · rw [h, Std.compare_self, Std.compare_self]
  · rw [Nat.compare_eq_gt.mpr h, Std.OrientedOrd.eq_swap, compare_fractionText_lt hrest hm h]
    rfl

/-- **A time** with what follows it. -/
theorem compare_chars (hrest : Text.BeforePoint rest) (c d : Clock) :
    compare (c.chars ++ rest) (d.chars ++ rest) = c.order d := by
  have hfields : ∀ c : Clock, c.hour < 10 ^ 2 ∧ c.minute < 10 ^ 2 ∧ c.shownSecond < 10 ^ 2 ∧
      c.nanosecond % 1000000000 < 10 ^ 9 := by
    intro c
    have hhour := c.hour_lt
    have hminute := c.minute_lt
    have hsecond := c.second_lt
    have hnanosecond := c.nanosecond_lt
    unfold shownSecond
    omega
  obtain ⟨hchour, hcminute, hcsecond, hcfraction⟩ := hfields c
  obtain ⟨hdhour, hdminute, hdsecond, hdfraction⟩ := hfields d
  rw [chars, chars, order_eq_fields]
  simp only [List.append_assoc, List.cons_append]
  rw [Text.compare_padded_append (by decide) hchour hdhour, Text.compare_cons_self,
    Text.compare_padded_append (by decide) hcminute hdminute, Text.compare_cons_self,
    Text.compare_padded_append (by decide) hcsecond hdsecond,
    compare_fractionText hrest hcfraction hdfraction]

end Clock

/-! ## Timestamps -/

namespace Timestamp

variable {t u : Timestamp}

/-- A day, a separator and a time, with what follows them. -/
theorem compare_chars (ht : t.date.FourDigitYear) (hu : u.date.FourDigitYear) {rest : List Char}
    (hrest : Text.BeforePoint rest) (separator : Char) :
    compare (t.date.chars ++ (separator :: (t.clock.chars ++ rest)))
      (u.date.chars ++ (separator :: (u.clock.chars ++ rest))) = t.order u := by
  rw [Date.compare_chars ht hu, Text.compare_cons_self, Clock.compare_chars hrest, order]

/-- **The texts of timestamps** are in the order of time. -/
theorem compareBytes_text (ht : t.date.FourDigitYear) (hu : u.date.FourDigitYear) :
    Text.compareBytes t.text u.text = t.order u := by
  have hascii : ∀ t : Timestamp, Text.Ascii (t.date.chars ++ ' ' :: t.clock.chars) := fun t =>
    t.date.ascii_chars.append (.cons (by decide) t.clock.ascii_chars)
  have hnothing : Text.BeforePoint [] := nofun
  have hchars := compare_chars ht hu hnothing ' '
  rw [List.append_nil, List.append_nil] at hchars
  rw [text, text, Text.compareBytes_ofList (hascii t) (hascii u), hchars]

/-- **The texts of timestamps in universal time** are in the order of time: the sign of the zone comes
    before the point and the digits of a fraction. -/
theorem compareBytes_utcText (ht : t.date.FourDigitYear) (hu : u.date.FourDigitYear) :
    Text.compareBytes t.utcText u.utcText = t.order u := by
  have hascii : ∀ t : Timestamp,
      Text.Ascii (t.date.chars ++ 'T' :: t.clock.chars ++ "+00:00".toList) := fun t =>
    (t.date.ascii_chars.append (.cons (by decide) t.clock.ascii_chars)).append (by decide)
  have hzone : Text.BeforePoint "+00:00".toList := by
    intro c hc
    obtain rfl : '+' = c := Option.some.inj hc
    decide
  rw [utcText, utcText, Text.compareBytes_ofList (hascii t) (hascii u), List.append_assoc,
    List.append_assoc, List.cons_append, List.cons_append, compare_chars ht hu hzone]

end Timestamp

/-! ## Values -/

namespace Value

/-- Both values are texts, and byte by byte these compare in the given order. -/
def TextsCompare (v w : Value) (order : Ordering) : Prop :=
  ∃ s t, v = .text s ∧ w = .text t ∧ Text.compareBytes s t = order

/-- If only equal texts compare as equal, so do the values. -/
theorem TextsCompare.order_eq {v w : Value} {order : Ordering} (h : TextsCompare v w order)
    (heq : v = w) : order = .eq := by
  obtain ⟨s, t, rfl, rfl, rfl⟩ := h
  obtain rfl := Value.text.inj heq
  exact Std.compare_self

/-- **Days and times as values.** From the year 0 to the year 9999, the texts that stand for days and
    for timestamps, with and without a zone, compare like the days and times, leap seconds among them;
    and only equal ones have equal texts. -/
theorem texts_in_order :
    (∀ d e : Date, d.FourDigitYear → e.FourDigitYear →
      TextsCompare (ofDate d) (ofDate e) (d.order e) ∧ (ofDate d = ofDate e → d = e)) ∧
    (∀ t u : Timestamp, t.date.FourDigitYear → u.date.FourDigitYear →
      TextsCompare (ofTimestamp t) (ofTimestamp u) (t.order u) ∧
        (ofTimestamp t = ofTimestamp u → t = u)) ∧
    ∀ t u : Timestamp, t.date.FourDigitYear → u.date.FourDigitYear →
      TextsCompare (ofUtc t) (ofUtc u) (t.order u) ∧ (ofUtc t = ofUtc u → t = u) := by
  refine ⟨fun d e hd he => ?_, fun t u ht hu => ?_, fun t u ht hu => ?_⟩
  · have hcompare : TextsCompare (ofDate d) (ofDate e) (d.order e) :=
      ⟨d.text, e.text, rfl, rfl, Date.compareBytes_text hd he⟩
    exact ⟨hcompare, fun heq => Date.order_eq_iff.mp (hcompare.order_eq heq)⟩
  · have hcompare : TextsCompare (ofTimestamp t) (ofTimestamp u) (t.order u) :=
      ⟨t.text, u.text, rfl, rfl, Timestamp.compareBytes_text ht hu⟩
    exact ⟨hcompare, fun heq => Timestamp.order_eq_iff.mp (hcompare.order_eq heq)⟩
  · have hcompare : TextsCompare (ofUtc t) (ofUtc u) (t.order u) :=
      ⟨t.utcText, u.utcText, rfl, rfl, Timestamp.compareBytes_utcText ht hu⟩
    exact ⟨hcompare, fun heq => Timestamp.order_eq_iff.mp (hcompare.order_eq heq)⟩

end Value

/-! ## A leap day and a leap second -/

/-- The last day of a February. -/
def leapDay : Date :=
  ⟨2024, 2, 29, by decide, by decide, by decide, by decide⟩

/-- The day after it. -/
def firstOfMarch : Date :=
  ⟨2024, 3, 1, by decide, by decide, by decide, by decide⟩

/-- A timestamp on the last day of a year, in the last second of the day. -/
def lastSecond (nanosecond : Nat) (h : nanosecond < 2000000000) : Timestamp where
  date := ⟨2016, 12, 31, by decide, by decide, by decide, by decide⟩
  clock := ⟨23, 59, 59, nanosecond, by decide, by decide, by decide, h, fun _ => rfl⟩

/-- A leap second at the end of a year comes after 59 seconds and any fraction: `23:59:59.120001` before
    `23:59:60.500`. In universal time, `23:59:59+00:00` comes before `23:59:59.120+00:00`, and that before
    `23:59:59.120001+00:00`. -/
theorem texts_in_order_leapSecond :
    (leapDay.FourDigitYear ∧ firstOfMarch.FourDigitYear ∧
      ∀ n h, (lastSecond n h).date.FourDigitYear) ∧
    Value.TextsCompare (.ofDate leapDay) (.ofDate firstOfMarch) .lt ∧
    Value.ofTimestamp (lastSecond 1500000000 (by decide)) = .text "2016-12-31 23:59:60.500" ∧
    Value.TextsCompare (.ofTimestamp (lastSecond 120001000 (by decide)))
      (.ofTimestamp (lastSecond 1500000000 (by decide))) .lt ∧
    Value.ofUtc (lastSecond 0 (by decide)) = .text "2016-12-31T23:59:59+00:00" ∧
    Value.TextsCompare (.ofUtc (lastSecond 0 (by decide)))
      (.ofUtc (lastSecond 120000000 (by decide))) .lt ∧
    Value.TextsCompare (.ofUtc (lastSecond 120000000 (by decide)))
      (.ofUtc (lastSecond 120001000 (by decide))) .lt := by
  obtain ⟨hdates, htimestamps, hutc⟩ := Value.texts_in_order
  have hlast : ∀ n h, (lastSecond n h).date.FourDigitYear := by
    intro n h
    show (0 : Int) ≤ 2016 ∧ (2016 : Int) ≤ 9999
    decide
  have hleapDay : leapDay.FourDigitYear := ⟨by decide, by decide⟩
  have hfirstOfMarch : firstOfMarch.FourDigitYear := ⟨by decide, by decide⟩
  exact ⟨⟨hleapDay, hfirstOfMarch, hlast⟩, (hdates _ _ hleapDay hfirstOfMarch).1, by decide,
    (htimestamps _ _ (hlast _ _) (hlast _ _)).1, by decide, (hutc _ _ (hlast _ _) (hlast _ _)).1,
    (hutc _ _ (hlast _ _) (hlast _ _)).1⟩

end FluentSql
