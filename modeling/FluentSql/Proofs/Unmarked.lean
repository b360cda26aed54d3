import FluentSql.Dialect.Quoting
import FluentSql.Operator
import FluentSql.Proofs.Filling
import FluentSql.Proofs.Parts

/-!
# `Unmarked` — texts that a caller gives and that hold no marker

Markers and values can only agree if no marker comes from anywhere else: not from a name, not from an
operator, not from raw text, and not from the characters a dialect adds of its own.

## Contents
- `Dialect.QuestionMarked`, a dialect whose only `?` is its placeholder.
- `Reference.Unmarked` and `Value.Unmarked`, with the texts that the dialect makes of them.
- Recognised operators and numbers hold no marker.
-/

namespace FluentSql

/-- The placeholder is `?`, and the dialect writes no other one of its own. -/
structure Dialect.QuestionMarked (d : Dialect) : Prop where
  marker : d.marker = "?"
  tablePrefix : Text.Unmarked d.tablePrefix
  quote : d.quote ≠ '?'

theorem Dialect.questionMarked_default : Dialect.QuestionMarked {} :=
  ⟨rfl, by decide, by decide⟩

/-- The name or raw text holds no marker. -/
def Reference.Unmarked (r : Reference) : Prop :=
  Text.Unmarked r.text

instance (r : Reference) : Decidable r.Unmarked :=
  inferInstanceAs (Decidable (Text.Unmarked r.text))

/-- A raw value holds no marker; the content of a bound value does not matter. -/
def Value.Unmarked : Value → Prop
  | .raw sql => Text.Unmarked sql
  | _ => True

instance : (v : Value) → Decidable v.Unmarked
  | .raw sql => inferInstanceAs (Decidable (Text.Unmarked sql))
  | .null | .bool _ | .int _ | .float _ | .text _ | .blob _ => inferInstanceAs (Decidable True)

/-! ## Where the characters of a quoted name come from -/

namespace Text

theorem suffix_of_afterKeyword {keyword s rest : List Char} (h : afterKeyword keyword s = some rest) :
    rest <:+ s := by
  induction keyword generalizing s with
  | nil =>
    obtain rfl : s = rest := by simpa [afterKeyword] using h
    exact List.suffix_refl s
  | cons k ks ih =>
    cases s with
    | nil => simp [afterKeyword] at h
    | cons c cs =>
      rw [afterKeyword] at h
      split at h
      · exact (ih h).trans (List.suffix_cons c cs)
      · exact absurd h (by simp)

/-- Both sides of a keyword are taken from the text. -/
theorem mem_of_splitAtKeyword {keyword s before rest : List Char}
    (h : splitAtKeyword keyword s = some (before, rest)) :
    (∀ c ∈ before, c ∈ s) ∧ ∀ c ∈ rest, c ∈ s := by
  induction s generalizing before with
  | nil =>
    obtain ⟨r, hr, heq⟩ := Option.map_eq_some_iff.mp h
    obtain ⟨rfl, rfl⟩ := Prod.mk.inj heq
    exact ⟨by simp, fun c hc => (suffix_of_afterKeyword hr).subset hc⟩
  | cons c cs ih =>
    rw [splitAtKeyword] at h
    split at h
    · next r hr =>
      obtain ⟨rfl, rfl⟩ := Prod.mk.inj (Option.some.inj h)
      exact ⟨by simp, fun c hc => (suffix_of_afterKeyword hr).subset hc⟩
    · obtain ⟨⟨before', rest'⟩, hsplit, heq⟩ := Option.map_eq_some_iff.mp h
      obtain ⟨rfl, rfl⟩ := Prod.mk.inj heq
      obtain ⟨hbefore, hrest⟩ := ih hsplit
      refine ⟨fun x hx => ?_, fun x hx => List.mem_cons_of_mem _ (hrest x hx)⟩
      rcases List.mem_cons.mp hx with rfl | hx
      · exact List.mem_cons_self
      · exact List.mem_cons_of_mem _ (hbefore x hx)

theorem mem_of_mem_trimChars {c : Char} {cs : List Char} (h : c ∈ trimChars cs) : c ∈ cs := by
  have hback := (List.dropWhile_sublist isBlank).subset (List.mem_reverse.mp h)
  exact (List.dropWhile_sublist isBlank).subset (List.mem_reverse.mp hback)

theorem mem_of_mem_intercalate {c : Char} {sep : List Char} {parts : List (List Char)}
    (h : c ∈ sep.intercalate parts) : c ∈ sep ∨ ∃ part ∈ parts, c ∈ part := by
  induction parts with
  | nil => simp at h
  | cons p ps ih =>
    cases ps with
    | nil => exact .inr ⟨p, List.mem_cons_self, by simpa using h⟩
    | cons p' ps =>
      rw [List.intercalate_cons_cons, List.mem_append, List.mem_append] at h
      rcases h with (h | h) | h
      · exact .inr ⟨p, List.mem_cons_self, h⟩
      · exact .inl h
      · rcases ih h with h | ⟨part, hpart, hc⟩
        · exact .inl h
        · exact .inr ⟨part, List.mem_cons_of_mem _ hpart, hc⟩

end Text

theorem mem_of_mem_quoteSegmentChars {c quote : Char} {segment : List Char}
    (h : c ∈ quoteSegmentChars quote segment) : c = quote ∨ c ∈ segment := by
  unfold quoteSegmentChars at h
  split at h
  · exact .inr h
  · rw [List.mem_append, List.mem_cons, List.mem_flatMap, List.mem_singleton] at h
    rcases h with (h | ⟨x, hx, hc⟩) | h
    · exact .inl h
    · split at hc
      · next heq =>
        rw [List.mem_cons, List.mem_singleton, or_self] at hc
        exact .inl hc
      · rw [List.mem_singleton] at hc
        exact .inr (hc ▸ hx)
    · exact .inl h

theorem mem_of_mem_quotePathChars {c quote : Char} {path : List Char}
    (h : c ∈ quotePathChars quote path) : c = quote ∨ c = '.' ∨ c ∈ path := by
  rcases Text.mem_of_mem_intercalate h with h | ⟨part, hpart, hc⟩
  · exact .inr (.inl (List.mem_singleton.mp h))
  · obtain ⟨segment, hsegment, rfl⟩ := List.mem_map.mp hpart
    rcases mem_of_mem_quoteSegmentChars hc with hc | hc
    · exact .inl hc
    · -- the segments joined again are the path
      have hmem : c ∈ ['.'].intercalate (path.splitOn '.') :=
        (Text.infix_intercalate ['.'] hsegment).subset hc
      rw [List.intercalate_splitOn] at hmem
      exact .inr (.inr hmem)

/-- A quoted name holds characters of the name and of the prefix, quotes, points and ` AS `. -/
theorem mem_of_mem_quoteNameChars {c quote : Char} {aliasPrefix name : List Char}
    (h : c ∈ quoteNameChars quote aliasPrefix name) :
    c = quote ∨ c ∈ ['.', ' ', 'A', 'S'] ∨ c ∈ aliasPrefix ∨ c ∈ name := by
  unfold quoteNameChars at h
  split at h
  · next path label hsplit =>
    obtain ⟨hbefore, hrest⟩ := Text.mem_of_splitAtKeyword hsplit
    rw [List.mem_append, List.mem_append] at h
    rcases h with (h | h) | h
    · rcases mem_of_mem_quotePathChars h with h | h | h
      · exact .inl h
      · exact .inr (.inl (by simp [h]))
      · exact .inr (.inr (.inr (hbefore c (Text.mem_of_mem_trimChars h))))
    · have hword : [' ', 'A', 'S', ' '] ⊆ ['.', ' ', 'A', 'S'] := by simp
      exact .inr (.inl (hword h))
    · rcases mem_of_mem_quoteSegmentChars h with h | h
      · exact .inl h
      · rcases List.mem_append.mp h with h | h
        · exact .inr (.inr (.inl h))
        · exact .inr (.inr (.inr (hrest c (Text.mem_of_mem_trimChars h))))
  · rcases mem_of_mem_quotePathChars h with h | h | h
    · exact .inl h
    · exact .inr (.inl (by simp [h]))
    · exact .inr (.inr (.inr h))

/-! ## References in the text of a dialect -/

namespace Dialect

variable {d : Dialect}

theorem QuestionMarked.quoteName (hd : d.QuestionMarked) {name : String} (h : Text.Unmarked name)
    (withPrefix : Bool) : Text.Unmarked (d.quoteName name withPrefix) := by
  intro hmem
  rw [Dialect.quoteName, String.toList_ofList] at hmem
  rcases mem_of_mem_quoteNameChars hmem with hq | hq | hq | hq
  · exact hd.quote hq.symm
  · simp at hq
  · cases withPrefix with
    | false => simp at hq
    | true => exact hd.tablePrefix (by simpa using hq)
  · exact h hq

theorem QuestionMarked.quoteColumn (hd : d.QuestionMarked) {r : Reference} (h : r.Unmarked) :
    Text.Unmarked (d.quoteColumn r) := by
  cases r with
  | named name => exact hd.quoteName h false
  | raw sql => exact h

theorem QuestionMarked.quoteTable (hd : d.QuestionMarked) {r : Reference} (h : r.Unmarked) :
    Text.Unmarked (d.quoteTable r) := by
  cases r with
  | named name => exact hd.quoteName (hd.tablePrefix.append h) true
  | raw sql => exact h

end Dialect

theorem Text.Unmarked.intercalate {sep : String} {xs : List String} (hsep : Text.Unmarked sep)
    (h : ∀ x ∈ xs, Text.Unmarked x) : Text.Unmarked (sep.intercalate xs) := by
  intro hmem
  rw [String.toList_intercalate] at hmem
  rcases Text.mem_of_mem_intercalate hmem with hmem | ⟨part, hpart, hmem⟩
  · exact hsep hmem
  · obtain ⟨x, hx, rfl⟩ := List.mem_map.mp hpart
    exact h x hx hmem

theorem Dialect.QuestionMarked.quoteColumns {d : Dialect} (hd : d.QuestionMarked)
    {columns : List Reference} (h : ∀ c ∈ columns, c.Unmarked) :
    Text.Unmarked (d.quoteColumns columns) := by
  refine Text.Unmarked.intercalate (by simp [Text.Unmarked]) ?_
  intro x hx
  obtain ⟨c, hc, rfl⟩ := List.mem_map.mp hx
  exact hd.quoteColumn (h c hc)

/-! ## Operators and numbers -/

/-- Folding to small letters keeps question marks. -/
theorem Text.Unmarked.of_foldCase {s : String} (h : Text.Unmarked (Text.foldCase s)) :
    Text.Unmarked s := by
  intro hmem
  refine h ?_
  rw [Text.foldCase, String.toList_ofList]
  exact List.mem_map.mpr ⟨'?', hmem, by decide⟩

/-- No recognised operator holds a marker. -/
theorem unmarked_of_isOperator {s : String} (h : isOperator s = true) : Text.Unmarked s := by
  -- the operator is recognised by its folded form, which is one of the list
  have hall : ∀ operator ∈ operators, Text.Unmarked operator := by decide
  exact .of_foldCase (hall _ (List.contains_iff_mem.mp h))

theorem unmarked_repr (n : Nat) : Text.Unmarked (Nat.repr n) := by
  intro hmem
  rw [Nat.repr, String.toList_ofList] at hmem
  exact absurd (Nat.isDigit_of_mem_toDigits (by decide) (by decide) hmem) (by decide)

theorem unmarked_decimal (n : Int) : Text.Unmarked (Text.decimal n) := by
  cases n with
  | ofNat n => exact unmarked_repr n
  | negSucc n => exact Text.Unmarked.append (by decide) (unmarked_repr (n + 1))

end FluentSql
