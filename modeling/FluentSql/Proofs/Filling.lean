import FluentSql.Text.Blank
import FluentSql.Text.Scan
import FluentSql.Value

/-!
# `Filling` — literals in place of the markers of a text

A statement is sent as a text with markers and a list of values; an engine reads the n-th value at the
n-th marker. Writing a literal for each value in place of its marker makes that reading visible: two
texts are related when the second is the first with the literals of a list of values written in, and
neither markers nor values are left over.

## Contents
- `Text.fill`, the function, and `Text.Filled`, the same as a relation on characters.
- `Fills`, the relation for the literals of a list of values, and what it commutes with: appending,
  interposing a separator, leaving out empty parts, trimming.
-/

namespace FluentSql

namespace Text

/-! ## Filling a text -/

/-- Write texts in place of the question marks, from left to right. There is no result unless both are
    used up together. -/
def fillChars : List (List Char) → List Char → Option (List Char)
  | texts, [] => if texts.isEmpty then some [] else none
  | texts, c :: cs =>
    if c = '?' then
      match texts with
      | [] => none
      | text :: texts => (fillChars texts cs).map (text ++ ·)
    else (fillChars texts cs).map (c :: ·)

/-- Write texts in place of the question marks of a string. -/
def fill (texts : List String) (s : String) : Option String :=
  (fillChars (texts.map String.toList) s.toList).map String.ofList

/-- The number of question marks in a string. -/
def markers (s : String) : Nat :=
  s.toList.count '?'

/-- The string has no question mark. -/
def Unmarked (s : String) : Prop :=
  '?' ∉ s.toList

instance (s : String) : Decidable (Unmarked s) :=
  inferInstanceAs (Decidable ('?' ∉ s.toList))

/-- A text that is neither empty nor has a blank in it. -/
def Solid (text : List Char) : Prop :=
  text ≠ [] ∧ ∀ c ∈ text, isBlank c = false

instance (text : List Char) : Decidable (Solid text) :=
  decidable_of_iff (text ≠ [] ∧ text.all (fun c => !isBlank c) = true) (by simp [Solid])

/-- The second text is the first with the given texts in place of its question marks. -/
inductive Filled : List (List Char) → List Char → List Char → Prop where
  | nil : Filled [] [] []
  | char {texts : List (List Char)} {s t : List Char} {c : Char} (hc : c ≠ '?')
      (h : Filled texts s t) : Filled texts (c :: s) (c :: t)
  | marker {texts : List (List Char)} {s t text : List Char} (h : Filled texts s t) :
      Filled (text :: texts) ('?' :: s) (text ++ t)

/-- The function computes the relation. -/
theorem fillChars_eq_some_iff {texts : List (List Char)} {s t : List Char} :
    fillChars texts s = some t ↔ Filled texts s t := by
  constructor
  · intro h
    -- the first character decides whether a text is taken, so that the texts change with the text
    induction s generalizing texts t with
    | nil =>
      cases texts with
      | nil =>
        obtain rfl : [] = t := by simpa [fillChars] using h
        exact .nil
      | cons text texts => simp [fillChars] at h
    | cons c cs ih =>
      by_cases hc : c = '?'
      · subst hc
        cases texts with
        | nil => simp [fillChars] at h
        | cons text texts =>
          obtain ⟨u, hu, rfl⟩ : ∃ u, fillChars texts cs = some u ∧ text ++ u = t := by
            simpa [fillChars] using h
          exact .marker (ih hu)
      · obtain ⟨u, hu, rfl⟩ : ∃ u, fillChars texts cs = some u ∧ c :: u = t := by
          simpa [fillChars, hc] using h
        exact .char hc (ih hu)
  · intro h
    induction h with
    | nil => rfl
    | char hc _ ih => simp [fillChars, hc, ih]
    | marker _ ih => simp [fillChars, ih]

/-! ### Texts that no trimming touches -/

theorem Solid.reverse {text : List Char} (h : Solid text) : Solid text.reverse :=
  ⟨by simpa using h.1, fun c hc => h.2 c (List.mem_reverse.mp hc)⟩

/-- A solid text in front stops the dropping of blanks. -/
theorem Solid.dropWhile_append {text rest : List Char} (h : Solid text) :
    (text ++ rest).dropWhile isBlank = text ++ rest := by
  cases text with
  | nil => exact absurd rfl h.1
  | cons c cs =>
    rw [List.cons_append, List.dropWhile_cons_of_neg]
    simpa using h.2 c List.mem_cons_self

namespace Filled

variable {texts texts' : List (List Char)} {s s' t t' : List Char}

/-- A text without question marks is filled by nothing. -/
theorem of_not_mem (h : '?' ∉ s) : Filled [] s s := by
  induction s with
  | nil => exact .nil
  | cons c cs ih =>
    obtain ⟨hc, hcs⟩ := not_or.mp (mt List.mem_cons.mpr h)
    exact .char (Ne.symm hc) (ih hcs)

theorem append (h : Filled texts s t) (h' : Filled texts' s' t') :
    Filled (texts ++ texts') (s ++ s') (t ++ t') := by
  induction h with
  | nil => exact h'
  | char hc _ ih => exact .char hc ih
  | marker _ ih =>
    rw [List.append_assoc]
    exact .marker ih

/-- There are as many question marks as texts. -/
theorem count_eq (h : Filled texts s t) : s.count '?' = texts.length := by
  induction h with
  | nil => rfl
  | char hc _ ih => rw [List.count_cons_of_ne hc, ih]
  | marker _ ih => rw [List.count_cons_self, ih, List.length_cons]

/-- As many question marks as texts are enough. -/
theorem exists_of_count_eq (h : s.count '?' = texts.length) : ∃ t, Filled texts s t := by
  induction s generalizing texts with
  | nil =>
    obtain rfl : texts = [] := List.length_eq_zero_iff.mp h.symm
    exact ⟨[], .nil⟩
  | cons c cs ih =>
    by_cases hc : c = '?'
    · subst hc
      rw [List.count_cons_self] at h
      cases texts with
      | nil => simp at h
      | cons text texts =>
        obtain ⟨t, ht⟩ := ih (Nat.succ.inj h)
        exact ⟨text ++ t, .marker ht⟩
    · rw [List.count_cons_of_ne hc] at h
      obtain ⟨t, ht⟩ := ih h
      exact ⟨c :: t, .char hc ht⟩

/-- Read from the right, the texts are filled in from the last to the first. -/
theorem reverse (h : Filled texts s t) :
    Filled (texts.reverse.map List.reverse) s.reverse t.reverse := by
  induction h with
  | nil => exact .nil
  | @char texts s t c hc _ ih =>
    have hlast := ih.append (of_not_mem (s := [c]) (by simpa using Ne.symm hc))
    simpa using hlast
  | @marker texts s t text _ ih =>
    have hlast : Filled [text.reverse] ['?'] (text.reverse ++ []) := .marker .nil
    simpa using ih.append hlast

/-- Filling solid texts into a text leaves empty texts, and only those, empty. -/
theorem eq_nil_iff (h : Filled texts s t) (hs : ∀ text ∈ texts, Solid text) : s = [] ↔ t = [] := by
  cases h with
  | nil => exact Iff.rfl
  | char _ _ => simp
  | marker _ => simpa using fun ht => absurd ht (hs _ List.mem_cons_self).1

/-- Blanks in front are dropped alike before and after solid texts are filled in. -/
theorem dropWhile (h : Filled texts s t) (hs : ∀ text ∈ texts, Solid text) :
    Filled texts (s.dropWhile isBlank) (t.dropWhile isBlank) := by
  induction h with
  | nil => exact .nil
  | @char texts s t c hc h ih =>
    by_cases hb : isBlank c = true
    · rw [List.dropWhile_cons_of_pos hb, List.dropWhile_cons_of_pos hb]
      exact ih hs
    · rw [List.dropWhile_cons_of_neg hb, List.dropWhile_cons_of_neg hb]
      exact .char hc h
  | @marker texts s t text h ih =>
    -- the marker is no blank, and neither is the first character of what takes its place
    rw [(hs text List.mem_cons_self).dropWhile_append, List.dropWhile_cons_of_neg (by decide)]
    exact .marker h

/-- Trimming commutes with filling solid texts in. -/
theorem trimChars (h : Filled texts s t) (hs : ∀ text ∈ texts, Solid text) :
    Filled texts (Text.trimChars s) (Text.trimChars t) := by
  -- the end of a text is trimmed at the front of its reverse, into which solid texts are filled again
  have hback : ∀ text ∈ texts.reverse.map List.reverse, Solid text := by
    intro text htext
    obtain ⟨u, hu, rfl⟩ := List.mem_map.mp htext
    exact (hs u (List.mem_reverse.mp hu)).reverse
  have htrim := ((h.dropWhile hs).reverse.dropWhile hback).reverse
  simpa [Text.trimChars, Text.trimEndChars, List.map_reverse, Function.comp_def] using htrim

end Filled

/-! ## Strings without markers -/

theorem unmarked_empty : Unmarked "" := by
  decide

theorem Unmarked.append {s t : String} (hs : Unmarked s) (ht : Unmarked t) : Unmarked (s ++ t) := by
  simp only [Unmarked, String.toList_append, List.mem_append, not_or]
  exact ⟨hs, ht⟩

theorem markers_eq_zero_iff {s : String} : markers s = 0 ↔ Unmarked s :=
  List.count_eq_zero

theorem markers_eq_zero {s : String} (h : Unmarked s) : markers s = 0 :=
  markers_eq_zero_iff.mpr h

end Text

/-! ## Literals of values -/

/-- How a value is written into a text: by a word without blanks. -/
structure Literals where
  text : Value → String
  solid : ∀ v, Text.Solid (text v).toList

instance : Inhabited Literals where
  default := ⟨fun _ => "0", fun _ => by decide⟩

/-- The second text is the first with the literals of the values in place of its markers. -/
def Fills (lit : Literals) (values : List Value) (s t : String) : Prop :=
  Text.Filled (values.map fun v => (lit.text v).toList) s.toList t.toList

namespace Fills

variable {lit : Literals} {us vs : List Value} {s s' t t' : String}

/-- The relation holds where `fill` gives the second text. -/
theorem iff_fill_eq : Fills lit vs s t ↔ Text.fill (vs.map lit.text) s = some t := by
  rw [Fills, ← Text.fillChars_eq_some_iff, Text.fill, List.map_map]
  constructor
  · intro h
    rw [show String.toList ∘ lit.text = fun v => (lit.text v).toList from rfl, h]
    simp
  · intro h
    obtain ⟨u, hu, rfl⟩ := Option.map_eq_some_iff.mp h
    rw [String.toList_ofList]
    exact hu

theorem solid_literals (vs : List Value) :
    ∀ text ∈ vs.map fun v => (lit.text v).toList, Text.Solid text := by
  intro text htext
  obtain ⟨v, _, rfl⟩ := List.mem_map.mp htext
  exact lit.solid v

/-- A text without markers takes no value. -/
theorem of_unmarked (h : Text.Unmarked s) : Fills lit [] s s :=
  Text.Filled.of_not_mem h

/-- The marker takes one value. -/
theorem marker (v : Value) : Fills lit [v] "?" (lit.text v) := by
  have h : Text.Filled [(lit.text v).toList] ['?'] ((lit.text v).toList ++ []) := .marker .nil
  rwa [List.append_nil] at h

theorem append (h : Fills lit us s t) (h' : Fills lit vs s' t') :
    Fills lit (us ++ vs) (s ++ s') (t ++ t') := by
  rw [Fills, List.map_append, String.toList_append, String.toList_append]
  exact Text.Filled.append h h'

/-- Text without markers in front. -/
theorem prepend (hs : Text.Unmarked s') (h : Fills lit vs s t) : Fills lit vs (s' ++ s) (s' ++ t) :=
  (of_unmarked hs).append h

/-- Text without markers behind. -/
theorem append_unmarked (h : Fills lit vs s t) (hs : Text.Unmarked s') :
    Fills lit vs (s ++ s') (t ++ s') := by
  have hlast := h.append (of_unmarked hs)
  rwa [List.append_nil] at hlast

/-- There are as many markers as values. -/
theorem markers_eq (h : Fills lit vs s t) : Text.markers s = vs.length := by
  rw [Text.markers, Text.Filled.count_eq h, List.length_map]

/-- A text without markers takes nothing. -/
theorem eq_nil (h : Fills lit vs s t) (hs : Text.Unmarked s) : vs = [] := by
  have hlen := h.markers_eq
  rw [Text.markers_eq_zero hs] at hlen
  exact List.length_eq_zero_iff.mp hlen.symm

/-- Literals leave the empty text, and only that, empty. -/
theorem eq_empty_iff (h : Fills lit vs s t) : s = "" ↔ t = "" := by
  have hnil := Text.Filled.eq_nil_iff h (solid_literals vs)
  rwa [String.toList_eq_nil_iff, String.toList_eq_nil_iff] at hnil

/-- Literals hold no blanks, so that trimming commutes with writing them in. -/
theorem trim (h : Fills lit vs s t) : Fills lit vs (Text.trim s) (Text.trim t) := by
  rw [Fills, Text.trim, Text.trim, String.toList_ofList, String.toList_ofList]
  exact Text.Filled.trimChars h (solid_literals vs)

end Fills

end FluentSql
