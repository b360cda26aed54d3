import FluentSql.Text.Blank
import FluentSql.Text.Scan
import Mathlib.Data.List.TakeWhile

/-!
# `Parts` — texts in a row, and blanks at their ends

The clauses of a statement are joined by single blanks, the empty ones left out, and blanks at the ends
of the whole are cut off. So every clause but the first brings its blank with it, and cutting off reaches
no further than to the last character that is not a blank.

## Contents
- `infix_intercalate`: parts that are joined stand in the whole.
- `spaced`, a text with the blank before it; `joinParts_append` and `spaced_joinParts`.
- `trimEnd`, the blanks at the end cut off; `EndsSolid` and `BeginsSolid`, texts that end or begin with
  something else; `trimEnd_append`, how far cutting off reaches.
-/

namespace FluentSql.Text

/-! ## Texts in a row -/

/-- Parts that are joined stand in the whole. -/
theorem infix_intercalate {α : Type} (sep : List α) {part : List α} {parts : List (List α)}
    (h : part ∈ parts) : part <:+: sep.intercalate parts := by
  induction parts with
  | nil => exact absurd h List.not_mem_nil
  | cons first parts ih =>
    cases parts with
    | nil =>
      have hpart := List.mem_singleton.mp h
      simp [hpart]
    | cons second parts =>
      rw [List.intercalate_cons_cons]
      rcases List.mem_cons.mp h with rfl | h
      · exact ((List.prefix_append _ _).trans (List.prefix_append _ _)).isInfix
      · exact (ih h).trans (List.suffix_append _ _).isInfix

/-- A text with a blank before it; an empty text stays empty. -/
def spaced (s : String) : String :=
  if s = "" then "" else " " ++ s

@[simp] theorem spaced_empty : spaced "" = "" :=
  rfl

theorem spaced_of_ne {s : String} (h : s ≠ "") : spaced s = " " ++ s :=
  if_neg h

theorem joinParts_empty_cons (parts : List String) : joinParts ("" :: parts) = joinParts parts :=
  rfl

/-- After the first text stands each other one with its blank. -/
theorem joinParts_cons {s : String} (h : s ≠ "") (parts : List String) :
    joinParts (s :: parts) = s ++ String.join (parts.map spaced) := by
  induction parts generalizing s with
  | nil => simp [joinParts, h]
  | cons t parts ih =>
    rw [List.map_cons, String.join_cons]
    by_cases ht : t = ""
    · -- an empty text is left out
      have hskip : joinParts (s :: "" :: parts) = joinParts (s :: parts) := by
        simp only [joinParts, List.filter_cons, h, ne_eq, not_true_eq_false, decide_false,
          Bool.false_eq_true, if_false]
      rw [ht, hskip, ih h, spaced_empty, String.empty_append]
    · have hnext : joinParts (s :: t :: parts) = s ++ " " ++ joinParts (t :: parts) := by
        simp only [joinParts, List.filter_cons, h, ht, ne_eq, not_false_eq_true, decide_true, if_true,
          String.intercalate_cons_cons]
      rw [hnext, ih ht, spaced_of_ne ht]
      simp only [String.append_assoc]

/-- **More texts** after some that are not all empty: each of them brings its blank. -/
theorem joinParts_append {parts : List String} (h : joinParts parts ≠ "") (more : List String) :
    joinParts (parts ++ more) = joinParts parts ++ String.join (more.map spaced) := by
  induction parts with
  | nil => exact absurd rfl h
  | cons s parts ih =>
    by_cases hs : s = ""
    · subst hs
      rw [List.cons_append, joinParts_empty_cons, joinParts_empty_cons]
      exact ih h
    · rw [List.cons_append, joinParts_cons hs, joinParts_cons hs, List.map_append, String.join_append,
        String.append_assoc]

/-- Texts in a row behind another text: each of them has its blank. -/
theorem spaced_joinParts (parts : List String) :
    spaced (joinParts parts) = String.join (parts.map spaced) := by
  induction parts with
  | nil => rfl
  | cons s parts ih =>
    rw [List.map_cons, String.join_cons]
    by_cases hs : s = ""
    · rw [hs, joinParts_empty_cons, ih, spaced_empty, String.empty_append]
    · have hne : joinParts (s :: parts) ≠ "" := by
        rw [joinParts_cons hs]
        exact fun hnil => hs (String.append_eq_empty_iff.mp hnil).1
      rw [spaced_of_ne hne, joinParts_cons hs, spaced_of_ne hs, String.append_assoc]

/-! ## Blanks at the ends -/

/-- The text without the blanks at its end. -/
def trimEnd (s : String) : String :=
  String.ofList (trimEndChars s.toList)

/-- The text ends with a character that is no blank. -/
def EndsSolid (s : String) : Prop :=
  ∃ front last, s.toList = front ++ [last] ∧ isBlank last = false

namespace EndsSolid

variable {s t : String}

theorem ne_empty (h : EndsSolid s) : s ≠ "" := by
  obtain ⟨front, last, hs, _⟩ := h
  rintro rfl
  simp at hs

/-- What stands before does not matter. -/
theorem prepend (h : EndsSolid t) (s : String) : EndsSolid (s ++ t) := by
  obtain ⟨front, last, ht, hlast⟩ := h
  exact ⟨s.toList ++ front, last, by rw [String.toList_append, ht, List.append_assoc], hlast⟩

/-- A further text may be empty. -/
theorem append (h : EndsSolid s) (ht : t = "" ∨ EndsSolid t) : EndsSolid (s ++ t) := by
  rcases ht with rfl | ht
  · rwa [String.append_empty]
  · exact ht.prepend s

theorem spaced (h : EndsSolid s) : EndsSolid (spaced s) := by
  rw [spaced_of_ne h.ne_empty]
  exact h.prepend " "

/-- Texts in a row, each of them empty or ending with a character that is no blank. -/
theorem append_join (h : EndsSolid s) {parts : List String}
    (hparts : ∀ t ∈ parts, t = "" ∨ EndsSolid t) :
    EndsSolid (s ++ String.join (parts.map Text.spaced)) := by
  induction parts generalizing s with
  | nil => simpa using h
  | cons t parts ih =>
    obtain ⟨ht, hparts⟩ := List.forall_mem_cons.mp hparts
    have hhead : EndsSolid (s ++ Text.spaced t) :=
      h.append (ht.imp (fun hnil => by rw [hnil, spaced_empty]) EndsSolid.spaced)
    rw [List.map_cons, String.join_cons, ← String.append_assoc]
    exact ih hhead hparts

/-- A list with a separator ends like its last text. -/
theorem intercalate (sep : String) {texts : List String} (hne : texts ≠ [])
    (h : ∀ t ∈ texts, EndsSolid t) : EndsSolid (sep.intercalate texts) := by
  induction texts with
  | nil => exact absurd rfl hne
  | cons s texts ih =>
    obtain ⟨hs, htexts⟩ := List.forall_mem_cons.mp h
    cases texts with
    | nil => simpa using hs
    | cons t texts =>
      rw [String.intercalate_cons_cons]
      exact (ih (List.cons_ne_nil _ _) htexts).prepend _

end EndsSolid

/-- **How far cutting off reaches.** It stops at a character that is no blank. -/
theorem trimEnd_append {s : String} (h : EndsSolid s) (t : String) :
    trimEnd (s ++ t) = s ++ trimEnd t := by
  obtain ⟨front, last, hs, hlast⟩ := h
  have hreverse : s.toList.reverse.dropWhile isBlank = s.toList.reverse := by
    simp [hs, hlast]
  have hchars : trimEndChars (s.toList ++ t.toList) = s.toList ++ trimEndChars t.toList := by
    unfold trimEndChars
    rw [List.reverse_append, List.dropWhile_append, hreverse]
    split
    · next hnil => rw [List.isEmpty_iff.mp hnil]; simp
    · rw [List.reverse_append, List.reverse_reverse]
  rw [trimEnd, String.toList_append, hchars, String.ofList_append, String.ofList_toList, trimEnd]

/-- What is left ends with a character that is no blank. -/
theorem endsSolid_trimEnd {s : String} (hne : trimEnd s ≠ "") : EndsSolid (trimEnd s) := by
  have hdrop : s.toList.reverse.dropWhile isBlank ≠ [] := by
    intro hnil
    rw [trimEnd, trimEndChars, hnil] at hne
    exact hne rfl
  obtain ⟨last, front, hlast⟩ := List.exists_cons_of_ne_nil hdrop
  refine ⟨front.reverse, last, ?_, ?_⟩
  · rw [trimEnd, String.toList_ofList, trimEndChars, hlast, List.reverse_cons]
  · have hhead := List.head_dropWhile_not isBlank hdrop
    simpa [hlast] using hhead

/-- Nothing is cut off exactly if there is no blank at the end. -/
theorem trimEnd_eq_self_iff {s : String} (hne : s ≠ "") : trimEnd s = s ↔ EndsSolid s := by
  constructor
  · intro h
    rw [← h] at hne ⊢
    exact endsSolid_trimEnd hne
  · intro h
    have hcut := trimEnd_append h ""
    rwa [String.append_empty, show trimEnd "" = "" from rfl, String.append_empty] at hcut

/-- What is cut off is blank. -/
theorem exists_blanks (s : String) : ∃ blanks, s = trimEnd s ++ blanks ∧ allBlank blanks = true := by
  refine ⟨String.ofList (s.toList.reverse.takeWhile isBlank).reverse, ?_, ?_⟩
  · rw [trimEnd, trimEndChars, ← String.ofList_append, ← List.reverse_append,
      List.takeWhile_append_dropWhile, List.reverse_reverse, String.ofList_toList]
  · simp only [allBlank, String.toList_ofList, List.all_reverse]
    exact List.all_takeWhile

/-- The text begins with a character that is no blank. -/
def BeginsSolid (s : String) : Prop :=
  ∃ first rest, s.toList = first :: rest ∧ isBlank first = false

namespace BeginsSolid

variable {s : String}

/-- What stands behind does not matter. -/
theorem append (h : BeginsSolid s) (t : String) : BeginsSolid (s ++ t) := by
  obtain ⟨first, rest, hs, hfirst⟩ := h
  exact ⟨first, rest ++ t.toList, by rw [String.toList_append, hs, List.cons_append], hfirst⟩

theorem ne_empty (h : BeginsSolid s) : s ≠ "" := by
  obtain ⟨first, rest, hs, _⟩ := h
  rintro rfl
  simp at hs

theorem joinParts (h : BeginsSolid s) (parts : List String) :
    BeginsSolid (joinParts (s :: parts)) := by
  rw [joinParts_cons h.ne_empty]
  exact h.append _

/-- Blanks are cut off at the end only. -/
theorem trim_eq (h : BeginsSolid s) : trim s = trimEnd s := by
  obtain ⟨first, rest, hs, hfirst⟩ := h
  rw [trim, trimChars, trimEnd, hs, List.dropWhile_cons_of_neg (by simp [hfirst])]

/-- Cutting off blanks at the end does not reach the first character. -/
theorem endsSolid_trimEnd (h : BeginsSolid s) : EndsSolid (trimEnd s) := by
  obtain ⟨first, rest, hs, hfirst⟩ := h
  apply Text.endsSolid_trimEnd
  intro hnil
  have hdrop : s.toList.reverse.dropWhile isBlank = [] := by
    simpa [trimEnd, trimEndChars] using hnil
  have hblank := List.dropWhile_eq_nil_iff.mp hdrop first (by simp [hs])
  exact absurd hblank (by simp [hfirst])

end BeginsSolid

end FluentSql.Text
