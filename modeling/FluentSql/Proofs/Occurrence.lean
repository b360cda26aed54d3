import FluentSql.Text.Scan
import Mathlib.Data.Nat.Find

/-!
# `Occurrence` — where a keyword stands in a text

Keywords are searched from the front of a text, one character after the other. A position says the same
without the search: the characters from there on are those of the keyword, up to ASCII case.

## Contents
- `Text.OccursAt` and `Text.FirstAt`, a keyword at a position and at none before it;
  `Text.firstAt_or_absent`.
- `Text.splitAtKeyword_of_firstAt` and `Text.splitAtKeyword_eq_none`, what the search finds.
-/

namespace FluentSql.Text

/-- The keyword stands at a position of the text, up to ASCII case. -/
def OccursAt (keyword s : List Char) (position : Nat) : Prop :=
  ((s.drop position).take keyword.length).map Char.toLower = keyword

instance (keyword s : List Char) (position : Nat) : Decidable (OccursAt keyword s position) :=
  inferInstanceAs (Decidable (_ = _))

/-- The keyword stands at a position and at none before it. -/
structure FirstAt (keyword s : List Char) (position : Nat) : Prop where
  occurs : OccursAt keyword s position
  first : ∀ earlier < position, ¬ OccursAt keyword s earlier

variable {keyword s rest : List Char} {position : Nat}

/-- A keyword that stands somewhere stands at a first position. -/
theorem firstAt_or_absent (keyword s : List Char) :
    (∃ position, FirstAt keyword s position) ∨ ∀ position, ¬ OccursAt keyword s position := by
  by_cases h : ∃ position, OccursAt keyword s position
  · exact .inl ⟨Nat.find h, Nat.find_spec h, fun earlier hlt => Nat.find_min h hlt⟩
  · exact .inr (not_exists.mp h)

/-- A keyword that is not empty stands before the end of the text. -/
theorem OccursAt.lt_length (h : OccursAt keyword s position) (hne : keyword ≠ []) :
    position < s.length := by
  by_contra hle
  unfold OccursAt at h
  rw [List.drop_eq_nil_of_le (Nat.le_of_not_lt hle), List.take_nil] at h
  exact hne h.symm

/-- The search compares the front of the text. -/
theorem afterKeyword_of_occursAt (h : OccursAt keyword s 0) :
    afterKeyword keyword s = some (s.drop keyword.length) := by
  unfold OccursAt at h
  rw [List.drop_zero] at h
  induction keyword generalizing s with
  | nil => rfl
  | cons k ks ih =>
    cases s with
    | nil => simp at h
    | cons c cs =>
      rw [List.length_cons, List.take_succ_cons, List.map_cons] at h
      obtain ⟨hc, hcs⟩ := List.cons.inj h
      rw [afterKeyword, if_pos hc]
      exact ih hcs

theorem afterKeyword_eq_none (h : ¬ OccursAt keyword s 0) : afterKeyword keyword s = none := by
  unfold OccursAt at h
  rw [List.drop_zero] at h
  induction keyword generalizing s with
  | nil => exact absurd rfl h
  | cons k ks ih =>
    cases s with
    | nil => rfl
    | cons c cs =>
      rw [List.length_cons, List.take_succ_cons, List.map_cons] at h
      rw [afterKeyword]
      split
      · next hc =>
        -- the first character agrees, so that it is the rest that does not
        apply ih
        intro hcs
        exact h (by rw [hc, hcs])
      · rfl

/-- **The first occurrence.** The text is cut around it. -/
theorem splitAtKeyword_of_firstAt (h : FirstAt keyword s position) :
    splitAtKeyword keyword s =
      some (s.take position, s.drop (position + keyword.length)) := by
  induction s generalizing position with
  | nil =>
    -- only the empty keyword stands in the empty text
    have hkeyword : keyword = [] := by
      have hoccurs := h.occurs
      simpa [OccursAt] using hoccurs.symm
    subst hkeyword
    simp [splitAtKeyword, afterKeyword]
  | cons c cs ih =>
    cases position with
    | zero => rw [splitAtKeyword, afterKeyword_of_occursAt h.occurs, Nat.zero_add]; rfl
    | succ position =>
      have hfront : ¬ OccursAt keyword (c :: cs) 0 := h.first 0 (Nat.succ_pos position)
      have hrest : FirstAt keyword cs position :=
        ⟨h.occurs, fun earlier hlt => h.first (earlier + 1) (Nat.succ_lt_succ hlt)⟩
      rw [splitAtKeyword, afterKeyword_eq_none hfront, ih hrest, Nat.add_right_comm]
      rfl

/-- **No occurrence.** The text is not cut. -/
theorem splitAtKeyword_eq_none (h : ∀ position, ¬ OccursAt keyword s position) :
    splitAtKeyword keyword s = none := by
  induction s with
  | nil => rw [splitAtKeyword, afterKeyword_eq_none (h 0)]; rfl
  | cons c cs ih =>
    have hrest : ∀ position, ¬ OccursAt keyword cs position := fun position => h (position + 1)
    rw [splitAtKeyword, afterKeyword_eq_none (h 0), ih hrest]
    rfl

end FluentSql.Text
