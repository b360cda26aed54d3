import FluentSql.Proofs.Filling

/-!
# `Alignment.InOrder` — values distributed over the parts of a text

A clause is a list of parts, and its values are one list: the values of the first part, then those of
the second, and so on. A relation between single parts and the values that they take extends to lists
in that way.

## Contents
- `InOrder`, the extension to lists, and how it goes with appending.
- `Usage`, whether a text uses all values at hand or may leave some out, and `Fits`.
- Texts joined by a separator, and texts joined with the empty ones left out.
-/

namespace FluentSql

/-- Two lists of parts, related part by part, that take the values one part after the other. -/
inductive InOrder {α β : Type} (R : List Value → α → β → Prop) :
    List Value → List α → List β → Prop where
  | nil : InOrder R [] [] []
  | cons {vs ws : List Value} {x : α} {y : β} {xs : List α} {ys : List β} (h : R vs x y)
      (rest : InOrder R ws xs ys) : InOrder R (vs ++ ws) (x :: xs) (y :: ys)

namespace InOrder

variable {α β : Type} {R : List Value → α → β → Prop} {vs ws : List Value} {xs xs' : List α}
  {ys ys' : List β}

theorem append (h : InOrder R vs xs ys) (h' : InOrder R ws xs' ys') :
    InOrder R (vs ++ ws) (xs ++ xs') (ys ++ ys') := by
  induction h with
  | nil => exact h'
  | cons hxy _ ih =>
    rw [List.append_assoc]
    exact .cons hxy ih

theorem singleton {x : α} {y : β} (h : R vs x y) : InOrder R vs [x] [y] := by
  have hone : InOrder R (vs ++ []) [x] [y] := .cons h .nil
  rwa [List.append_nil] at hone

/-- One part more at the end. -/
theorem concat (h : InOrder R vs xs ys) {x : α} {y : β} (hxy : R ws x y) :
    InOrder R (vs ++ ws) (xs ++ [x]) (ys ++ [y]) :=
  h.append (singleton hxy)

theorem isEmpty_eq (h : InOrder R vs xs ys) : xs.isEmpty = ys.isEmpty := by
  cases h <;> rfl

/-- Without parts there are no values. -/
theorem eq_nil (h : InOrder R vs [] ys) : vs = [] := by
  cases h
  rfl

/-- Parts that take no values. -/
theorem of_forall (f : α → β) (h : ∀ x ∈ xs, R [] x (f x)) : InOrder R [] xs (xs.map f) := by
  induction xs with
  | nil => exact .nil
  | cons x xs ih =>
    exact .cons (h x List.mem_cons_self) (ih fun y hy => h y (List.mem_cons_of_mem _ hy))

end InOrder

/-! ## Using values -/

/-- Whether a text uses all values at hand, or may leave some out. -/
inductive Usage where
  | exact
  | loose

namespace Usage

/-- The values used, of the values at hand. -/
def Uses : Usage → List Value → List Value → Prop
  | .exact => fun used values => used = values
  | .loose => fun used values => used.Sublist values

variable {usage : Usage} {us us' vs vs' : List Value}

theorem Uses.refl (usage : Usage) (vs : List Value) : usage.Uses vs vs := by
  cases usage with
  | exact => rfl
  | loose => exact List.Sublist.refl vs

theorem Uses.append (h : usage.Uses us vs) (h' : usage.Uses us' vs') :
    usage.Uses (us ++ us') (vs ++ vs') := by
  cases usage with
  | exact => rw [show us = vs from h, show us' = vs' from h']; rfl
  | loose => exact List.Sublist.append h h'

theorem Uses.trans {ws : List Value} (h : usage.Uses us vs) (h' : usage.Uses vs ws) :
    usage.Uses us ws := by
  cases usage with
  | exact => exact Eq.trans h h'
  | loose => exact List.Sublist.trans h h'

/-- Leaving values out is always allowed to be none. -/
theorem Uses.loosen (h : usage.Uses us vs) : Usage.loose.Uses us vs := by
  cases usage with
  | exact => rw [show us = vs from h]; exact Uses.refl .loose vs
  | loose => exact h

theorem Uses.length_le (h : usage.Uses us vs) : us.length ≤ vs.length :=
  List.Sublist.length_le h.loosen

end Usage

/-- The second text is the first with literals of the used values in place of its markers. -/
def Fits (usage : Usage) (lit : Literals) (values : List Value) (s t : String) : Prop :=
  ∃ used, usage.Uses used values ∧ Fills lit used s t

theorem Fits.of_fills {usage : Usage} {lit : Literals} {vs : List Value} {s t : String}
    (h : Fills lit vs s t) : Fits usage lit vs s t :=
  ⟨vs, .refl usage vs, h⟩

/-- Parts that each leave values out leave values out together. -/
theorem InOrder.exists_uses {α β : Type} {R : List Value → α → β → Prop} {usage : Usage}
    {vs : List Value} {xs : List α} {ys : List β}
    (h : InOrder (fun vs x y => ∃ us, usage.Uses us vs ∧ R us x y) vs xs ys) :
    ∃ us, usage.Uses us vs ∧ InOrder R us xs ys := by
  induction h with
  | nil => exact ⟨[], .refl usage [], .nil⟩
  | cons hxy _ ih =>
    obtain ⟨us, hus, hxy⟩ := hxy
    obtain ⟨ws, hws, hrest⟩ := ih
    exact ⟨us ++ ws, hus.append hws, .cons hxy hrest⟩

/-! ## Joined texts -/

namespace Fills

variable {lit : Literals} {vs : List Value} {xs ys : List String}

/-- Texts joined by a separator. -/
theorem intercalate {sep : String} (hsep : Text.Unmarked sep) (h : InOrder (Fills lit) vs xs ys) :
    Fills lit vs (sep.intercalate xs) (sep.intercalate ys) := by
  induction h with
  | nil => exact of_unmarked (by simp [Text.Unmarked])
  | @cons vs ws x y xs ys hxy hrest ih =>
    cases hrest with
    | nil => simpa using hxy
    | cons _ _ =>
      rw [String.intercalate_cons_cons, String.intercalate_cons_cons]
      exact (hxy.append_unmarked hsep).append ih

/-- Texts joined by blanks, the empty ones left out: the same parts are empty on both sides. -/
theorem joinParts (h : InOrder (Fills lit) vs xs ys) :
    Fills lit vs (Text.joinParts xs) (Text.joinParts ys) := by
  refine intercalate (by simp [Text.Unmarked]) ?_
  induction h with
  | nil => exact .nil
  | @cons vs ws x y xs ys hxy _ ih =>
    -- a part is kept or left out on both sides at once, and one that is left out takes no value
    by_cases hx : x = ""
    · have hy : y = "" := hxy.eq_empty_iff.mp hx
      obtain rfl : vs = [] := hxy.eq_nil (by rw [hx]; simp [Text.Unmarked])
      rw [List.filter_cons_of_neg (by simpa using hx), List.filter_cons_of_neg (by simpa using hy)]
      exact ih
    · have hy : y ≠ "" := mt hxy.eq_empty_iff.mpr hx
      rw [List.filter_cons_of_pos (by simpa using hx), List.filter_cons_of_pos (by simpa using hy)]
      exact .cons hxy ih

end Fills

end FluentSql
