import FluentSql.Proofs.RawFree
import Mathlib.Data.List.DropRight
import Mathlib.Data.List.Induction

/-!
# `Ledger` — a clause as a ledger of its own

Bound values change in few ways: values are added to one clause, one clause is set anew, or other bound
values are folded into all clauses at once, perhaps a copy of the very same ones. However these changes
are mixed, each clause is a ledger: it holds what has been written into it since it was last set, in the
order of writing. A change of another clause is not seen in it, and neither is any raw value.

## Contents
- `Bindings.Change`, `Change.apply` and `Bindings.made`, changes and what they make of no values.
- `Change.entries`, what one change writes into a clause; `Bindings.history` and `Bindings.sinceSet`, the
  changes that count for it.
- `Change.get_apply`, one change, and `Bindings.get_made`, all of them in a row.
- `Bindings.get_made_filter`, the changes that a clause does not see.
- `Bindings.made_ledgers`, all clauses and their concatenation.
-/

namespace FluentSql

namespace Bindings

/-! ## Changes -/

/-- A change of bound values. Values that are folded in are made by changes themselves, or they are a
    copy of those they are folded into. -/
inductive Change where
  | push (slot : BindingSlot) (value : Value)
  | extend (slot : BindingSlot) (values : List Value)
  | set (slot : BindingSlot) (values : List Value)
  | merge (changes : List Change)
  | mergeSelf

mutual

/-- What a change makes of bound values. -/
def Change.apply (b : Bindings) : Change → Bindings
  | .push slot value => b.push slot value
  | .extend slot values => b.extend slot values
  | .set slot values => b.set slot values
  | .merge changes => b.merge (applyAll empty changes)
  | .mergeSelf => b.merge b

/-- What changes in a row make of bound values. -/
def applyAll (b : Bindings) : List Change → Bindings
  | [] => b
  | c :: changes => applyAll (c.apply b) changes

end

/-- What changes in a row make of no values. -/
def made (changes : List Change) : Bindings :=
  applyAll empty changes

/-- The changes, each with the bound values it meets. -/
def history (b : Bindings) : List Change → List (Bindings × Change)
  | [] => []
  | c :: changes => (b, c) :: history (c.apply b) changes

variable {b b' : Bindings} {slot : BindingSlot} {c : Change}

theorem applyAll_concat (changes : List Change) (c : Change) :
    b.applyAll (changes ++ [c]) = c.apply (b.applyAll changes) := by
  induction changes generalizing b with
  | nil => rfl
  | cons first changes ih => exact ih

theorem made_concat (changes : List Change) (c : Change) :
    made (changes ++ [c]) = c.apply (made changes) :=
  applyAll_concat changes c

theorem history_concat (changes : List Change) (c : Change) :
    b.history (changes ++ [c]) = b.history changes ++ [(b.applyAll changes, c)] := by
  induction changes generalizing b with
  | nil => rfl
  | cons first changes ih => exact congrArg ((b, first) :: ·) ih

/-! ## What a clause sees of a change -/

namespace Change

/-- Whether the change sets the clause anew. -/
def sets (slot : BindingSlot) : Change → Bool
  | .set changed _ => changed = slot
  | _ => false

/-- Whether the change is one of the clause, alone or with all others. -/
def concerns (slot : BindingSlot) : Change → Bool
  | .push changed _ | .extend changed _ | .set changed _ => changed = slot
  | .merge _ | .mergeSelf => true

/-- What the change writes into the clause, given the bound values it meets. -/
def entries (met : Bindings) (slot : BindingSlot) : Change → List Value
  | .push changed value => if changed = slot then Value.withoutRaw [value] else []
  | .extend changed values | .set changed values =>
    if changed = slot then Value.withoutRaw values else []
  | .merge changes => (made changes).get slot
  | .mergeSelf => met.get slot

/-- Of the bound values it meets, what it writes depends on the same clause only. -/
theorem entries_congr (h : b.get slot = b'.get slot) (c : Change) :
    c.entries b slot = c.entries b' slot := by
  cases c with
  | mergeSelf => exact h
  | _ => rfl

theorem sets_of_not_concerns (h : c.concerns slot = false) : c.sets slot = false := by
  cases c with
  | set changed values => exact h
  | _ => rfl

theorem entries_of_not_concerns (h : c.concerns slot = false) : c.entries b slot = [] := by
  cases c with
  | push changed value | extend changed values | set changed values =>
    exact if_neg (of_decide_eq_false h)
  | merge changes | mergeSelf => cases h

/-- No change brings a raw value in. -/
theorem rawFree_apply (hb : b.RawFree) (c : Change) : (c.apply b).RawFree := by
  cases c with
  | push slot value => exact hb.extend slot [value]
  | extend slot values => exact hb.extend slot values
  | set slot values => exact hb.set slot values
  | merge changes => exact hb.merge (made changes)
  | mergeSelf => exact hb.merge b

end Change

/-- Nor do changes in a row. -/
theorem rawFree_made (changes : List Change) : (made changes).RawFree := by
  induction changes using List.reverseRecOn with
  | nil => exact rawFree_empty
  | append_singleton changes c ih =>
    rw [made_concat]
    exact Change.rawFree_apply ih c

/-- **One change.** Each clause is set to what the change writes into it, or this is added at its end. -/
theorem Change.get_apply (hb : b.RawFree) (c : Change) (slot : BindingSlot) :
    (c.apply b).get slot =
      if c.sets slot then c.entries b slot else b.get slot ++ c.entries b slot := by
  have hextend : ∀ changed values,
      (b.extend changed values).get slot =
        b.get slot ++ if changed = slot then Value.withoutRaw values else [] := by
    intro changed values
    rw [get_extend]
    by_cases h : changed = slot
    · rw [if_pos h.symm, if_pos h]
    · rw [if_neg (Ne.symm h), if_neg h, List.append_nil]
  cases c with
  | push changed value => exact hextend changed [value]
  | extend changed values => exact hextend changed values
  | set changed values =>
    rw [Change.apply, get_set, sets, entries]
    by_cases h : changed = slot
    · simp only [h, decide_true, if_true]
    · simp only [h, Ne.symm h, decide_false, if_false, Bool.false_eq_true, List.append_nil]
  | merge changes =>
    -- what is folded in has no raw values either, so that nothing of it is left out
    exact (get_merge b (made changes) slot).trans (congrArg _ (rawFree_made changes slot))
  | mergeSelf => exact (get_merge b b slot).trans (congrArg _ (hb slot))

/-! ## Changes in a row -/

/-- The last change that sets the clause, if there is one, and all changes after it. -/
def sinceSet (slot : BindingSlot) (changes : List (Bindings × Change)) : List (Bindings × Change) :=
  (changes.filter fun change => change.2.sets slot).getLast?.toList ++
    changes.rtakeWhile fun change => !change.2.sets slot

theorem sinceSet_concat (slot : BindingSlot) (changes : List (Bindings × Change))
    (change : Bindings × Change) :
    sinceSet slot (changes ++ [change]) =
      if change.2.sets slot then [change] else sinceSet slot changes ++ [change] := by
  unfold sinceSet
  cases h : change.2.sets slot with
  | true => simp [h]
  | false => simp [h]

/-- **Changes in a row.** A clause holds what they have written into it since it was last set. -/
theorem get_made (changes : List Change) (slot : BindingSlot) :
    (made changes).get slot =
      (sinceSet slot (empty.history changes)).flatMap fun (met, c) => c.entries met slot := by
  induction changes using List.reverseRecOn with
  | nil => exact get_empty slot
  | append_singleton changes c ih =>
    rw [made_concat, Change.get_apply (rawFree_made changes), history_concat, sinceSet_concat]
    cases h : c.sets slot with
    | true =>
      rw [if_pos rfl, if_pos rfl, List.flatMap_singleton]
      rfl
    | false =>
      rw [if_neg nofun, if_neg nofun, List.flatMap_append, ← ih, List.flatMap_singleton]
      rfl

/-- **Other clauses.** A clause is the same without the changes of other clauses. -/
theorem get_made_filter (changes : List Change) (slot : BindingSlot) :
    (made (changes.filter (·.concerns slot))).get slot = (made changes).get slot := by
  induction changes using List.reverseRecOn with
  | nil => rfl
  | append_singleton changes c ih =>
    rw [List.filter_append, made_concat, Change.get_apply (rawFree_made changes)]
    cases h : c.concerns slot with
    | true =>
      rw [List.filter_singleton, h, cond_true, made_concat, Change.get_apply (rawFree_made _), ih,
        Change.entries_congr ih c]
    | false =>
      rw [List.filter_singleton, h, cond_false, List.append_nil, ih, Change.sets_of_not_concerns h,
        Change.entries_of_not_concerns h, List.append_nil]
      rfl

/-- **Eight ledgers.** Whatever the changes, each clause holds what they have written into it since it was
    last set, without raw values and whatever they write into the other clauses; and what is sent is the
    clauses one after the other, as many values as are counted. -/
theorem made_ledgers (changes : List Change) :
    (∀ slot, (made changes).get slot =
        (sinceSet slot (empty.history changes)).flatMap fun (met, c) => c.entries met slot) ∧
      (∀ slot, Value.withoutRaw ((made changes).get slot) = (made changes).get slot) ∧
      (∀ slot, (made (changes.filter (·.concerns slot))).get slot = (made changes).get slot) ∧
      (made changes).flatten =
        (made changes).get .projection ++ (made changes).get .table ++ (made changes).get .join
          ++ (made changes).get .filter ++ (made changes).get .having ++ (made changes).get .order
          ++ (made changes).get .union ++ (made changes).get .unionOrder ∧
      (made changes).size = (made changes).flatten.length := by
  refine ⟨get_made changes, rawFree_made changes, get_made_filter changes, ?_, ?_⟩
  · simp only [flatten, BindingSlot.all, List.flatMap_cons, List.flatMap_nil, List.append_nil,
      List.append_assoc]
  · exact (length_flatten (made changes)).symm

/-- Values of two clauses, doubled by a copy, of which one clause is then set by what is folded in. -/
example :
    (made [.extend .filter [.int 1, .raw "NOW()"], .push .join (.int 2), .mergeSelf,
      .set .join [.int 3], .merge [.push .join .null, .set .filter [.int 4]]]).flatten =
      [.int 3, .null, .int 1, .int 1, .int 4] := by
  decide

end Bindings

end FluentSql
