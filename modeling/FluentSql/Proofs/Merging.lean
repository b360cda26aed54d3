import FluentSql.Statement.Merging
import Mathlib.Data.List.Nodup

/-!
# `Merging` — folding statements into one another

Statements are folded together to collect clauses from several places. Every clause has its own rule:
lists are appended, a number that is set replaces the one before, and a named column that is there
already is left out. Whatever the rule, it does not matter which of three statements are folded first,
and a statement without clauses adds nothing.

## Contents
- `addColumn`, one column more; `mem_appendColumns`, `appendColumns_assoc` and `namesDistinct`, what the
  columns are.
- `Tail.merge_assoc`, `Bindings.merge_assoc` and `Statement.merge_assoc`, and the units on the right.
- `Statement.merge_laws`, all of it.
-/

namespace FluentSql

/-! ## Columns -/

/-- One column more, unless it is a name that is there already. -/
def addColumn (columns : List Reference) (c : Reference) : List Reference :=
  if c.isRaw = false ∧ c ∈ columns then columns else columns ++ [c]

/-- No name stands twice in the list; raw columns may. -/
def NamesDistinct (columns : List Reference) : Prop :=
  (columns.filterMap Reference.name?).Nodup

variable {xs ys : List Reference} {c : Reference}

/-- The columns are appended one by one. -/
theorem appendColumns_cons (xs : List Reference) (c : Reference) (ys : List Reference) :
    appendColumns xs (c :: ys) = appendColumns (addColumn xs c) ys :=
  rfl

theorem appendColumns_append (xs ys zs : List Reference) :
    appendColumns xs (ys ++ zs) = appendColumns (appendColumns xs ys) zs :=
  List.foldl_append

theorem mem_addColumn {r : Reference} : r ∈ addColumn xs c ↔ r ∈ xs ∨ r = c := by
  unfold addColumn
  split
  · next h =>
    constructor
    · exact .inl
    · rintro (hr | rfl)
      · exact hr
      · exact h.2
  · simp

/-- **No column is lost**, and none is made up. -/
theorem mem_appendColumns {r : Reference} : r ∈ appendColumns xs ys ↔ r ∈ xs ∨ r ∈ ys := by
  induction ys generalizing xs with
  | nil => simp [appendColumns]
  | cons c ys ih => rw [appendColumns_cons, ih, mem_addColumn, List.mem_cons, or_assoc]

/-- A column that was added to the second list is added after it. -/
theorem appendColumns_addColumn (xs ys : List Reference) (c : Reference) :
    appendColumns xs (addColumn ys c) = addColumn (appendColumns xs ys) c := by
  by_cases h : c.isRaw = false ∧ c ∈ ys
  · -- a name of the second list is also one of both together
    have hboth : c.isRaw = false ∧ c ∈ appendColumns xs ys := ⟨h.1, mem_appendColumns.mpr (.inr h.2)⟩
    rw [addColumn, if_pos h, addColumn, if_pos hboth]
  · rw [addColumn, if_neg h, appendColumns_append]
    rfl

/-- **Columns of three statements.** What the last one adds is compared with the columns of both others,
    whether these are together already or not. -/
theorem appendColumns_assoc (xs ys zs : List Reference) :
    appendColumns (appendColumns xs ys) zs = appendColumns xs (appendColumns ys zs) := by
  induction zs generalizing ys with
  | nil => rfl
  | cons c zs ih => rw [appendColumns_cons, appendColumns_cons, ← ih, appendColumns_addColumn]

/-- Raw columns are kept, repeated ones as well. -/
theorem filter_isRaw_appendColumns (xs ys : List Reference) :
    (appendColumns xs ys).filter (·.isRaw) = xs.filter (·.isRaw) ++ ys.filter (·.isRaw) := by
  induction ys generalizing xs with
  | nil => simp [appendColumns]
  | cons c ys ih =>
    have hadd : (addColumn xs c).filter (·.isRaw) = xs.filter (·.isRaw) ++ [c].filter (·.isRaw) := by
      unfold addColumn
      split
      · next h => simp [h.1]
      · rw [List.filter_append]
    rw [appendColumns_cons, ih, hadd, List.append_assoc, ← List.filter_append, List.singleton_append]

theorem NamesDistinct.addColumn (h : NamesDistinct xs) : NamesDistinct (addColumn xs c) := by
  unfold FluentSql.addColumn
  split
  · exact h
  · next hnew =>
    unfold NamesDistinct at h ⊢
    rw [List.filterMap_append]
    cases c with
    | raw sql => simpa [List.filterMap_cons, Reference.name?] using h
    | named name =>
      have hname : Reference.named name ∉ xs := fun hmem => hnew ⟨rfl, hmem⟩
      refine List.nodup_append.mpr ⟨h, List.nodup_singleton name, fun a ha b hb => ?_⟩
      obtain ⟨r, hr, hra⟩ := List.mem_filterMap.mp ha
      obtain rfl : b = name := List.mem_singleton.mp hb
      rintro rfl
      cases r with
      | raw sql => cases hra
      | named other =>
        obtain rfl : other = a := Option.some.inj hra
        exact hname hr

/-- Names that are distinct stay so, whatever is appended. -/
theorem NamesDistinct.appendColumns (h : NamesDistinct xs) (ys : List Reference) :
    NamesDistinct (appendColumns xs ys) := by
  induction ys generalizing xs with
  | nil => exact h
  | cons c ys ih => exact ih h.addColumn

/-! ## Order, paging and bound values -/

theorem Tail.merge_assoc (a b c : Tail) : (a.merge b).merge c = a.merge (b.merge c) := by
  simp only [merge, List.append_assoc, Option.or_assoc]

@[simp] theorem Tail.merge_empty (t : Tail) : t.merge {} = t := by
  simp [merge]

theorem Bindings.merge_assoc (a b c : Bindings) : (a.merge b).merge c = a.merge (b.merge c) :=
  ext_get fun slot => by simp

@[simp] theorem Bindings.merge_empty (b : Bindings) : b.merge .empty = b :=
  ext_get fun slot => by simp [Value.withoutRaw]

/-! ## Statements -/

namespace Statement

/-- **Three statements** may be folded from the left or from the right. -/
theorem merge_assoc (a b c : Statement) : (a.merge b).merge c = a.merge (b.merge c) := by
  simp only [merge, appendColumns_assoc, Bool.or_assoc, List.append_assoc, Tail.merge_assoc,
    Bindings.merge_assoc]

/-- A statement without clauses adds nothing, over whichever table it is. -/
theorem merge_fresh (q : Statement) (setting : Setting) (table : Option Reference) :
    q.merge { fresh setting with table := table } = q := by
  cases q
  simp [merge, fresh, appendColumns]

/-- **Folding statements together** is associative, with the statements without clauses as units on the
    right. Raw columns are all kept, and names that are distinct stay so. -/
theorem merge_laws (a : Statement) :
    (∀ b c : Statement, (a.merge b).merge c = a.merge (b.merge c)) ∧
    (∀ setting table, a.merge { fresh setting with table := table } = a) ∧
    ∀ b : Statement,
      (a.merge b).columns.filter (·.isRaw) =
        a.columns.filter (·.isRaw) ++ b.columns.filter (·.isRaw) ∧
      (NamesDistinct a.columns → NamesDistinct (a.merge b).columns) := by
  refine ⟨fun b c => ?_, fun setting table => ?_, fun b => ⟨?_, fun hdistinct => ?_⟩⟩
  · exact a.merge_assoc b c
  · exact a.merge_fresh setting table
  · exact filter_isRaw_appendColumns a.columns b.columns
  · exact hdistinct.appendColumns b.columns

end Statement

/-! ## Two lists of goods -/

/-- The names of five goods, with a count. -/
def namedGoods : Statement :=
  { Statement.fresh {} with
    columns := [.named "id", .raw "COUNT(*)", .named "name"]
    tail := { orders := [.column (.named "id") .ascending], limit := some 5 } }

/-- The tags of all goods but the first three, each of them asked for twice. -/
def taggedGoods : Statement :=
  { Statement.fresh {} with
    columns := [.named "name", .raw "COUNT(*)", .named "tag", .named "tag"]
    distinct := true
    tail := { offset := some 3 } }

/-- The tag is there once, the count twice, and the limit of the first list stays. -/
theorem merge_laws_namedGoods :
    (NamesDistinct namedGoods.columns ∧ ¬ NamesDistinct taggedGoods.columns) ∧
    (namedGoods.merge taggedGoods).columns =
      [.named "id", .raw "COUNT(*)", .named "name", .raw "COUNT(*)", .named "tag"] ∧
    (namedGoods.merge taggedGoods).tail =
      { orders := [.column (.named "id") .ascending], limit := some 5, offset := some 3 } ∧
    NamesDistinct (namedGoods.merge taggedGoods).columns ∧
    (taggedGoods.merge namedGoods).merge taggedGoods =
      taggedGoods.merge (namedGoods.merge taggedGoods) := by
  have hdistinct : NamesDistinct namedGoods.columns := by
    unfold NamesDistinct
    decide
  have hrepeated : ¬ NamesDistinct taggedGoods.columns := by
    unfold NamesDistinct
    decide
  obtain ⟨_, _, hcolumns⟩ := namedGoods.merge_laws
  obtain ⟨hassoc, _, _⟩ := taggedGoods.merge_laws
  exact ⟨⟨hdistinct, hrepeated⟩, by decide, by decide, (hcolumns taggedGoods).2 hdistinct,
    hassoc namedGoods taggedGoods⟩

end FluentSql
