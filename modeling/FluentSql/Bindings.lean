import FluentSql.Value

/-!
# `Bindings` — bound values by the clause they belong to

Placeholders are written clause by clause, while the calls that add values come in any order. Values
are therefore kept in one list a clause, and the list sent to the engine is the concatenation in the
order of the clauses.

## Contents
- `BindingSlot`, the clauses that bind values, in the order of their text.
- `Bindings`, with `get`, `extend`, `push`, `set`, `merge` and `flatten`.
- What each operation does to each list.
-/

namespace FluentSql

/-- A clause that binds values. -/
inductive BindingSlot where
  | projection
  | table
  | join
  | filter
  | having
  | order
  | union
  | unionOrder
  deriving DecidableEq

/-- The clauses in the order of their text. -/
def BindingSlot.all : List BindingSlot :=
  [.projection, .table, .join, .filter, .having, .order, .union, .unionOrder]

/-- Bound values, one list a clause. -/
structure Bindings where
  projection : List Value := []
  table : List Value := []
  join : List Value := []
  filter : List Value := []
  having : List Value := []
  order : List Value := []
  union : List Value := []
  unionOrder : List Value := []
  deriving DecidableEq

namespace Bindings

/-- No values. -/
def empty : Bindings :=
  {}

/-- The values of a clause. -/
def get (b : Bindings) : BindingSlot → List Value
  | .projection => b.projection
  | .table => b.table
  | .join => b.join
  | .filter => b.filter
  | .having => b.having
  | .order => b.order
  | .union => b.union
  | .unionOrder => b.unionOrder

/-- Change the list of one clause. -/
def modify (b : Bindings) (slot : BindingSlot) (f : List Value → List Value) : Bindings :=
  match slot with
  | .projection => { b with projection := f b.projection }
  | .table => { b with table := f b.table }
  | .join => { b with join := f b.join }
  | .filter => { b with filter := f b.filter }
  | .having => { b with having := f b.having }
  | .order => { b with order := f b.order }
  | .union => { b with union := f b.union }
  | .unionOrder => { b with unionOrder := f b.unionOrder }

/-- Append values to a clause. Raw values have no placeholder and are left out. -/
def extend (b : Bindings) (slot : BindingSlot) (values : List Value) : Bindings :=
  b.modify slot fun old => old ++ Value.withoutRaw values

/-- Append one value to a clause. -/
def push (b : Bindings) (slot : BindingSlot) (value : Value) : Bindings :=
  b.extend slot [value]

/-- Replace the values of a clause. -/
def set (b : Bindings) (slot : BindingSlot) (values : List Value) : Bindings :=
  b.modify slot fun _ => Value.withoutRaw values

/-- Append every list of `other` to the list of the same clause. -/
def merge (b other : Bindings) : Bindings :=
  BindingSlot.all.foldl (fun sum slot => sum.extend slot (other.get slot)) b

/-- All values, in the order of the clauses. -/
def flatten (b : Bindings) : List Value :=
  BindingSlot.all.flatMap b.get

/-- The number of values. -/
def size (b : Bindings) : Nat :=
  BindingSlot.all.foldl (fun n slot => n + (b.get slot).length) 0

/-- Whether no value is bound. -/
def isEmpty (b : Bindings) : Bool :=
  b.size = 0

/-! ## What the operations do to the lists -/

/-- A change is seen in its own clause alone. -/
theorem get_modify (b : Bindings) (slot other : BindingSlot) (f : List Value → List Value) :
    (b.modify slot f).get other = if other = slot then f (b.get other) else b.get other := by
  cases slot <;> cases other <;> rfl

@[simp] theorem get_empty (slot : BindingSlot) : empty.get slot = [] := by
  cases slot <;> rfl

theorem get_extend (b : Bindings) (slot other : BindingSlot) (values : List Value) :
    (b.extend slot values).get other =
      if other = slot then b.get other ++ Value.withoutRaw values else b.get other :=
  get_modify b slot other _

theorem get_set (b : Bindings) (slot other : BindingSlot) (values : List Value) :
    (b.set slot values).get other = if other = slot then Value.withoutRaw values else b.get other :=
  get_modify b slot other _

/-- Merging appends clause by clause. -/
@[simp] theorem get_merge (b other : Bindings) (slot : BindingSlot) :
    (b.merge other).get slot = b.get slot ++ Value.withoutRaw (other.get slot) := by
  simp only [merge, BindingSlot.all, List.foldl_cons, List.foldl_nil, get_extend]
  cases slot <;> rfl

/-- Bindings are their eight lists. -/
theorem ext_get {a b : Bindings} (h : ∀ slot, a.get slot = b.get slot) : a = b := by
  cases a
  cases b
  have h1 := h .projection
  have h2 := h .table
  have h3 := h .join
  have h4 := h .filter
  have h5 := h .having
  have h6 := h .order
  have h7 := h .union
  have h8 := h .unionOrder
  simp only [get] at h1 h2 h3 h4 h5 h6 h7 h8
  subst h1 h2 h3 h4 h5 h6 h7 h8
  rfl

/-- The size is the number of values sent. -/
theorem length_flatten (b : Bindings) : b.flatten.length = b.size := by
  simp [flatten, size, BindingSlot.all]
  omega

end Bindings

end FluentSql
