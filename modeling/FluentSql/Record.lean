import FluentSql.Value

/-!
# `Record` — columns with their values, in column order

A record maps column names to values. Its columns are in ascending order and each occurs once, so that
a list of column names and a list of values taken from it line up. Result rows are records too.

## Contents
- `insertPair` and `sortPairs`, insertion into a list ordered by key.
- `Record`, with `insert`, `ofList`, `get?`, `columns` and `values`.
-/

namespace FluentSql

/-! ## Lists ordered by key -/

/-- Whether the keys of a list are in strictly ascending order. -/
def KeysAscending {α : Type} (pairs : List (String × α)) : Prop :=
  pairs.Pairwise fun p q => p.1 < q.1

/-- Put a pair at its key's place; a pair with the same key is replaced. -/
def insertPair {α : Type} (key : String) (value : α) : List (String × α) → List (String × α)
  | [] => [(key, value)]
  | (k, v) :: rest =>
    if key < k then (key, value) :: (k, v) :: rest
    else if key = k then (key, value) :: rest
    else (k, v) :: insertPair key value rest

/-- The pairs in ascending order of keys; of several pairs with one key the last is kept. -/
def sortPairs {α : Type} (pairs : List (String × α)) : List (String × α) :=
  pairs.foldl (fun sorted p => insertPair p.1 p.2 sorted) []

/-- The keys after an insertion are the new key and the old ones. -/
theorem mem_insertPair_key {α : Type} {key : String} {value : α} {pairs : List (String × α)}
    {p : String × α} (h : p ∈ insertPair key value pairs) : p.1 = key ∨ p ∈ pairs := by
  induction pairs with
  | nil =>
    simp only [insertPair, List.mem_singleton] at h
    exact Or.inl (by rw [h])
  | cons q rest ih =>
    obtain ⟨k, v⟩ := q
    unfold insertPair at h
    split at h
    · rcases List.mem_cons.mp h with h | h
      · exact Or.inl (by rw [h])
      · exact Or.inr h
    · split at h
      · rcases List.mem_cons.mp h with h | h
        · exact Or.inl (by rw [h])
        · exact Or.inr (List.mem_cons_of_mem _ h)
      · rcases List.mem_cons.mp h with h | h
        · exact Or.inr (h ▸ List.mem_cons_self)
        · rcases ih h with h | h
          · exact Or.inl h
          · exact Or.inr (List.mem_cons_of_mem _ h)

/-- Insertion keeps the order. -/
theorem keysAscending_insertPair {α : Type} {key : String} {value : α}
    {pairs : List (String × α)} (h : KeysAscending pairs) :
    KeysAscending (insertPair key value pairs) := by
  induction pairs with
  | nil => simp [insertPair, KeysAscending]
  | cons q rest ih =>
    obtain ⟨k, v⟩ := q
    obtain ⟨hq, hrest⟩ := List.pairwise_cons.mp h
    unfold insertPair
    split
    · next hlt =>
      refine List.pairwise_cons.mpr ⟨?_, h⟩
      intro p hp
      rcases List.mem_cons.mp hp with hp | hp
      · rw [hp]
        exact hlt
      · exact String.lt_trans hlt (hq p hp)
    · next hlt =>
      split
      · next heq => exact List.pairwise_cons.mpr ⟨by rw [heq]; exact hq, hrest⟩
      · next hne =>
        refine List.pairwise_cons.mpr ⟨?_, ih hrest⟩
        intro p hp
        rcases mem_insertPair_key hp with hp | hp
        · have hle : k ≤ key := String.not_lt.mp hlt
          rw [hp]
          exact String.not_le.mp fun hge => hne (String.le_antisymm hge hle)
        · exact hq p hp

theorem keysAscending_foldl_insertPair {α : Type} (pairs sorted : List (String × α))
    (h : KeysAscending sorted) :
    KeysAscending (pairs.foldl (fun sorted p => insertPair p.1 p.2 sorted) sorted) := by
  induction pairs generalizing sorted with
  | nil => exact h
  | cons p rest ih => exact ih _ (keysAscending_insertPair h)

/-- Sorting gives ascending keys. -/
theorem keysAscending_sortPairs {α : Type} (pairs : List (String × α)) :
    KeysAscending (sortPairs pairs) :=
  keysAscending_foldl_insertPair pairs [] List.Pairwise.nil

/-! ## Records -/

/-- Columns with their values, in ascending order of columns. -/
structure Record where
  entries : List (String × Value)
  ascending : KeysAscending entries

namespace Record

/-- The record without columns. -/
def empty : Record :=
  ⟨[], List.Pairwise.nil⟩

/-- Set a column; an earlier value is replaced. -/
def insert (r : Record) (column : String) (value : Value) : Record :=
  ⟨insertPair column value r.entries, keysAscending_insertPair r.ascending⟩

/-- The record of a list of columns with values; of a repeated column the last value is kept. -/
def ofList (pairs : List (String × Value)) : Record :=
  ⟨sortPairs pairs, keysAscending_sortPairs pairs⟩

/-- The value of a column. -/
def get? (r : Record) (column : String) : Option Value :=
  r.entries.lookup column

/-- The columns, in ascending order. -/
def columns (r : Record) : List String :=
  r.entries.map (·.1)

/-- The values, in the order of their columns. -/
def values (r : Record) : List Value :=
  r.entries.map (·.2)

/-- The number of columns. -/
def size (r : Record) : Nat :=
  r.entries.length

/-- Whether there is no column. -/
def isEmpty (r : Record) : Bool :=
  r.entries.isEmpty

@[simp] theorem length_columns (r : Record) : r.columns.length = r.size := by
  simp [columns, size]

@[simp] theorem length_values (r : Record) : r.values.length = r.size := by
  simp [values, size]

end Record

end FluentSql
