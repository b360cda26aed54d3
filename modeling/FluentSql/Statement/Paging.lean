import FluentSql.Statement

/-!
# `Statement.Paging` — order, paging and unions

Order and paging belong to the statement as long as it has no union, and to the whole union from the
first member on. The call decides; what was set before a union stays with the statement.

## Contents
- `orderBy`, `orderByRaw`, `limit`, `offset`, `forPage`.
- `union`.
-/

namespace FluentSql.Statement

/-- Change the tail that is in force: the union's once there is one, else the statement's own. -/
def modifyTail (q : Statement) (f : Tail → Tail) : Statement :=
  if q.unions.isEmpty then { q with tail := f q.tail } else { q with unionTail := f q.unionTail }

/-- Order and paging bind nothing. -/
@[simp] theorem bindings_modifyTail (q : Statement) (f : Tail → Tail) :
    (q.modifyTail f).bindings = q.bindings := by
  unfold modifyTail
  split <;> rfl

/-- Add an entry to the order in force. -/
def addOrder (q : Statement) (order : Order) : Statement :=
  q.modifyTail fun tail => { tail with orders := tail.orders ++ [order] }

/-- Sort by a column. -/
def orderBy (q : Statement) (column : Reference) (direction : Direction) : Statement :=
  q.addOrder (.column column direction)

/-- Record raw text in the order, with its values. -/
def orderByRaw (q : Statement) (sql : String) (values : List Value) : Statement :=
  (q.addOrder (.raw sql)).bind (if q.unions.isEmpty then .order else .unionOrder) values

/-- Take at most `n` rows. -/
def limit (q : Statement) (n : Int64) : Statement :=
  q.modifyTail fun tail => { tail with limit := some n }

/-- Skip `n` rows; a negative number counts as zero. -/
def offset (q : Statement) (n : Int64) : Statement :=
  q.modifyTail fun tail => { tail with offset := some (if n < 0 then 0 else n) }

/-- Take one page; pages are counted from 1. -/
def forPage (q : Statement) (page perPage : Int64) : Statement :=
  (q.offset ((page - 1) * perPage)).limit perPage

/-- Add a member to the union; `all` keeps duplicate rows. -/
def union (q : Statement) (all : Bool) (query : Statement) : Statement :=
  { q.bind .union query.bound with unions := q.unions ++ [⟨all, query⟩] }

end FluentSql.Statement
