import FluentSql.Statement

/-!
# `Statement.Merging` — folding one statement into another
-/

namespace FluentSql

/-- Append the orders of `other` and take over the numbers that it sets. -/
def Tail.merge (t other : Tail) : Tail where
  orders := t.orders ++ other.orders
  limit := other.limit.or t.limit
  offset := other.offset.or t.offset

/-- Append columns, leaving out a name that is already there. Raw columns are always appended. -/
def appendColumns (columns others : List Reference) : List Reference :=
  others.foldl
    (fun columns c => if c.isRaw = false ∧ c ∈ columns then columns else columns ++ [c]) columns

/-- Fold the clauses and bindings of another statement into this one. Table, aggregate, lock and
    setting stay. -/
def Statement.merge (q other : Statement) : Statement :=
  { q with
    columns := appendColumns q.columns other.columns
    distinct := q.distinct || other.distinct
    joins := q.joins ++ other.joins
    wheres := q.wheres ++ other.wheres
    groups := q.groups ++ other.groups
    havings := q.havings ++ other.havings
    tail := q.tail.merge other.tail
    unions := q.unions ++ other.unions
    unionTail := q.unionTail.merge other.unionTail
    bindings := q.bindings.merge other.bindings }

end FluentSql
