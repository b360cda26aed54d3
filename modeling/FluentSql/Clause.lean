import FluentSql.Error
import FluentSql.Text.Scan

/-!
# `Clause` — the parts of a statement that embed no other statement

## Contents
- `Direction`, `Order` and `Tail`, the order of the rows and which of them are taken.
- `AggregateFunction` and `Aggregate`.
- `Lock`.
-/

namespace FluentSql

/-! ## Order and paging -/

/-- The direction of a sort. -/
inductive Direction where
  | ascending
  | descending
  deriving DecidableEq

namespace Direction

/-- The direction as it is written. -/
def word : Direction → String
  | .ascending => "ASC"
  | .descending => "DESC"

/-- `asc` in any ASCII case is ascending, every other text descending. -/
def ofText (s : String) : Direction :=
  if Text.foldCase s = "asc" then .ascending else .descending

end Direction

/-- An entry of an ORDER BY list. -/
inductive Order where
  | column (column : Reference) (direction : Direction)
  /-- Raw text is recorded, but no dialect writes it. -/
  | raw (sql : String)
  deriving DecidableEq

/-- The tail of a SELECT: the order of its rows, how many are taken and how many are skipped. -/
structure Tail where
  orders : List Order := []
  limit : Option Int64 := none
  offset : Option Int64 := none
  deriving DecidableEq

/-! ## Aggregates -/

/-- A function over the rows of a SELECT. -/
inductive AggregateFunction where
  | count
  | min
  | max
  | sum
  | avg
  deriving DecidableEq

namespace AggregateFunction

/-- The function as it is written. -/
def word : AggregateFunction → String
  | .count => "COUNT"
  | .min => "MIN"
  | .max => "MAX"
  | .sum => "SUM"
  | .avg => "AVG"

/-- The function of a name, in any ASCII case. -/
def ofName (name : String) : Except Error AggregateFunction :=
  match Text.foldCase name with
  | "count" => .ok .count
  | "min" => .ok .min
  | "max" => .ok .max
  | "sum" => .ok .sum
  | "avg" => .ok .avg
  | other => .error (.unknownAggregate other)

end AggregateFunction

/-- A function with the columns that it is applied to. -/
structure Aggregate where
  function : AggregateFunction
  columns : List Reference
  deriving DecidableEq

/-! ## Locks -/

/-- How the selected rows are locked. -/
inductive Lock where
  | update
  | shared
  | raw (sql : String)
  deriving DecidableEq

end FluentSql
