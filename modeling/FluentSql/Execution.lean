import FluentSql.Record

/-!
# `Execution` — the storage engine's answers

## Contents
- `Execution`, the answer to one statement.
- `Shaping`, how answers are reshaped before a caller sees them.
-/

namespace FluentSql

/-- The answer of a storage engine to one statement. -/
structure Execution where
  rows : List Record := []
  insertId : Option Int64 := none
  affected : Nat := 0

namespace Execution

/-- The answer to a read. -/
def ofRows (rows : List Record) : Execution :=
  { rows }

/-- The answer to a write of `count` rows. -/
def ofAffected (count : Nat) : Execution :=
  { affected := count }

/-- The answer to the insertion of a row. -/
def ofInserted (id : Int64) : Execution :=
  { insertId := some id, affected := 1 }

end Execution

/-- How answers are reshaped before a caller sees them. -/
structure Shaping where
  rows : List Record → List Record := id
  insertId : Execution → Option Int64 := Execution.insertId

namespace Shaping

/-- Answers are passed on as they are. -/
def plain : Shaping :=
  {}

/-- The identifier 0 means that nothing was inserted. -/
def sqlite : Shaping where
  insertId execution := execution.insertId.filter (· ≠ 0)

/-- Rows are passed on in the opposite order. -/
def reversed : Shaping where
  rows := List.reverse

end Shaping

end FluentSql
