import FluentSql.Record.Reading
import FluentSql.Statement.Filtering
import FluentSql.Statement.Paging
import FluentSql.Statement.Projection
import FluentSql.Statement.Writing
import FluentSql.Storage

/-!
# `Statement.Running` — executing statements and shaping the answers

Every operation compiles its statement first; what cannot be compiled is neither executed nor logged.

## Contents
- Reads: `fetch`, `fetchColumns`, `fetchAs`, `first`, `firstColumns`, `firstAs`, `find`.
- Aggregates: `aggregateValue` and `count`.
- Writes: `insert`, `update`, `delete`, `deleteById`, `truncate`.
-/

namespace FluentSql.Statement

variable {m : Type → Type} [Monad m] [Storage m]

/-! ## Reads -/

/-- All rows of the SELECT. -/
def fetch (q : Statement) : ExceptT Error m (List Record) := do
  let built ← liftM q.selectBuilt
  let execution ← q.submit .select built
  return q.setting.shaping.rows execution.rows

/-- All rows, with other columns selected. -/
def fetchColumns (q : Statement) (columns : List Reference) : ExceptT Error m (List Record) :=
  (q.select columns).fetch

/-- All rows, each read as the wanted type; the first that fails decides the error. -/
def fetchAs {α : Type} (q : Statement) (ofRecord : Record → Except Error α) :
    ExceptT Error m (List α) := do
  let rows ← q.fetch
  liftM (rows.mapM ofRecord)

/-- The first row, taken alone. -/
def first (q : Statement) : ExceptT Error m (Option Record) := do
  let rows ← (q.limit 1).fetch
  return rows.head?

/-- The first row, with other columns selected. -/
def firstColumns (q : Statement) (columns : List Reference) : ExceptT Error m (Option Record) :=
  (q.select columns).first

/-- The first row, read as the wanted type. -/
def firstAs {α : Type} (q : Statement) (ofRecord : Record → Except Error α) :
    ExceptT Error m (Option α) := do
  let row ← q.first
  liftM (row.mapM ofRecord)

/-- The statement restricted to the rows with an identifier. -/
def withId (q : Statement) (id : Value) : Except Error Statement :=
  q.compare .and (.named "id") none (some (.value id))

/-- The row with an identifier. -/
def find (q : Statement) (id : Value) : ExceptT Error m (Option Record) := do
  let q ← liftM (q.withId id)
  q.first

/-! ## Aggregates -/

/-- The value of a function over a column; null if there is no row. -/
def aggregateValue (q : Statement) (function : String) (column : Reference) :
    ExceptT Error m Value := do
  let q ← liftM (q.selectAggregate function [column])
  let rows ← q.fetch
  return (rows.head?.bind fun row => row.get? "aggregate").getD .null

/-- The number of rows; an answer that is no integer counts as zero. -/
def count (q : Statement) : ExceptT Error m Int64 := do
  let value ← q.aggregateValue "count" (.named "*")
  return value.toInt?.getD 0

/-! ## Writes -/

/-- Insert records; the answer is the identifier that the engine assigned. Without anything to insert
    nothing is executed. -/
def insert (q : Statement) (records : List Record) : ExceptT Error m (Option Int64) := do
  match ← liftM (q.insertBuilt? records) with
  | none => return none
  | some built =>
    let execution ← q.submit .insert built
    return q.setting.shaping.insertId execution

/-- Update the rows that meet the conditions; the answer is their number. -/
def update (q : Statement) (record : Record) : ExceptT Error m Nat := do
  let built ← liftM (q.updateBuilt record)
  let execution ← q.submit .update built
  return execution.affected

/-- Delete the rows that meet the conditions; the answer is their number. -/
def delete (q : Statement) : ExceptT Error m Nat := do
  let built ← liftM q.deleteBuilt
  let execution ← q.submit .delete built
  return execution.affected

/-- Delete the row with an identifier. -/
def deleteById (q : Statement) (id : Value) : ExceptT Error m Nat := do
  let q ← liftM (q.withId id)
  q.delete

/-- Submit statements in order; the first failure ends the sequence. -/
def submitAll (q : Statement) (kind : StatementKind) : List Built → ExceptT Error m Unit
  | [] => return ()
  | built :: others => do
    let _ ← q.submit kind built
    q.submitAll kind others

/-- Empty the table. -/
def truncate (q : Statement) : ExceptT Error m Unit := do
  let statements ← liftM q.truncateBuilt
  q.submitAll .truncate statements

end FluentSql.Statement
