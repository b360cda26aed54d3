import FluentSql.Statement.Running

/-!
# `Statement.Terminal` — the operations that execute statements, as data

Building a statement ends with one operation that executes it. As data, what holds of every operation
can be stated once.

## Contents
- `Terminal`, an operation with its arguments, and the type of its answer.
- `Terminal.kind`, what its statements do, and `Terminal.perform`, the operation itself.
-/

namespace FluentSql

/-- An operation that executes a statement, with its arguments. The index is the type of the answer. -/
inductive Terminal : Type → Type 1 where
  | fetch : Terminal (List Record)
  | fetchColumns (columns : List Reference) : Terminal (List Record)
  | fetchAs {α : Type} (ofRecord : Record → Except Error α) : Terminal (List α)
  | first : Terminal (Option Record)
  | firstColumns (columns : List Reference) : Terminal (Option Record)
  | firstAs {α : Type} (ofRecord : Record → Except Error α) : Terminal (Option α)
  | find (id : Value) : Terminal (Option Record)
  | count : Terminal Int64
  /-- The least, greatest, summed or average value of a column. -/
  | aggregateValue (function : String) (column : Reference) : Terminal Value
  | insert (records : List Record) : Terminal (Option Int64)
  | update (record : Record) : Terminal Nat
  | delete : Terminal Nat
  | deleteById (id : Value) : Terminal Nat
  | truncate : Terminal Unit

namespace Terminal

/-- What the statements of an operation do. -/
def kind {α : Type} : Terminal α → StatementKind
  | .insert _ => .insert
  | .update _ => .update
  | .delete | .deleteById _ => .delete
  | .truncate => .truncate
  | _ => .select

variable {m : Type → Type} [Monad m] [Storage m]

/-- The operation on a statement. -/
def perform {α : Type} (q : Statement) : Terminal α → ExceptT Error m α
  | .fetch => q.fetch
  | .fetchColumns columns => q.fetchColumns columns
  | .fetchAs ofRecord => q.fetchAs ofRecord
  | .first => q.first
  | .firstColumns columns => q.firstColumns columns
  | .firstAs ofRecord => q.firstAs ofRecord
  | .find id => q.find id
  | .count => q.count
  | .aggregateValue function column => q.aggregateValue function column
  | .insert records => q.insert records
  | .update record => q.update record
  | .delete => q.delete
  | .deleteById id => q.deleteById id
  | .truncate => q.truncate

end Terminal

end FluentSql
