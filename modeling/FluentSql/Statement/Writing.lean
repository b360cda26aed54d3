import FluentSql.Statement.Render

/-!
# `Statement.Writing` — the texts of INSERT, UPDATE, DELETE and of emptying a table

## Contents
- `Dialect.renderInsert`, `renderUpdate`, `renderDelete`, `renderTruncate`.
- `Statement.insertBuilt?`, `updateBuilt`, `deleteBuilt`, `truncateBuilt`, the texts with their values.
-/

namespace FluentSql

namespace Dialect

/-- The table of a statement, quoted; `statement` names the statement that needs it. -/
def tableFor (d : Dialect) (q : Statement) (statement : String) : Except Error String :=
  match q.table with
  | none => .error (.missingTable statement)
  | some table => .ok (d.quoteTable table)

/-- The values of a record in parentheses. -/
def renderRow (d : Dialect) (r : Record) : String :=
  "(" ++ d.placeholders r.values ++ ")"

/-- An INSERT of records under the columns of the first one. -/
def renderInsert (d : Dialect) (q : Statement) (records : List Record) : Except Error String := do
  let table ← d.tableFor q "insert"
  match records with
  | [] => .error .noRecords
  | first :: _ =>
    let columns := d.quoteColumns (first.columns.map .named)
    return "INSERT INTO " ++ table ++ " (" ++ columns ++ ") VALUES "
      ++ ", ".intercalate (records.map d.renderRow)

/-- An assignment of a value to a column. -/
def renderAssignment (d : Dialect) (entry : String × Value) : String :=
  d.quoteColumn (.named entry.1) ++ " = " ++ d.placeholder entry.2

/-- An UPDATE of the columns of a record. -/
def renderUpdate (d : Dialect) (q : Statement) (record : Record) : Except Error String := do
  let table ← d.tableFor q "update"
  let wheres ← d.renderWheres q
  let joins := d.renderJoins q.joins
  let joins := if joins = "" then "" else " " ++ joins
  let assignments := ", ".intercalate (record.entries.map d.renderAssignment)
  return Text.trim ("UPDATE " ++ table ++ joins ++ " SET " ++ assignments ++ " " ++ wheres)

/-- A DELETE of the rows that meet the conditions. -/
def renderDelete (d : Dialect) (q : Statement) : Except Error String := do
  let table ← d.tableFor q "delete"
  let wheres ← d.renderWheres q
  return Text.trim ("DELETE FROM " ++ table ++ " " ++ wheres)

/-- The name under which the engine keeps the counter of a table: prefixed and without quotes. -/
def counterName (d : Dialect) : Option Reference → Value
  | none => .null
  | some (.named name) => .text (d.tablePrefix ++ name)
  | some (.raw sql) => .text sql

/-- The statements that empty a table, in their order. Without `TRUNCATE`, the counter of the table is
    reset before its rows are deleted. -/
def renderTruncate (d : Dialect) (q : Statement) : Except Error (List Built) := do
  let table ← d.tableFor q "truncate"
  match d.family with
  | .base => return [⟨"TRUNCATE " ++ table, []⟩]
  | .sqlite =>
    return [⟨"DELETE FROM sqlite_sequence WHERE name = " ++ d.marker, [d.counterName q.table]⟩,
      ⟨"DELETE FROM " ++ table, []⟩]

end Dialect

/-- What is inserted: one record or many. -/
inductive Records where
  | one (record : Record)
  | many (records : List Record)

/-- The records as a list. -/
def Records.toList : Records → List Record
  | .one record => [record]
  | .many records => records

namespace Statement

/-- An INSERT with its values, row by row in the order of the columns. None if every record is empty;
    a record with other columns than the first one is refused. -/
def insertBuilt? (q : Statement) (records : List Record) : Except Error (Option Built) :=
  match records with
  | [] => .ok none
  | first :: _ =>
    if records.all Record.isEmpty then .ok none
    else
      match records.findIdx? fun r => r.columns ≠ first.columns with
      | some position => .error (.unevenRecord position)
      | none => do
        let sql ← q.setting.dialect.renderInsert q records
        return some ⟨sql, Value.withoutRaw (records.flatMap Record.values)⟩

/-- An UPDATE with its values: those of the joins, of the assignments and of the conditions. -/
def updateBuilt (q : Statement) (record : Record) : Except Error Built :=
  if record.isEmpty then .error .emptyUpdate
  else do
    let sql ← q.setting.dialect.renderUpdate q record
    return ⟨sql, q.bindings.join ++ Value.withoutRaw record.values ++ q.bindings.filter⟩

/-- A DELETE with the values of its conditions. -/
def deleteBuilt (q : Statement) : Except Error Built := do
  let sql ← q.setting.dialect.renderDelete q
  return ⟨sql, q.bindings.filter⟩

/-- The statements that empty the table. -/
def truncateBuilt (q : Statement) : Except Error (List Built) :=
  q.setting.dialect.renderTruncate q

end Statement

end FluentSql
