import FluentSql.Reference
import FluentSql.Text.Digits

/-!
# `Error` — why a statement cannot be built, rendered or read back

Every refusal is a constructor of its own, with what its message needs. What a storage engine reports
is passed on with the kind and the message that the engine gave.

## Contents
- `ErrorKind`, the six families of errors a caller tells apart.
- `Error`, the causes, with `kind`, `detail` and the full `message`.
-/

namespace FluentSql

/-- The families of errors that a caller tells apart. -/
inductive ErrorKind where
  /-- The input of a building step has the wrong shape. -/
  | construction
  /-- The request is understood and deliberately not supported. -/
  | unsupported
  /-- The statement lacks a part that its text needs. -/
  | compilation
  /-- The storage engine failed. -/
  | execution
  /-- There is no such row. -/
  | notFound
  /-- A column of a row cannot be read as the wanted type. -/
  | decode (column : String)
  /-- A document cannot be read as the wanted type. -/
  | serialization
  deriving DecidableEq

/-- What introduces a message of the kind. -/
def ErrorKind.heading : ErrorKind → String
  | .construction => "Construction error"
  | .unsupported => "Unsupported operation"
  | .compilation => "Compilation error"
  | .execution => "Execution error"
  | .notFound => "Not found"
  | .decode column => "Decode error on column '" ++ column ++ "'"
  | .serialization => "Serialization error"

/-- A cause of failure. -/
inductive Error where
  /-- A subselect is given by blank text. -/
  | emptySubselect
  /-- A join is given a blank first column. -/
  | joinWithoutColumn (table : Reference)
  /-- A condition list holds an entry without exactly three elements. -/
  | conditionLength (length : Nat)
  /-- The first element of a condition entry is not text. -/
  | conditionColumn
  /-- The second element of a condition entry is not text. -/
  | conditionOperator
  /-- A comparison has neither operator nor operand. -/
  | missingOperand (column : Reference)
  /-- A comparison has a list as its operand. -/
  | listOperand (column : Reference)
  /-- Null is compared by an operator other than equality and inequality. -/
  | nullComparison (column : Reference) (operator : String)
  /-- The name belongs to no aggregate function. -/
  | unknownAggregate (name : String)
  /-- A record to insert has other columns than the first one. -/
  | unevenRecord (position : Nat)
  /-- An update sets no column. -/
  | emptyUpdate
  /-- An ORDER BY list holds raw text. -/
  | rawOrder (sql : String)
  /-- The statement has no table. -/
  | missingTable (statement : String)
  /-- The text of an insert is asked for without records. -/
  | noRecords
  /-- The row lacks the column. -/
  | missingColumn (column : String)
  /-- The column holds a value that cannot be read as the wanted type. -/
  | mistypedColumn (column found wanted : String)
  /-- A row does not have the shape of the wanted type. -/
  | undecodable
  /-- The storage engine's own report. -/
  | reported (kind : ErrorKind) (detail : String)
  deriving DecidableEq

namespace Error

/-- The family of the error. -/
def kind : Error → ErrorKind
  | emptySubselect | joinWithoutColumn _ | conditionLength _ | conditionColumn | conditionOperator
  | missingOperand _ | nullComparison _ _ | unknownAggregate _ | unevenRecord _ | emptyUpdate =>
    .construction
  | listOperand _ | rawOrder _ => .unsupported
  | missingTable _ | noRecords => .compilation
  | missingColumn column | mistypedColumn column _ _ => .decode column
  | undecodable => .serialization
  | reported kind _ => kind

/-- The message without the family's heading. -/
def detail : Error → String
  | emptySubselect => "invalid subselect: empty SQL"
  | joinWithoutColumn table => "join on `" ++ table.text ++ "` is missing its first column"
  | conditionLength length =>
    "invalid condition in where(): expected [column, operator, value], got " ++ Nat.repr length
      ++ " elements"
  | conditionColumn => "invalid condition in where(): column must be a string"
  | conditionOperator => "invalid condition in where(): operator must be a string"
  | missingOperand column => "where on `" ++ column.text ++ "`: a value must be provided"
  | listOperand column => "where on `" ++ column.text ++ "` received an array value; use where_in"
  | nullComparison column operator =>
    "where on `" ++ column.text ++ "`: operator `" ++ operator ++ "` cannot be compared with null"
  | unknownAggregate name => "unrecognized aggregate function `" ++ name ++ "`"
  | unevenRecord position =>
    "insert record " ++ Nat.repr position ++ " does not have the same columns as the first record"
  | emptyUpdate => "update requires at least one column"
  | rawOrder sql => "raw ORDER BY entries are not supported: " ++ sql
  | missingTable statement => "cannot compile " ++ statement ++ " without a table"
  | noRecords => "insert requires at least one record"
  | missingColumn _ => "column not present in row"
  | mistypedColumn _ found wanted => "cannot decode " ++ found ++ " as " ++ wanted
  | undecodable => "the row does not have the expected shape"
  | reported _ detail => detail

/-- The message shown to a reader. -/
def message (e : Error) : String :=
  e.kind.heading ++ ": " ++ e.detail

end Error

end FluentSql
