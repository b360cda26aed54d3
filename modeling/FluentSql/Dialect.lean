/-!
# `Dialect` — what the text of a statement depends on

A dialect is a family of rules with three settings: the placeholder, the text in front of every table
name, and the character around a quoted name.
-/

namespace FluentSql

/-- The families of rules. -/
inductive DialectFamily where
  /-- Tables are emptied by `TRUNCATE`, and row locks are written. -/
  | base
  /-- Tables are emptied by two `DELETE` statements, and row locks are left out. -/
  | sqlite
  deriving DecidableEq

/-- The rules for the text of statements. -/
structure Dialect where
  family : DialectFamily := .base
  /-- The placeholder of a bound value. -/
  marker : String := "?"
  /-- The text in front of every table name. -/
  tablePrefix : String := ""
  /-- The character around a quoted name. -/
  quote : Char := '\x60'
  deriving DecidableEq

end FluentSql
