import FluentSql.Bindings
import FluentSql.Clause
import FluentSql.Dialect
import FluentSql.Execution
import FluentSql.Join
import FluentSql.Log

/-!
# `Statement` — SQL statements under construction

A statement is the list of its clauses, together with the values bound so far. Conditions and unions
embed further statements, so statements, conditions and union members are one family of types.

## Contents
- `Setting`, what a statement shares with every statement of its database.
- `Predicate`, `Criterion`, `UnionMember`, `Statement`.
- `Statement.fresh`, `newQuery`, `forGroup`, and `Statement.bound`, the values in placeholder order.
- `Operand`, `Condition`, `Membership`, `Subselect`: what callers pass to a condition or projection.
-/

namespace FluentSql

/-- What a statement shares with every statement of its database. -/
structure Setting where
  dialect : Dialect := {}
  shaping : Shaping := {}
  log : LogPolicy := {}

mutual

/-- A condition on rows or groups. -/
inductive Predicate where
  /-- A column compared with a value. -/
  | comparison (column : Reference) (operator : String) (value : Value)
  /-- SQL text. -/
  | raw (sql : String)
  /-- A column within bounds, or outside them. -/
  | between (column : Reference) (low high : Value) (negated : Bool)
  /-- The conditions of another statement, in parentheses. -/
  | group (query : Statement)
  /-- A column compared with a subquery. -/
  | subquery (column : Reference) (operator : String) (query : Statement)
  /-- Whether a subquery has rows. -/
  | existence (query : Statement) (negated : Bool)
  /-- A column in a list of values. -/
  | member (column : Reference) (values : List Value) (negated : Bool)
  /-- A column among the rows of a subquery. -/
  | memberOf (column : Reference) (query : Statement) (negated : Bool)
  /-- Whether a column is null. -/
  | nullCheck (column : Reference) (negated : Bool)

/-- A condition with the connector before it. -/
structure Criterion where
  connector : Connector
  predicate : Predicate

/-- A member of a union; `all` keeps duplicate rows. -/
structure UnionMember where
  all : Bool
  query : Statement

/-- A statement under construction. -/
structure Statement where
  setting : Setting
  bindings : Bindings
  aggregate : Option Aggregate
  /-- No columns stand for all of them. -/
  columns : List Reference
  distinct : Bool
  table : Option Reference
  joins : List Join
  wheres : List Criterion
  groups : List Reference
  havings : List Criterion
  tail : Tail
  unions : List UnionMember
  /-- The tail of the whole union. -/
  unionTail : Tail
  lock : Option Lock

end

namespace Statement

/-- The statement without clauses. -/
def fresh (setting : Setting) : Statement where
  setting := setting
  bindings := .empty
  aggregate := none
  columns := []
  distinct := false
  table := none
  joins := []
  wheres := []
  groups := []
  havings := []
  tail := {}
  unions := []
  unionTail := {}
  lock := none

/-- A statement without clauses in the same setting. -/
def newQuery (q : Statement) : Statement :=
  fresh q.setting

/-- A statement over the same table and without other clauses, for the conditions of a group. -/
def forGroup (q : Statement) : Statement :=
  { q.newQuery with table := q.table }

/-- The bound values, in the order of their placeholders. -/
def bound (q : Statement) : List Value :=
  q.bindings.flatten

/-- Append values to a clause's bindings. -/
def bind (q : Statement) (slot : BindingSlot) (values : List Value) : Statement :=
  { q with bindings := q.bindings.extend slot values }

/-- Append one value to a clause's bindings. -/
def addBinding (q : Statement) (value : Value) (slot : BindingSlot) : Statement :=
  q.bind slot [value]

/-- Replace a clause's bindings. -/
def setBindings (q : Statement) (values : List Value) (slot : BindingSlot) : Statement :=
  { q with bindings := q.bindings.set slot values }

end Statement

/-! ## Arguments of conditions and projections -/

/-- The right side of a comparison. -/
inductive Operand where
  | value (value : Value)
  | list (values : List Value)
  | query (query : Statement)

/-- The text of an operand that is text. -/
def Operand.text? : Operand → Option String
  | .value v => v.toText?
  | _ => none

/-- The shapes in which conditions are given. -/
inductive Condition where
  /-- Columns with the operands that they equal. -/
  | equalities (pairs : List (String × Operand))
  /-- The conditions of a statement, as one group. -/
  | group (query : Statement)
  /-- Entries of column, operator and operand, as one group. -/
  | triples (entries : List (List Operand))
  /-- One column with an operator and an operand, of which one may be missing. -/
  | column (column : Reference) (operator : Option String) (operand : Option Operand)

/-- Where a column's value is looked up. -/
inductive Membership where
  | values (values : List Value)
  | query (query : Statement)

/-- A subselect in a projection: a statement or SQL text. -/
inductive Subselect where
  | query (query : Statement)
  | text (sql : String)

end FluentSql
