import FluentSql.Statement.Render

/-!
# `Statement.Projection` — what a SELECT returns, and from which table

## Contents
- `select`, `addSelect`, `selectRaw`, `selectSub`, the selected columns.
- `onlyDistinct`, `selectAggregate`, `withTable`, `withLock`.
-/

namespace FluentSql.Statement

/-- Replace the selected columns. Values that earlier columns bound stay bound. -/
def select (q : Statement) (columns : List Reference) : Statement :=
  { q with columns := columns }

/-- Select one column more. -/
def addSelect (q : Statement) (column : Reference) : Statement :=
  { q with columns := q.columns ++ [column] }

/-- Select SQL text with its values. -/
def selectRaw (q : Statement) (sql : String) (values : List Value) : Statement :=
  (q.addSelect (.raw sql)).bind .projection values

/-- The text of a subselect with its values. A statement is rendered at once, in its own dialect;
    text must not be blank. -/
def subselectBuilt : Subselect → Except Error Built
  | .query query => query.selectBuilt
  | .text sql => if Text.allBlank sql then .error .emptySubselect else .ok ⟨sql, []⟩

/-- Select a subselect under an alias. -/
def selectSub (q : Statement) (source : Subselect) (label : String) : Except Error Statement := do
  let built ← subselectBuilt source
  let label := q.setting.dialect.quoteColumn (.named label)
  return q.selectRaw ("(" ++ built.sql ++ ") AS " ++ label) built.bindings

/-- Select each row once. -/
def onlyDistinct (q : Statement) : Statement :=
  { q with distinct := true }

/-- Select a function over columns in place of the columns. -/
def selectAggregate (q : Statement) (function : String) (columns : List Reference) :
    Except Error Statement := do
  let function ← AggregateFunction.ofName function
  return { q with aggregate := some ⟨function, columns⟩ }

/-- Set the table that the statement is about. -/
def withTable (q : Statement) (table : Reference) : Statement :=
  { q with table := some table }

/-- Lock the selected rows. -/
def withLock (q : Statement) (lock : Lock) : Statement :=
  { q with lock := some lock }

end FluentSql.Statement
