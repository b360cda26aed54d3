import FluentSql.Dialect.Quoting
import FluentSql.Statement

/-!
# `Statement.Render` — the text of a SELECT

The text is written clause by clause, in a fixed order, with placeholders for the bound values. The
dialect of the outermost statement governs the whole text, embedded statements included; a group
contributes its conditions and nothing else.

## Contents
- The clauses without embedded statements: projection, joins, groups, orders, paging, lock.
- `Dialect.renderSelect`, `criterionTexts`, `predicateText` and `memberTexts`, one recursion over the
  statement and what it embeds.
- `Dialect.renderClause` and `renderSelect_eq`, the text as the texts of its clauses.
-/

namespace FluentSql

/-- A compiled statement with the values for its placeholders. -/
structure Built where
  sql : String
  bindings : List Value
  deriving DecidableEq

namespace Dialect

/-! ## Clauses without embedded statements -/

/-- The function of an aggregate over its columns, or over all columns if it names none. Distinct rows
    count once, unless the function is over all columns. -/
def renderAggregate (d : Dialect) (distinct : Bool) : Option Aggregate → String
  | none => ""
  | some aggregate =>
    let columns := if aggregate.columns.isEmpty then "*" else d.quoteColumns aggregate.columns
    let columns := if distinct && columns ≠ "*" then "DISTINCT " ++ columns else columns
    "SELECT " ++ aggregate.function.word ++ "(" ++ columns ++ ") AS aggregate"

/-- The selected columns; an aggregate takes their place. -/
def renderColumns (d : Dialect) (q : Statement) : String :=
  match q.aggregate with
  | some _ => ""
  | none =>
    let select := if q.distinct then "SELECT DISTINCT " else "SELECT "
    select ++ if q.columns.isEmpty then "*" else d.quoteColumns q.columns

/-- The table that rows are selected from. -/
def renderTable (d : Dialect) : Option Reference → String
  | none => ""
  | some table => "FROM " ++ d.quoteTable table

/-- The right side of a join's condition. -/
def renderJoinTarget (d : Dialect) : JoinTarget → String
  | .column reference => d.quoteColumn reference
  | .value value => d.placeholder value

/-- A condition of a join, with its connector. -/
def renderJoinConstraint (d : Dialect) (c : JoinConstraint) : String :=
  " ".intercalate [c.connector.word, d.quoteColumn c.first, c.operator, d.renderJoinTarget c.second]

/-- A join; the connector of the first condition is left out. -/
def renderJoin (d : Dialect) (j : Join) : String :=
  let head := j.kind.word ++ " JOIN " ++ d.quoteTable j.table
  if j.constraints.isEmpty then head
  else
    head ++ " ON "
      ++ Text.dropFirstConnector (" ".intercalate (j.constraints.map d.renderJoinConstraint))

/-- The joins, in their order. -/
def renderJoins (d : Dialect) (joins : List Join) : String :=
  " ".intercalate (joins.map d.renderJoin)

/-- The grouping columns. -/
def renderGroups (d : Dialect) (groups : List Reference) : String :=
  if groups.isEmpty then "" else "GROUP BY " ++ d.quoteColumns groups

/-- An entry of an ORDER BY list. No dialect writes raw text there. -/
def renderOrder (d : Dialect) : Order → Except Error String
  | .column column direction => .ok (d.quoteColumn column ++ " " ++ direction.word)
  | .raw sql => .error (.rawOrder sql)

/-- The order of the rows; the first raw entry is refused. -/
def renderOrders (d : Dialect) (orders : List Order) : Except Error String :=
  if orders.isEmpty then .ok ""
  else do
    let entries ← orders.mapM d.renderOrder
    return "ORDER BY " ++ ", ".intercalate entries

/-- A clause with a number, which is written if it is positive. -/
def renderCount (keyword : String) : Option Int64 → String
  | none => ""
  | some n => if 0 < n then keyword ++ " " ++ Text.decimal n.toInt else ""

/-- How many rows are taken. -/
def renderLimit (limit : Option Int64) : String :=
  renderCount "LIMIT" limit

/-- How many rows are skipped. -/
def renderOffset (offset : Option Int64) : String :=
  renderCount "OFFSET" offset

/-- The row lock, which one family of dialects leaves out. -/
def renderLock (d : Dialect) (lock : Lock) : String :=
  match d.family, lock with
  | .sqlite, _ => ""
  | .base, .update => "FOR UPDATE"
  | .base, .shared => "LOCK IN SHARE MODE"
  | .base, .raw sql => sql

/-! ## Lists of conditions -/

/-- Conditions with their connectors, the first connector left out. -/
def conjoin (texts : List String) : String :=
  Text.dropFirstConnector (" ".intercalate texts)

/-- A keyword before conditions; without conditions the clause is empty. -/
def keywordBefore (keyword : String) (texts : List String) : String :=
  if texts.isEmpty then "" else keyword ++ " " ++ conjoin texts

/-- The word that negates what follows it. -/
def negation (negated : Bool) : String :=
  if negated then "NOT " else ""

/-- A column in a list of values. No column is in the empty list. -/
def renderMember (d : Dialect) (column : Reference) (values : List Value) (negated : Bool) :
    String :=
  if values.isEmpty then if negated then "1 = 1" else "0 = 1"
  else
    d.quoteColumn column ++ " " ++ negation negated ++ "IN (" ++ d.placeholders values ++ ")"

/-- The members of a union with the tail of the whole; without members the clause is empty. -/
def renderUnions (d : Dialect) (members : List String) (tail : Tail) : Except Error String :=
  if members.isEmpty then .ok ""
  else do
    let orders ← d.renderOrders tail.orders
    return Text.joinParts (members ++ [orders, renderLimit tail.limit, renderOffset tail.offset])

/-- The text of a SELECT, given the texts of the clauses that embed statements. -/
def assemble (d : Dialect) (q : Statement) (wheres havings orders unions : String) : String :=
  Text.trim (Text.joinParts
    [d.renderAggregate q.distinct q.aggregate, d.renderColumns q, d.renderTable q.table,
     d.renderJoins q.joins, wheres, d.renderGroups q.groups, havings, orders,
     renderLimit q.tail.limit, renderOffset q.tail.offset, unions,
     (q.lock.map d.renderLock).getD ""])

/-! ## Statements -/

mutual

/-- The text of a statement as a SELECT. -/
def renderSelect (d : Dialect) : Statement → Except Error String
  | q@{ wheres, havings, unions, .. } => do
    let wheres ← d.criterionTexts wheres
    let havings ← d.criterionTexts havings
    let orders ← d.renderOrders q.tail.orders
    let members ← d.memberTexts unions
    let unions ← d.renderUnions members q.unionTail
    return d.assemble q (keywordBefore "WHERE" wheres) (keywordBefore "HAVING" havings) orders unions

/-- The conditions of a list, each with its connector. -/
def criterionTexts (d : Dialect) : List Criterion → Except Error (List String)
  | [] => .ok []
  | criterion :: criteria => do
    let text ← d.criterionText criterion
    let texts ← d.criterionTexts criteria
    return text :: texts

/-- A condition with its connector. -/
def criterionText (d : Dialect) : Criterion → Except Error String
  | { connector, predicate } => do
    let text ← d.predicateText predicate
    return connector.word ++ " " ++ text

/-- A condition without its connector. -/
def predicateText (d : Dialect) : Predicate → Except Error String
  | .comparison column operator value =>
    .ok (d.quoteColumn column ++ " " ++ operator ++ " " ++ d.placeholder value)
  | .raw sql => .ok sql
  | .between column low high negated =>
    .ok (d.quoteColumn column ++ " " ++ negation negated ++ "BETWEEN " ++ d.placeholder low ++ " AND "
      ++ d.placeholder high)
  | .group query => do
    let texts ← d.groupTexts query
    return "(" ++ conjoin texts ++ ")"
  | .subquery column operator query => do
    let sql ← d.renderSelect query
    return d.quoteColumn column ++ " " ++ operator ++ " (" ++ sql ++ ")"
  | .existence query negated => do
    let sql ← d.renderSelect query
    return negation negated ++ "EXISTS (" ++ sql ++ ")"
  | .member column values negated => .ok (d.renderMember column values negated)
  | .memberOf column query negated => do
    let sql ← d.renderSelect query
    return d.quoteColumn column ++ " " ++ negation negated ++ "IN (" ++ sql ++ ")"
  | .nullCheck column negated => .ok (d.quoteColumn column ++ " IS " ++ negation negated ++ "NULL")

/-- The conditions of a group's statement. -/
def groupTexts (d : Dialect) : Statement → Except Error (List String)
  | { wheres, .. } => d.criterionTexts wheres

/-- The members of a union, each with its keyword. -/
def memberTexts (d : Dialect) : List UnionMember → Except Error (List String)
  | [] => .ok []
  | { all, query } :: members => do
    let sql ← d.renderSelect query
    let texts ← d.memberTexts members
    return ((if all then "UNION ALL " else "UNION ") ++ sql) :: texts

end

/-- The conditions of a statement after a keyword. -/
def renderCriteria (d : Dialect) (keyword : String) (criteria : List Criterion) :
    Except Error String :=
  (d.criterionTexts criteria).map (keywordBefore keyword)

/-- The WHERE clause. -/
def renderWheres (d : Dialect) (q : Statement) : Except Error String :=
  d.renderCriteria "WHERE" q.wheres

/-! ## Clause by clause -/

end Dialect

/-- The clauses of a SELECT. -/
inductive SelectClause where
  | aggregate
  | columns
  | table
  | joins
  | wheres
  | groups
  | havings
  | orders
  | limit
  | offset
  | unions
  | lock
  deriving DecidableEq

/-- The clauses in the order of their text. -/
def SelectClause.all : List SelectClause :=
  [.aggregate, .columns, .table, .joins, .wheres, .groups, .havings, .orders, .limit, .offset,
   .unions, .lock]

namespace Dialect

/-- The text of one clause; a clause that the statement lacks is empty. -/
def renderClause (d : Dialect) (q : Statement) : SelectClause → Except Error String
  | .aggregate => .ok (d.renderAggregate q.distinct q.aggregate)
  | .columns => .ok (d.renderColumns q)
  | .table => .ok (d.renderTable q.table)
  | .joins => .ok (d.renderJoins q.joins)
  | .wheres => d.renderWheres q
  | .groups => .ok (d.renderGroups q.groups)
  | .havings => d.renderCriteria "HAVING" q.havings
  | .orders => d.renderOrders q.tail.orders
  | .limit => .ok (renderLimit q.tail.limit)
  | .offset => .ok (renderOffset q.tail.offset)
  | .unions => do d.renderUnions (← d.memberTexts q.unions) q.unionTail
  | .lock => .ok ((q.lock.map d.renderLock).getD "")

/-- A SELECT is the text of its clauses in their order, the empty ones left out. -/
theorem renderSelect_eq (d : Dialect) (q : Statement) :
    d.renderSelect q =
      (SelectClause.all.mapM (d.renderClause q)).map fun texts =>
        Text.trim (Text.joinParts texts) := by
  cases q with
  | mk setting bindings aggregate columns distinct table joins wheres groups havings tail unions
      unionTail lock =>
    simp only [renderSelect, SelectClause.all, List.mapM_cons, List.mapM_nil, renderClause,
      renderWheres, renderCriteria, assemble]
    cases d.criterionTexts wheres with
    | error e => rfl
    | ok wheres =>
      cases d.criterionTexts havings with
      | error e => rfl
      | ok havings =>
        cases d.renderOrders tail.orders with
        | error e => rfl
        | ok orders =>
          cases d.memberTexts unions with
          | error e => rfl
          | ok members =>
            cases hu : d.renderUnions members unionTail with
            | error e => simp only [bind, Except.bind, Except.map, hu]
            | ok text => simp only [bind, Except.bind, pure, Except.pure, Except.map, hu]

end Dialect

namespace Statement

/-- The text of the statement as a SELECT, in its own dialect. -/
def selectSql (q : Statement) : Except Error String :=
  q.setting.dialect.renderSelect q

/-- The statement as a SELECT with its bound values. -/
def selectBuilt (q : Statement) : Except Error Built :=
  q.selectSql.map fun sql => ⟨sql, q.bound⟩

end Statement

end FluentSql
