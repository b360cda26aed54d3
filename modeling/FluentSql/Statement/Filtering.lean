import FluentSql.Statement

/-!
# `Statement.Filtering` — the conditions on rows and on groups

Every condition is added at the end of its list, and the values that it binds at the end of its
clause's bindings, in the same step.

## Contents
- `addWhere`, the one way a condition enters the WHERE list.
- `compare`, a column with an operator and an operand, and `whereCondition`, all shapes of conditions.
- Groups, ranges, subqueries, lists, null checks and raw conditions.
- `groupBy`, `having`, `havingRaw`.
-/

namespace FluentSql.Statement

/-- Add a condition on rows together with the values that it binds. -/
def addWhere (q : Statement) (connector : Connector) (predicate : Predicate) (values : List Value) :
    Statement :=
  { q.bind .filter values with wheres := q.wheres ++ [⟨connector, predicate⟩] }

/-! ## Comparisons -/

/-- The operator and operand that are meant. A text that is no operator is the operand of an
    equality, and so is an operator without an operand. -/
def resolveComparison (column : Reference) (operator : Option String) (operand : Option Operand) :
    Except Error (String × Operand) :=
  match operator, operand with
  | none, none => .error (.missingOperand column)
  | none, some operand => .ok ("=", operand)
  | some text, none => .ok ("=", .value (.text text))
  | some text, some operand =>
    if isOperator text then .ok (text, operand) else .ok ("=", .value (.text text))

/-- Compare a column with null: equality and inequality are null checks, no other operator is. -/
def compareNull (q : Statement) (connector : Connector) (column : Reference) (operator : String) :
    Except Error Statement :=
  if operator = "=" then .ok (q.addWhere connector (.nullCheck column false) [])
  else if operator = "!=" ∨ operator = "<>" then
    .ok (q.addWhere connector (.nullCheck column true) [])
  else .error (.nullComparison column operator)

/-- Compare a column with an operand by an operator. A list is refused. -/
def compareOperand (q : Statement) (connector : Connector) (column : Reference) (operator : String) :
    Operand → Except Error Statement
  | .query query => .ok (q.addWhere connector (.subquery column operator query) query.bound)
  | .list _ => .error (.listOperand column)
  | .value .null => q.compareNull connector column operator
  | .value value => .ok (q.addWhere connector (.comparison column operator value) [value])

/-- Add a comparison, of which operator or operand may be missing. -/
def compare (q : Statement) (connector : Connector) (column : Reference) (operator : Option String)
    (operand : Option Operand) : Except Error Statement := do
  let (operator, operand) ← resolveComparison column operator operand
  q.compareOperand connector column operator operand

/-! ## Groups and conditions of any shape -/

/-- Add the conditions of another statement as one group. The group takes this statement's table; a
    statement without conditions adds nothing. -/
def whereGroup (q : Statement) (connector : Connector) (query : Statement) : Statement :=
  if query.wheres.isEmpty then q
  else
    q.addWhere connector (.group { query with table := q.table }) (query.bindings.get .filter)

/-- Add an equality for each pair, in their order. -/
def whereEqualities (q : Statement) (pairs : List (String × Operand)) : Except Error Statement :=
  pairs.foldlM (fun q (column, operand) => q.compare .and (.named column) (some "=") (some operand)) q

/-- Add an entry of column, operator and operand. -/
def whereTriple (q : Statement) (entry : List Operand) : Except Error Statement :=
  match entry with
  | [column, operator, operand] =>
    match column.text?, operator.text? with
    | none, _ => .error .conditionColumn
    | some _, none => .error .conditionOperator
    | some column, some operator => q.compare .and (.named column) (some operator) (some operand)
  | _ => .error (.conditionLength entry.length)

/-- Add entries of column, operator and operand as one group. -/
def whereTriples (q : Statement) (connector : Connector) (entries : List (List Operand)) :
    Except Error Statement := do
  let group ← entries.foldlM whereTriple q.newQuery
  return q.whereGroup connector group

/-- Add a condition of any shape. Equalities are always joined by AND. -/
def whereCondition (q : Statement) (connector : Connector) : Condition → Except Error Statement
  | .equalities pairs => q.whereEqualities pairs
  | .group query => .ok (q.whereGroup connector query)
  | .triples entries => q.whereTriples connector entries
  | .column column operator operand => q.compare connector column operator operand

/-! ## Other conditions -/

/-- Add a condition given as SQL text with its values. -/
def whereRaw (q : Statement) (connector : Connector) (sql : String) (values : List Value) :
    Statement :=
  q.addWhere connector (.raw sql) values

/-- Ask whether a column is within two bounds. -/
def whereBetween (q : Statement) (connector : Connector) (negated : Bool) (column : Reference)
    (low high : Value) : Statement :=
  q.addWhere connector (.between column low high negated) [low, high]

/-- Ask whether a subquery has rows. -/
def whereExists (q : Statement) (connector : Connector) (negated : Bool) (query : Statement) :
    Statement :=
  q.addWhere connector (.existence query negated) query.bound

/-- Ask whether a column is in a list or among the rows of a subquery. -/
def whereIn (q : Statement) (connector : Connector) (negated : Bool) (column : Reference) :
    Membership → Statement
  | .values values => q.addWhere connector (.member column values negated) values
  | .query query => q.addWhere connector (.memberOf column query negated) query.bound

/-- Ask whether a column is null. -/
def whereNull (q : Statement) (connector : Connector) (negated : Bool) (column : Reference) :
    Statement :=
  q.addWhere connector (.nullCheck column negated) []

/-! ## Groups of rows -/

/-- Group the rows by further columns. -/
def groupBy (q : Statement) (columns : List Reference) : Statement :=
  { q with groups := q.groups ++ columns }

/-- Add a condition on groups together with the values that it binds. -/
def addHaving (q : Statement) (connector : Connector) (predicate : Predicate)
    (values : List Value) : Statement :=
  { q.bind .having values with havings := q.havings ++ [⟨connector, predicate⟩] }

/-- Compare a column of a group with a value. The operator is written as it is given. -/
def having (q : Statement) (connector : Connector) (column : Reference) (operator : String)
    (value : Value) : Statement :=
  q.addHaving connector (.comparison column operator value) [value]

/-- Add a condition on groups given as SQL text with its values. -/
def havingRaw (q : Statement) (connector : Connector) (sql : String) (values : List Value) :
    Statement :=
  q.addHaving connector (.raw sql) values

end FluentSql.Statement
