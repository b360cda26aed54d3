import FluentSql.Statement.Filtering
import FluentSql.Statement.Joining
import FluentSql.Statement.Merging
import FluentSql.Statement.Paging
import FluentSql.Statement.Projection
import FluentSql.Value.Json

/-!
# `Statement.Call` — building steps as data

A statement is built by a chain of calls. As data, a chain can be stored, repeated and compared with
another one.

## Contents
- `Call`, one building step with its arguments, and `Call.apply`.
- `applyAll`, a chain of steps; the first that fails decides the error.
- Operands and conditions given as JSON documents.
-/

namespace FluentSql

/-- A building step with its arguments. -/
inductive Call where
  | select (columns : List Reference)
  | addSelect (column : Reference)
  | selectRaw (sql : String) (values : List Value)
  | selectSub (source : Subselect) (label : String)
  | distinct
  | table (reference : Reference)
  | join (kind : JoinKind) (joined first : Reference) (operator : String) (second : JoinTarget)
  | addJoin (clause : Join)
  | addJoinAs (kind : JoinKind) (clause : Join)
  | compare (connector : Connector) (column : Reference) (operator : Option String)
      (operand : Option Operand)
  | condition (connector : Connector) (given : Condition)
  | group (connector : Connector) (query : Statement)
  | whereRaw (connector : Connector) (sql : String) (values : List Value)
  | between (connector : Connector) (negated : Bool) (column : Reference) (low high : Value)
  | existence (connector : Connector) (negated : Bool) (query : Statement)
  | membership (connector : Connector) (negated : Bool) (column : Reference) (source : Membership)
  | nullCheck (connector : Connector) (negated : Bool) (column : Reference)
  | groupBy (columns : List Reference)
  | having (connector : Connector) (column : Reference) (operator : String) (value : Value)
  | havingRaw (connector : Connector) (sql : String) (values : List Value)
  | orderBy (column : Reference) (direction : Direction)
  | orderByRaw (sql : String) (values : List Value)
  | limit (n : Int64)
  | offset (n : Int64)
  | page (number perPage : Int64)
  | union (all : Bool) (query : Statement)
  | lock (mode : Lock)
  | aggregate (function : String) (columns : List Reference)
  | merge (other : Statement)
  | addBinding (value : Value) (slot : BindingSlot)
  | setBindings (values : List Value) (slot : BindingSlot)
  | newQuery
  | forGroup

/-- What a step makes of a statement. -/
def Call.apply (q : Statement) : Call → Except Error Statement
  | .select columns => .ok (q.select columns)
  | .addSelect column => .ok (q.addSelect column)
  | .selectRaw sql values => .ok (q.selectRaw sql values)
  | .selectSub source label => q.selectSub source label
  | .distinct => .ok q.onlyDistinct
  | .table reference => .ok (q.withTable reference)
  | .join kind joined first operator second =>
    q.join kind joined first operator second
  | .addJoin clause => .ok (q.addJoin clause)
  | .addJoinAs kind clause => .ok (q.addJoinAs kind clause)
  | .compare connector column operator operand =>
    q.compare connector column operator operand
  | .condition connector given => q.whereCondition connector given
  | .group connector query => .ok (q.whereGroup connector query)
  | .whereRaw connector sql values => .ok (q.whereRaw connector sql values)
  | .between connector negated column low high =>
    .ok (q.whereBetween connector negated column low high)
  | .existence connector negated query => .ok (q.whereExists connector negated query)
  | .membership connector negated column source =>
    .ok (q.whereIn connector negated column source)
  | .nullCheck connector negated column => .ok (q.whereNull connector negated column)
  | .groupBy columns => .ok (q.groupBy columns)
  | .having connector column operator value => .ok (q.having connector column operator value)
  | .havingRaw connector sql values => .ok (q.havingRaw connector sql values)
  | .orderBy column direction => .ok (q.orderBy column direction)
  | .orderByRaw sql values => .ok (q.orderByRaw sql values)
  | .limit n => .ok (q.limit n)
  | .offset n => .ok (q.offset n)
  | .page number perPage => .ok (q.forPage number perPage)
  | .union all query => .ok (q.union all query)
  | .lock mode => .ok (q.withLock mode)
  | .aggregate function columns => q.selectAggregate function columns
  | .merge other => .ok (q.merge other)
  | .addBinding value slot => .ok (q.addBinding value slot)
  | .setBindings values slot => .ok (q.setBindings values slot)
  | .newQuery => .ok q.newQuery
  | .forGroup => .ok q.forGroup

/-- What a chain of steps makes of a statement. -/
def Statement.applyAll (q : Statement) (calls : List Call) : Except Error Statement :=
  calls.foldlM Call.apply q

/-! ## Arguments as documents -/

/-- The operand of a document: an array is a list, every other document a value. -/
def Operand.ofJson : Json → Operand
  | .array items => .list (items.map Value.ofJson)
  | document => .value (Value.ofJson document)

/-- The equalities of an object's members, in ascending order of keys; of a repeated key the last
    member counts. -/
def Condition.ofMembers (members : List (String × Json)) : Condition :=
  .equalities ((sortPairs members).map fun (key, document) => (key, Operand.ofJson document))

end FluentSql
