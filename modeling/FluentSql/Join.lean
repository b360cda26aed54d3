import FluentSql.Operator
import FluentSql.Reference
import FluentSql.Value

/-!
# `Join` — joined tables and their conditions

## Contents
- `JoinKind`, `JoinTarget`, `JoinConstraint` and `Join`.
- The steps that add a constraint: `on`, `compare`, `nullCheck`.
- `Join.bindings`, the values that the constraints bind.
-/

namespace FluentSql

/-- Which rows without a partner a join keeps. -/
inductive JoinKind where
  | inner
  | left
  | right
  deriving DecidableEq

/-- The kind as it is written. -/
def JoinKind.word : JoinKind → String
  | .inner => "INNER"
  | .left => "LEFT"
  | .right => "RIGHT"

/-- The right side of a constraint. -/
inductive JoinTarget where
  | column (reference : Reference)
  | value (value : Value)
  deriving DecidableEq

/-- Whether the right side is a value rather than a column. -/
def JoinTarget.isValue : JoinTarget → Bool
  | .column _ => false
  | .value _ => true

/-- The value on the right side, if there is one. -/
def JoinTarget.value? : JoinTarget → Option Value
  | .column _ => none
  | .value v => some v

/-- One condition of a join. -/
structure JoinConstraint where
  connector : Connector
  first : Reference
  operator : String
  second : JoinTarget
  deriving DecidableEq

/-- A joined table with its conditions. -/
structure Join where
  table : Reference
  kind : JoinKind
  constraints : List JoinConstraint := []
  deriving DecidableEq

namespace Join

/-- Add a condition at the end. -/
def add (j : Join) (connector : Connector) (first : Reference) (operator : String)
    (second : JoinTarget) : Join :=
  { j with constraints := j.constraints ++ [⟨connector, first, operator, second⟩] }

/-- Compare two columns. -/
def on (j : Join) (connector : Connector) (first : Reference) (operator : String)
    (second : Reference) : Join :=
  j.add connector first operator (.column second)

/-- Compare a column with a value. -/
def compare (j : Join) (connector : Connector) (first : Reference) (operator : String)
    (value : Value) : Join :=
  j.add connector first operator (.value value)

/-- Ask whether a column is null. -/
def nullCheck (j : Join) (connector : Connector) (negated : Bool) (column : Reference) : Join :=
  j.on connector column "IS" (.raw (if negated then "NOT NULL" else "NULL"))

/-- The values that the conditions bind, in their order. -/
def bindings (j : Join) : List Value :=
  Value.withoutRaw (j.constraints.filterMap fun c => c.second.value?)

@[simp] theorem bindings_add (j : Join) (connector : Connector) (first : Reference)
    (operator : String) (second : JoinTarget) :
    (j.add connector first operator second).bindings =
      j.bindings ++ Value.withoutRaw second.value?.toList := by
  cases second <;> simp [bindings, add, JoinTarget.value?, Value.withoutRaw]

end Join

end FluentSql
