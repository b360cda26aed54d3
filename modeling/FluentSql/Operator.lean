import FluentSql.Text.Scan

/-!
# `Operator` — comparison operators and connectors

## Contents
- `operators`, the comparison operators that a condition may use, and `isOperator`.
- `Connector`, the word between two conditions.
-/

namespace FluentSql

/-- The comparison operators of a condition, in small letters. -/
def operators : List String :=
  ["=", "<", ">", "<=", ">=", "<>", "!=", "<=>",
   "like", "like binary", "not like", "ilike", "&", "|", "^", "<<", ">>",
   "rlike", "not rlike", "regexp", "not regexp", "~", "~*", "!~", "!~*",
   "similar to", "not similar to", "not ilike", "~~*", "!~~*"]

/-- Whether a text is a comparison operator, in any ASCII case. -/
def isOperator (s : String) : Bool :=
  operators.contains (Text.foldCase s)

/-- The word between a condition and the one before it. -/
inductive Connector where
  | and
  | or
  deriving DecidableEq

/-- The connector as it is written. -/
def Connector.word : Connector → String
  | .and => "AND"
  | .or => "OR"

end FluentSql
