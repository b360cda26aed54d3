import FluentSql.Statement
import FluentSql.Text.Blank

/-!
# `Statement.Joining` — adding joined tables
-/

namespace FluentSql.Statement

/-- Add a join with its conditions. -/
def addJoin (q : Statement) (j : Join) : Statement :=
  { q.bind .join j.bindings with joins := q.joins ++ [j] }

/-- Add a join with its conditions, as a join of the given kind. -/
def addJoinAs (q : Statement) (kind : JoinKind) (j : Join) : Statement :=
  q.addJoin { j with kind := kind }

/-- Whether a reference is a name of blanks only. -/
def isBlankName (r : Reference) : Bool :=
  match r with
  | .named name => Text.allBlank name
  | .raw _ => false

/-- Join a table on one condition. -/
def join (q : Statement) (kind : JoinKind) (table first : Reference) (operator : String)
    (second : JoinTarget) : Except Error Statement :=
  if isBlankName first then .error (.joinWithoutColumn table)
  else .ok (q.addJoin (Join.add ⟨table, kind, []⟩ .and first operator second))

end FluentSql.Statement
