import FluentSql.Text.Digits

/-!
# `Log` — what is recorded about executed statements

## Contents
- `LogPolicy`, whether statements are logged and how much of their text.
- `StatementKind` and `LogEvent`.
-/

namespace FluentSql

/-- Whether executed statements are logged, and how many characters of their text. -/
structure LogPolicy where
  enabled : Bool := true
  /-- Longer texts are cut; none means that no text is. -/
  maxLength : Option Nat := some 200
  deriving DecidableEq

namespace LogPolicy

/-- Nothing is logged. -/
def disabled : LogPolicy :=
  { enabled := false }

/-- Cut texts after `length` characters. -/
def withMaxLength (p : LogPolicy) (length : Nat) : LogPolicy :=
  { p with maxLength := some length }

/-- Cut no text. -/
def withoutCut (p : LogPolicy) : LogPolicy :=
  { p with maxLength := none }

/-- The text as it is logged: what is longer than allowed is cut and gets three dots. -/
def shorten (p : LogPolicy) (sql : String) : String :=
  match p.maxLength with
  | some length =>
    if length < sql.length then String.ofList (sql.toList.take length) ++ "..." else sql
  | none => sql

end LogPolicy

/-- What an executed statement does. -/
inductive StatementKind where
  | select
  | insert
  | update
  | delete
  | truncate
  deriving DecidableEq

/-- The kind as logs name it. -/
def StatementKind.name : StatementKind → String
  | .select => "Select"
  | .insert => "Insert"
  | .update => "Update"
  | .delete => "Delete"
  | .truncate => "Truncate"

/-- A record in the log. -/
inductive LogEvent where
  /-- A statement is about to be executed. -/
  | executing (kind : StatementKind) (parameters : Nat) (sql : String)
  /-- The storage engine refused a statement. -/
  | failed (kind : StatementKind) (sql message : String)
  deriving DecidableEq

end FluentSql
