/-!
# `Reference` — table and column references

A reference is a name, which a dialect quotes, or raw SQL text, which it copies. Names are not checked
against any schema.
-/

namespace FluentSql

/-- A table or column reference. -/
inductive Reference where
  /-- A name: dotted parts and an `AS` alias are understood when it is quoted. -/
  | named (name : String)
  /-- SQL text that is copied as it is. -/
  | raw (sql : String)
  deriving DecidableEq

namespace Reference

/-- Whether the reference is raw SQL text. -/
def isRaw : Reference → Bool
  | .named _ => false
  | .raw _ => true

/-- The name, if the reference is one. -/
def name? : Reference → Option String
  | .named name => some name
  | .raw _ => none

/-- Whether the reference is the name `*`, all columns. -/
def isWildcard (r : Reference) : Bool :=
  r.name? = some "*"

/-- The reference without quotes, as messages show it. -/
def text : Reference → String
  | .named name => name
  | .raw sql => sql

end Reference

end FluentSql
