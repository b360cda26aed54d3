import FluentSql.Statement.Projection

/-!
# `Database` — configuration, and where statements start

## Contents
- `Connection`, settings that are handed to the storage engine and not read here.
- `Config`, the choices of a database, with their defaults.
- `Database`, the setting that follows from them, with `query` and `table`.
-/

namespace FluentSql

/-- Settings for the storage engine. -/
structure Connection where
  name : String := "app.db"
  version : String := "1.0"
  displayName : String := "SQLite Offline Database"
  size : Nat := 200000
  deriving DecidableEq

/-- The choices of a database. -/
structure Config where
  family : DialectFamily := .sqlite
  tablePrefix : String := ""
  marker : String := "?"
  log : LogPolicy := {}
  connection : Connection := {}
  deriving DecidableEq

/-- The dialect of a configuration. -/
def Config.dialect (c : Config) : Dialect where
  family := c.family
  marker := c.marker
  tablePrefix := c.tablePrefix

/-- The shaping that belongs to a family of dialects. -/
def DialectFamily.shaping : DialectFamily → Shaping
  | .base => .plain
  | .sqlite => .sqlite

/-- A configuration with the dialect and the shaping in force. -/
structure Database where
  config : Config
  dialect : Dialect
  shaping : Shaping

namespace Database

/-- The database of a configuration. -/
def ofConfig (config : Config) : Database :=
  ⟨config, config.dialect, config.family.shaping⟩

/-- A database with another dialect and shaping than its configuration asks for. -/
def withParts (config : Config) (dialect : Dialect) (shaping : Shaping) : Database :=
  ⟨config, dialect, shaping⟩

/-- What the statements of the database share. -/
def setting (db : Database) : Setting :=
  ⟨db.dialect, db.shaping, db.config.log⟩

/-- A statement without clauses. -/
def query (db : Database) : Statement :=
  .fresh db.setting

/-- A statement over a table. -/
def table (db : Database) (table : Reference) : Statement :=
  db.query.withTable table

end Database

end FluentSql
