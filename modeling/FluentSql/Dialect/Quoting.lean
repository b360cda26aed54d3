import FluentSql.Dialect
import FluentSql.Reference
import FluentSql.Text.Blank
import FluentSql.Text.Scan
import FluentSql.Value

/-!
# `Dialect.Quoting` — names and values in the text of a statement

A name is a path of segments between points, with an alias after the first ` as `. Every segment is
quoted on its own, and a quote character inside one is doubled, so that no name ends its own quotes.
The segment `*` stands for all columns and is not quoted.

## Contents
- `quoteSegmentChars`, `quotePathChars`, `quoteNameChars`, on characters.
- `Dialect.quoteName`, `quoteColumn`, `quoteTable`, on references.
- `Dialect.placeholder`, the text of a value.
-/

namespace FluentSql

/-! ## Names as characters -/

/-- A segment with every quote character doubled, in quotes; `*` alone stays as it is. -/
def quoteSegmentChars (quote : Char) (segment : List Char) : List Char :=
  if segment = ['*'] then segment
  else quote :: segment.flatMap (fun c => if c = quote then [quote, quote] else [c]) ++ [quote]

/-- The segments between points, each quoted. -/
def quotePathChars (quote : Char) (path : List Char) : List Char :=
  ['.'].intercalate ((path.splitOn '.').map (quoteSegmentChars quote))

/-- A path, or a path with an alias after the first ` as `. Path and alias are trimmed, and the alias
    is one segment with `aliasPrefix` in front. -/
def quoteNameChars (quote : Char) (aliasPrefix name : List Char) : List Char :=
  match Text.splitAtKeyword [' ', 'a', 's', ' '] name with
  | some (path, label) =>
    quotePathChars quote (Text.trimChars path) ++ [' ', 'A', 'S', ' ']
      ++ quoteSegmentChars quote (aliasPrefix ++ Text.trimChars label)
  | none => quotePathChars quote name

/-! ## References and values -/

namespace Dialect

/-- A segment of a name, quoted. -/
def quoteSegment (d : Dialect) (segment : String) : String :=
  String.ofList (quoteSegmentChars d.quote segment.toList)

/-- A name, quoted; an alias gets the table prefix if asked for. -/
def quoteName (d : Dialect) (name : String) (withPrefix : Bool) : String :=
  let aliasPrefix := if withPrefix then d.tablePrefix.toList else []
  String.ofList (quoteNameChars d.quote aliasPrefix name.toList)

/-- A column reference: a name is quoted, raw text is copied. -/
def quoteColumn (d : Dialect) : Reference → String
  | .named name => d.quoteName name false
  | .raw sql => sql

/-- A table reference: a name gets the table prefix, in front and before its alias, and is quoted. -/
def quoteTable (d : Dialect) : Reference → String
  | .named name => d.quoteName (d.tablePrefix ++ name) true
  | .raw sql => sql

/-- Column references separated by commas. -/
def quoteColumns (d : Dialect) (columns : List Reference) : String :=
  ", ".intercalate (columns.map d.quoteColumn)

/-- The marker for a value, or the text of a raw one. -/
def placeholder (d : Dialect) : Value → String
  | .raw sql => sql
  | _ => d.marker

/-- The placeholders of several values, separated by commas. -/
def placeholders (d : Dialect) (values : List Value) : String :=
  ", ".intercalate (values.map d.placeholder)

end Dialect

end FluentSql
