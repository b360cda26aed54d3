import FluentSql.Double.Decimal
import FluentSql.Record

/-!
# `Json` — JSON documents and their compact text

A document keeps the members of its objects as they were written. Its compact text has no blanks and
is canonical: members are sorted by key, and of a repeated key only the last member is written.

## Contents
- `Json`, the documents.
- `Json.quoted`, a string with the escapes that JSON requires and no others.
- `Json.compact`, the compact text.
-/

namespace FluentSql

/-- A JSON document. Integers are kept apart from numbers with a fraction or an exponent. -/
inductive Json where
  | null
  | bool (b : Bool)
  | int (n : Int)
  | float (x : Double)
  | text (s : String)
  | array (items : List Json)
  | object (members : List (String × Json))

namespace Json

/-- A character inside quotes: the quote, the backslash and the characters below U+0020 are escaped. -/
def escapeChar (c : Char) : List Char :=
  if c = '"' then ['\\', '"']
  else if c = '\\' then ['\\', '\\']
  else if c.toNat = 0x08 then ['\\', 'b']
  else if c.toNat = 0x09 then ['\\', 't']
  else if c.toNat = 0x0A then ['\\', 'n']
  else if c.toNat = 0x0C then ['\\', 'f']
  else if c.toNat = 0x0D then ['\\', 'r']
  else if c.toNat < 0x20 then '\\' :: 'u' :: Text.padded 16 4 c.toNat
  else [c]

/-- A string in quotes. -/
def quoted (s : String) : String :=
  String.ofList ('"' :: s.toList.flatMap escapeChar ++ ['"'])

/-- The text of a double: the shortest decimal that reads back, positional from `1e-5` up to but not
    including `1e16`. A number that is not finite has no text of its own and becomes `null`. -/
def floatText (x : Double) : String :=
  if !x.isFinite then "null"
  else
    let sign := if x.negative then "-" else ""
    if x.units = 0 then sign ++ "0.0" else sign ++ x.shortest.text (-5) 15

mutual

/-- The compact text of a document. -/
def compact : Json → String
  | .null => "null"
  | .bool true => "true"
  | .bool false => "false"
  | .int n => Text.decimal n
  | .float x => floatText x
  | .text s => quoted s
  | .array items => "[" ++ ",".intercalate (compactItems items) ++ "]"
  | .object members =>
    let written := (sortPairs (compactMembers members)).map fun (key, value) =>
      quoted key ++ ":" ++ value
    "\x7b" ++ ",".intercalate written ++ "\x7d"

/-- The compact texts of a list of documents. -/
def compactItems : List Json → List String
  | [] => []
  | item :: items => item.compact :: compactItems items

/-- The keys of a list of members with the compact texts of their documents. -/
def compactMembers : List (String × Json) → List (String × String)
  | [] => []
  | (key, member) :: members => (key, member.compact) :: compactMembers members

end

end Json

end FluentSql
