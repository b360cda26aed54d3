import FluentSql.Error
import FluentSql.Value.Json

/-!
# `Record.Reading` — typed access to the columns of a row

A row is read column by column, each as a type of its own, or as a whole through its document. The
names of the types appear in messages.

## Contents
- `ColumnType`, a type that a column can be read as, with its values and its name.
- `Record.read`, one column of a row.
- `UserRow`, a row type read column by column (`ofRecord`) or through the document (`decode`).
-/

namespace FluentSql

/-- How a value is read as a type, and what messages call the type. -/
structure ColumnType (α : Type) where
  name : String
  ofValue? : Value → Option α

namespace ColumnType

/-- Any value. -/
def value : ColumnType Value :=
  ⟨"value", some⟩

/-- A signed integer of 64 bits. -/
def int64 : ColumnType Int64 :=
  ⟨"i64", Value.toInt?⟩

/-- A signed integer of 32 bits. -/
def int32 : ColumnType Int32 where
  name := "i32"
  ofValue? v := do
    let n ← v.toInt?
    if -2147483648 ≤ n.toInt ∧ n.toInt ≤ 2147483647 then some (Int32.ofInt n.toInt) else none

/-- A double. -/
def double : ColumnType Double :=
  ⟨"f64", Value.toDouble?⟩

/-- A truth value. -/
def bool : ColumnType Bool :=
  ⟨"bool", Value.toBool?⟩

/-- Text. -/
def text : ColumnType String :=
  ⟨"alloc::string::String", Value.toText?⟩

/-- Null, or else the given type. -/
def optional {α : Type} (t : ColumnType α) : ColumnType (Option α) where
  name := "core::option::Option<" ++ t.name ++ ">"
  ofValue? v := if v.isNull then some none else (t.ofValue? v).map some

end ColumnType

/-- Read a column of a row as the given type. -/
def Record.read {α : Type} (r : Record) (t : ColumnType α) (column : String) : Except Error α :=
  match r.get? column with
  | none => .error (.missingColumn column)
  | some v =>
    match t.ofValue? v with
    | none => .error (.mistypedColumn column v.kindName t.name)
    | some a => .ok a

/-! ## A row type -/

/-- A user with an optional note. -/
structure UserRow where
  id : Int64
  name : String
  note : Option String

namespace UserRow

/-- Read the columns in the order of the fields; the first that fails decides the error. -/
def ofRecord (r : Record) : Except Error UserRow := do
  let id ← r.read .int64 "id"
  let name ← r.read .text "name"
  let note ← r.read (.optional .text) "note"
  return ⟨id, name, note⟩

/-- The text of a document that holds text. -/
def textOfJson? : Json → Option String
  | .text s => some s
  | _ => none

/-- The integer of a document that holds one of 64 bits. -/
def intOfJson? : Json → Option Int64
  | .int n => Value.int64? n
  | _ => none

/-- A note, which may be null or missing. -/
def noteOfJson? : Option Json → Option (Option String)
  | none | some .null => some none
  | some document => (textOfJson? document).map some

/-- Read the members of a row's document; other members are ignored. -/
def ofMembers? (members : List (String × Json)) : Option UserRow := do
  let id ← intOfJson? (← members.lookup "id")
  let name ← textOfJson? (← members.lookup "name")
  let note ← noteOfJson? (members.lookup "note")
  return ⟨id, name, note⟩

/-- Read a row through its document. -/
def decode (r : Record) : Except Error UserRow :=
  match r.toJson with
  | .object members => (ofMembers? members).elim (.error .undecodable) .ok
  | _ => .error .undecodable

end UserRow

end FluentSql
