import FluentSql.Json

/-!
# `Value.Json` — values as JSON documents and back

A value has a plain document, which forgets its kind, and a tagged one, which names it. Reading a
plain document takes the nearest kind of value; reading a tagged one accepts exactly the tagged form.

## Contents
- `Value.ofJson` and `Value.toJson`, the plain form.
- `Value.toTagged` and `Value.ofTagged?`, the tagged form.
- `Record.toJson`, a record as an object.
-/

namespace FluentSql

/-- A double as a document; JSON has no text for a number that is not finite. -/
def Json.ofDouble (x : Double) : Json :=
  if x.isFinite then .float x else .null

namespace Value

/-! ## The plain form -/

/-- The value of a document. An integer beyond 64 bits becomes the nearest double; arrays and objects
    are stored as their compact text. -/
def ofJson : Json → Value
  | .null => .null
  | .bool b => .bool b
  | .int n =>
    match int64? n with
    | some i => .int i
    | none => .float (Double.ofInt n)
  | .float x => .float x
  | .text s => .text s
  | .array items => .text (Json.array items).compact
  | .object members => .text (Json.object members).compact

/-- The document of a byte string: its bytes as integers. -/
def bytesToJson (bytes : List UInt8) : Json :=
  .array (bytes.map fun b => .int b.toNat)

/-- The plain document of a value. -/
def toJson : Value → Json
  | .null => .null
  | .bool b => .bool b
  | .int n => .int n.toInt
  | .float x => .ofDouble x
  | .text s => .text s
  | .blob bytes => bytesToJson bytes
  | .raw sql => .text sql

/-! ## The tagged form -/

/-- The document that names the value's kind. -/
def toTagged : Value → Json
  | .null => .text "Null"
  | .bool b => .object [("Bool", .bool b)]
  | .int n => .object [("Int", .int n.toInt)]
  | .float x => .object [("Float", .ofDouble x)]
  | .text s => .object [("Text", .text s)]
  | .blob bytes => .object [("Blob", bytesToJson bytes)]
  | .raw sql => .object [("Raw", .text sql)]

/-- A byte, if the document is an integer from 0 to 255. -/
def byteOfJson? : Json → Option UInt8
  | .int n => if 0 ≤ n ∧ n < 256 then some (UInt8.ofNat n.toNat) else none
  | _ => none

/-- The value of a kind's name with a document for its content. Only a float accepts a number written
    in another way, an integer. -/
def ofTaggedContent? (tag : String) (content : Json) : Option Value :=
  match tag, content with
  | "Null", .null => some .null
  | "Bool", .bool b => some (.bool b)
  | "Int", .int n => (int64? n).map .int
  | "Float", .float x => some (.float x)
  | "Float", .int n => some (.float (Double.ofInt n))
  | "Text", .text s => some (.text s)
  | "Blob", .array items => (items.mapM byteOfJson?).map .blob
  | "Raw", .text sql => some (.raw sql)
  | _, _ => none

/-- The value of a tagged document: the null value's name alone, or an object with one member. -/
def ofTagged? : Json → Option Value
  | .text "Null" => some .null
  | .object [(tag, content)] => ofTaggedContent? tag content
  | _ => none

end Value

/-- The record as an object of plain documents. -/
def Record.toJson (r : Record) : Json :=
  .object (r.entries.map fun (column, value) => (column, value.toJson))

end FluentSql
