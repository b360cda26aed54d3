import FluentSql.Double
import FluentSql.Text.Digits
import FluentSql.Value.Calendar

/-!
# `Value` — what can stand behind a placeholder

A value is bound to a placeholder of a statement. The one exception is a raw value: SQL text that is
written into the statement as it is and is never bound.

## Contents
- `Value` and the conversions into it.
- The readings of a value as an integer, a double, a truth value or text.
-/

namespace FluentSql

/-- A bound value, or raw SQL text in a value's place. -/
inductive Value where
  | null
  | bool (b : Bool)
  | int (n : Int64)
  | float (x : Double)
  | text (s : String)
  | blob (bytes : List UInt8)
  | raw (sql : String)
  deriving DecidableEq

namespace Value

/-! ## Conversions -/

/-- An absent value is null. -/
def ofOption : Option Value → Value
  | none => .null
  | some v => v

/-- A date is stored as its text. -/
def ofDate (d : Date) : Value :=
  .text d.text

/-- A timestamp without zone is stored as its text. -/
def ofTimestamp (t : Timestamp) : Value :=
  .text t.text

/-- A timestamp in universal time is stored as its text. -/
def ofUtc (t : Timestamp) : Value :=
  .text t.utcText

/-- A universally unique identifier is stored as 32 hexadecimal digits in groups of 8, 4, 4, 4, 12. -/
def ofUuid (id : BitVec 128) : Value :=
  let digits := Text.padded 16 32 id.toNat
  let group (start count : Nat) := String.ofList ((digits.drop start).take count)
  .text ("-".intercalate [group 0 8, group 8 4, group 12 4, group 16 4, group 20 12])

/-- An integer of 64 bits, if the number is one. -/
def int64? (n : Int) : Option Int64 :=
  if -9223372036854775808 ≤ n ∧ n ≤ 9223372036854775807 then some (Int64.ofInt n) else none

/-! ## Readings -/

/-- Whether the value is null. -/
def isNull : Value → Bool
  | .null => true
  | _ => false

/-- Whether the value is raw SQL text. -/
def isRaw : Value → Bool
  | .raw _ => true
  | _ => false

/-- The value as an integer; a truth value counts as 0 or 1. -/
def toInt? : Value → Option Int64
  | .int n => some n
  | .bool b => some (if b then 1 else 0)
  | _ => none

/-- The value as a double; an integer is rounded to the nearest one. -/
def toDouble? : Value → Option Double
  | .float x => some x
  | .int n => some (Double.ofInt n.toInt)
  | _ => none

/-- The value as a truth value; 0 and 1 count, since an engine may have no type of its own for it. -/
def toBool? : Value → Option Bool
  | .bool b => some b
  | .int n => if n = 0 then some false else if n = 1 then some true else none
  | _ => none

/-- The value as text. -/
def toText? : Value → Option String
  | .text s => some s
  | _ => none

/-- The name of the value's kind, as error messages give it. -/
def kindName : Value → String
  | .null => "null"
  | .bool _ => "bool"
  | .int _ => "int"
  | .float _ => "float"
  | .text _ => "text"
  | .blob _ => "blob"
  | .raw _ => "raw"

/-- Drop the raw entries of a list of values: what is left is bound. -/
def withoutRaw (values : List Value) : List Value :=
  values.filter fun v => !v.isRaw

@[simp] theorem withoutRaw_append (xs ys : List Value) :
    withoutRaw (xs ++ ys) = withoutRaw xs ++ withoutRaw ys :=
  List.filter_append xs ys

@[simp] theorem withoutRaw_withoutRaw (xs : List Value) :
    withoutRaw (withoutRaw xs) = withoutRaw xs := by
  simp [withoutRaw]

/-- No raw value is left. -/
theorem isRaw_of_mem_withoutRaw {v : Value} {xs : List Value} (h : v ∈ withoutRaw xs) :
    v.isRaw = false := by
  simpa using (List.mem_filter.mp h).2

end Value

end FluentSql
