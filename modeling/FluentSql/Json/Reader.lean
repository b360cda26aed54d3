import FluentSql.Json.Number

/-!
# `Json.Reader` — reading JSON text

The reader accepts exactly the documents of the JSON grammar in which no string holds half of a
surrogate pair, no number exceeds the doubles, and at most 127 arrays and objects are nested.

## Contents
- `readString?`, a string after its opening quote.
- `readSeparated?`, what stands between brackets, separated by commas.
- `readValue?` and `read?`, a document at the front of a text and as the whole text.
-/

namespace FluentSql.Json

/-- The text without the blanks in front; JSON knows four of them. -/
def skipBlanks (cs : List Char) : List Char :=
  cs.dropWhile fun c => c = ' ' || c = '\t' || c = '\n' || c = '\r'

/-! ## Strings -/

/-- The value of a hexadecimal digit. -/
def hexValue? (c : Char) : Option Nat :=
  if c.isDigit then some (c.toNat - '0'.toNat)
  else if 'a' ≤ c ∧ c ≤ 'f' then some (c.toNat - 'a'.toNat + 10)
  else if 'A' ≤ c ∧ c ≤ 'F' then some (c.toNat - 'A'.toNat + 10)
  else none

/-- The number of four hexadecimal digits, and the rest. -/
def readHex4? (cs : List Char) : Option (Nat × List Char) :=
  match cs with
  | a :: b :: c :: d :: rest => do
    let n := (((← hexValue? a) * 16 + (← hexValue? b)) * 16 + (← hexValue? c)) * 16 + (← hexValue? d)
    return (n, rest)
  | _ => none

/-- The character of a `\u` escape, and the rest. The first half of a surrogate pair has to be
    followed by an escape for the second half. -/
def readUnicodeEscape? (cs : List Char) : Option (Char × List Char) := do
  let (first, rest) ← readHex4? cs
  if 0xDC00 ≤ first ∧ first ≤ 0xDFFF then none
  else if 0xD800 ≤ first ∧ first ≤ 0xDBFF then
    match rest with
    | '\\' :: 'u' :: rest =>
      let (second, rest) ← readHex4? rest
      if 0xDC00 ≤ second ∧ second ≤ 0xDFFF then
        some (Char.ofNat (0x10000 + (first - 0xD800) * 0x400 + (second - 0xDC00)), rest)
      else none
    | _ => none
  else some (Char.ofNat first, rest)

/-- The character of an escape after its backslash, and the rest. -/
def readEscape? : List Char → Option (Char × List Char)
  | '"' :: rest => some ('"', rest)
  | '\\' :: rest => some ('\\', rest)
  | '/' :: rest => some ('/', rest)
  | 'b' :: rest => some ('\x08', rest)
  | 'f' :: rest => some ('\x0c', rest)
  | 'n' :: rest => some ('\n', rest)
  | 'r' :: rest => some ('\r', rest)
  | 't' :: rest => some ('\t', rest)
  | 'u' :: rest => readUnicodeEscape? rest
  | _ => none

/-- The characters of a string up to its closing quote, and the rest; `fuel` bounds their number. -/
def readStringChars? : (fuel : Nat) → List Char → Option (List Char × List Char)
  | 0, _ => none
  | _ + 1, [] => none
  | fuel + 1, c :: cs =>
    if c = '"' then some ([], cs)
    else if c = '\\' then do
      let (d, rest) ← readEscape? cs
      let (ds, rest) ← readStringChars? fuel rest
      return (d :: ds, rest)
    else if c.toNat < 0x20 then none
    else do
      let (ds, rest) ← readStringChars? fuel cs
      return (c :: ds, rest)

/-- A string after its opening quote, and the rest. -/
def readString? (cs : List Char) : Option (String × List Char) :=
  (readStringChars? (cs.length + 1) cs).map fun (chars, rest) => (String.ofList chars, rest)

/-! ## Arrays and objects -/

/-- One or more items separated by commas up to the closing bracket, and the rest. -/
def readItems? {α : Type} (item : List Char → Option (α × List Char)) (close : Char) :
    (fuel : Nat) → List Char → Option (List α × List Char)
  | 0, _ => none
  | fuel + 1, cs => do
    let (first, rest) ← item cs
    match skipBlanks rest with
    | ',' :: rest =>
      let (others, rest) ← readItems? item close fuel rest
      return (first :: others, rest)
    | c :: rest => if c = close then some ([first], rest) else none
    | [] => none

/-- Items separated by commas up to the closing bracket, possibly none, and the rest. -/
def readSeparated? {α : Type} (item : List Char → Option (α × List Char)) (close : Char)
    (cs : List Char) : Option (List α × List Char) :=
  match skipBlanks cs with
  | [] => none
  | c :: rest => if c = close then some ([], rest) else readItems? item close (cs.length + 1) (c :: rest)

/-- A member of an object, and the rest. -/
def readMember? (value : List Char → Option (Json × List Char)) (cs : List Char) :
    Option ((String × Json) × List Char) :=
  match skipBlanks cs with
  | '"' :: rest => do
    let (key, rest) ← readString? rest
    match skipBlanks rest with
    | ':' :: rest =>
      let (member, rest) ← value rest
      return ((key, member), rest)
    | _ => none
  | _ => none

/-! ## Documents -/

/-- A document that is neither array nor object, and the rest. -/
def readScalar? : List Char → Option (Json × List Char)
  | 'n' :: 'u' :: 'l' :: 'l' :: rest => some (.null, rest)
  | 't' :: 'r' :: 'u' :: 'e' :: rest => some (.bool true, rest)
  | 'f' :: 'a' :: 'l' :: 's' :: 'e' :: rest => some (.bool false, rest)
  | '"' :: rest => (readString? rest).map fun (s, rest) => (.text s, rest)
  | cs => readNumber? cs

/-- A document with at most `depth` nested arrays and objects, and the rest. -/
def readValue? : (depth : Nat) → List Char → Option (Json × List Char)
  | 0, cs => readScalar? (skipBlanks cs)
  | depth + 1, cs =>
    match skipBlanks cs with
    | '[' :: rest =>
      (readSeparated? (readValue? depth) ']' rest).map fun (items, rest) => (.array items, rest)
    | '\x7b' :: rest =>
      (readSeparated? (readMember? (readValue? depth)) '\x7d' rest).map fun (members, rest) =>
        (.object members, rest)
    | rest => readScalar? rest

/-- The document that a whole text holds. -/
def read? (s : String) : Option Json := do
  let (document, rest) ← readValue? 127 s.toList
  if (skipBlanks rest).isEmpty then some document else none

end FluentSql.Json
