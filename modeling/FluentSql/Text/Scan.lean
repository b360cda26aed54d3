/-!
# `Text.Scan` — searching text without regard to ASCII case

Keywords inside a name or a clause are found by the ASCII letters alone: `AS`, `as` and `As` are one
word, while no letter beyond ASCII folds onto another.

## Contents
- `foldCase`, the ASCII lower-case form of a string.
- `afterKeyword` and `splitAtKeyword`, a keyword at the front of a text and its earliest occurrence.
- `dropFirstConnector`, which removes the earliest `and ` or `or ` of a text.
- `joinParts`, texts joined by blanks, the empty ones left out.
-/

namespace FluentSql.Text

/-- The string with ASCII capitals replaced by small letters. -/
def foldCase (s : String) : String :=
  String.ofList (s.toList.map Char.toLower)

/-- What follows `keyword` when the text begins with it, up to ASCII case. The keyword is given in
    small letters. -/
def afterKeyword : (keyword text : List Char) → Option (List Char)
  | [], rest => some rest
  | _ :: _, [] => none
  | k :: ks, c :: cs => if c.toLower = k then afterKeyword ks cs else none

/-- The text before and after the earliest occurrence of `keyword`, up to ASCII case. -/
def splitAtKeyword (keyword : List Char) : List Char → Option (List Char × List Char)
  | [] => (afterKeyword keyword []).map ([], ·)
  | c :: cs =>
    match afterKeyword keyword (c :: cs) with
    | some rest => some ([], rest)
    | none => (splitAtKeyword keyword cs).map fun (before, rest) => (c :: before, rest)

/-! ## Connectors -/

/-- What follows a connector and its blank, when the text begins with one. -/
def afterConnector (text : List Char) : Option (List Char) :=
  (afterKeyword ['a', 'n', 'd', ' '] text).or (afterKeyword ['o', 'r', ' '] text)

/-- The text without its earliest connector, wherever that stands. -/
def dropFirstConnectorChars : List Char → List Char
  | [] => []
  | c :: cs =>
    match afterConnector (c :: cs) with
    | some rest => rest
    | none => c :: dropFirstConnectorChars cs

/-- Remove the earliest `and ` or `or ` of a text, up to ASCII case. The occurrence may lie inside a
    word, so a clause that is to lose its leading connector has to begin with one. -/
def dropFirstConnector (s : String) : String :=
  String.ofList (dropFirstConnectorChars s.toList)

/-! ## Parts -/

/-- Keep the non-empty texts and join them by single blanks. -/
def joinParts (parts : List String) : String :=
  " ".intercalate (parts.filter (· ≠ ""))

end FluentSql.Text
