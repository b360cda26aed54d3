import FluentSql.Dialect.Quoting
import FluentSql.Proofs.Occurrence

/-!
# `Unquoting` — reading a quoted name back

An engine reads a name from the front: a segment, a point, the next segment, and so on, then perhaps
` AS ` and one segment more. Inside a segment two quote characters are one character of the name, and
one quote character is its end. What a dialect writes for a name is read in this way as the name itself:
no character of a name ends its quotes, and nothing of the name is read as anything else.

## Contents
- `readQuoted`, `readSegment`, `readPath`, `readName`, the reader.
- Segments and paths are read back: `readSegment_quoteSegmentChars`, `readPath_quotePathChars`.
- `ReadsAs`, and `Dialect.readName_quoted` for columns and tables.
-/

namespace FluentSql

/-! ## The reader -/

/-- The rest of a segment after its opening quote, and what follows its closing quote. -/
def readQuoted (quote : Char) : List Char → Option (List Char × List Char)
  | [] => none
  | [c] => if c = quote then some ([], []) else none
  | c :: c' :: rest =>
    if c = quote then
      if c' = quote then (readQuoted quote rest).map fun (segment, rest) => (quote :: segment, rest)
      else some ([], c' :: rest)
    else (readQuoted quote (c' :: rest)).map fun (segment, rest) => (c :: segment, rest)

/-- A segment, which is a bare `*` or in quotes, and what follows it. -/
def readSegment (quote : Char) : List Char → Option (List Char × List Char)
  | [] => none
  | c :: rest =>
    if c = '*' then some (['*'], rest) else if c = quote then readQuoted quote rest else none

theorem length_of_readQuoted {quote : Char} {text segment rest : List Char}
    (h : readQuoted quote text = some (segment, rest)) : rest.length ≤ text.length := by
  fun_induction readQuoted quote text generalizing segment rest with
  | case1 => cases h
  | case2 => cases h; exact Nat.zero_le _
  | case3 => cases h
  | case4 tail ih =>
    obtain ⟨⟨segment', rest'⟩, hread, heq⟩ := Option.map_eq_some_iff.mp h
    cases heq
    have hle := ih hread
    simp only [List.length_cons]
    omega
  | case5 => cases h; simp
  | case6 c c' tail hc ih =>
    obtain ⟨⟨segment', rest'⟩, hread, heq⟩ := Option.map_eq_some_iff.mp h
    cases heq
    have hle := ih hread
    simp only [List.length_cons] at hle ⊢
    omega

theorem length_of_readSegment {quote : Char} {text segment rest : List Char}
    (h : readSegment quote text = some (segment, rest)) : rest.length < text.length := by
  cases text with
  | nil => cases h
  | cons c tail =>
    rw [readSegment] at h
    split at h
    · cases h; exact Nat.lt_succ_self _
    · split at h
      · exact Nat.lt_succ_of_le (length_of_readQuoted h)
      · cases h

/-- Segments between points, and what follows the last one. -/
def readPath (quote : Char) (text : List Char) : Option (List (List Char) × List Char) :=
  match _hread : readSegment quote text with
  | none => none
  | some (segment, '.' :: rest) =>
    (readPath quote rest).map fun (segments, rest) => (segment :: segments, rest)
  | some (segment, rest) => some ([segment], rest)
termination_by text.length
decreasing_by
  have hlt := length_of_readSegment _hread
  simp only [List.length_cons] at hlt
  omega

/-- A name as it is read: the segments of its path, and its alias if it has one. -/
structure NameParts where
  path : List (List Char)
  label : Option (List Char) := none
  deriving DecidableEq

/-- Read a whole text as a name. -/
def readName (quote : Char) (text : String) : Option NameParts := do
  let (path, rest) ← readPath quote text.toList
  match rest with
  | [] => return { path }
  | ' ' :: 'A' :: 'S' :: ' ' :: rest =>
    match ← readSegment quote rest with
    | (label, []) => return { path, label := some label }
    | _ => none
  | _ => none

/-! ## Segments -/

variable {quote : Char} {segment rest : List Char}

theorem readQuoted_cons_of_ne {c : Char} (hc : c ≠ quote) (text : List Char) :
    readQuoted quote (c :: text) =
      (readQuoted quote text).map fun (segment, rest) => (c :: segment, rest) := by
  cases text with
  | nil => simp [readQuoted, hc]
  | cons c' tail => rw [readQuoted, if_neg hc]

/-- Quote characters that are doubled are read as one, up to the single one at the end. -/
theorem readQuoted_doubled (hrest : rest.head? ≠ some quote) :
    readQuoted quote (segment.flatMap (fun c => if c = quote then [quote, quote] else [c])
      ++ quote :: rest) = some (segment, rest) := by
  induction segment with
  | nil =>
    cases rest with
    | nil => simp [readQuoted]
    | cons c' tail =>
      have hc' : c' ≠ quote := by simpa using hrest
      simp [readQuoted, hc']
  | cons c cs ih =>
    rw [List.flatMap_cons, List.append_assoc]
    by_cases hc : c = quote
    · rw [if_pos hc, List.cons_append, List.singleton_append, readQuoted, if_pos rfl, if_pos rfl, ih, hc]
      rfl
    · rw [if_neg hc, List.singleton_append, readQuoted_cons_of_ne hc, ih]
      rfl

/-- **A segment** is read back, whatever its characters. -/
theorem readSegment_quoteSegmentChars (hstar : quote ≠ '*') (hrest : rest.head? ≠ some quote) :
    readSegment quote (quoteSegmentChars quote segment ++ rest) = some (segment, rest) := by
  unfold quoteSegmentChars
  by_cases hsegment : segment = ['*']
  · rw [if_pos hsegment, hsegment]
    rfl
  · rw [if_neg hsegment, List.cons_append, List.cons_append, List.append_assoc, readSegment,
      if_neg hstar, if_pos rfl]
    exact readQuoted_doubled hrest

/-! ## Paths -/

theorem readPath_of_point {text : List Char}
    (h : readSegment quote text = some (segment, '.' :: rest)) :
    readPath quote text =
      (readPath quote rest).map fun (segments, rest) => (segment :: segments, rest) := by
  rw [readPath]
  split
  · next hnone => cases h.symm.trans hnone
  · next hsome => cases h.symm.trans hsome; rfl
  · next hne hsome => cases h.symm.trans hsome; exact absurd rfl (hne _)

theorem readPath_of_last {text : List Char} (h : readSegment quote text = some (segment, rest))
    (hrest : rest.head? ≠ some '.') : readPath quote text = some ([segment], rest) := by
  rw [readPath]
  split
  · next hnone => cases h.symm.trans hnone
  · next hsome => cases h.symm.trans hsome; exact absurd rfl hrest
  · next hsome => cases h.symm.trans hsome; rfl

/-- Quoted segments between points are read one after the other. -/
theorem readPath_intercalate (hpoint : quote ≠ '.') (hstar : quote ≠ '*')
    (hquote : rest.head? ≠ some quote) (hend : rest.head? ≠ some '.') {segments : List (List Char)}
    (hne : segments ≠ []) :
    readPath quote (['.'].intercalate (segments.map (quoteSegmentChars quote)) ++ rest) =
      some (segments, rest) := by
  induction segments with
  | nil => exact absurd rfl hne
  | cons segment segments ih =>
    cases segments with
    | nil =>
      rw [List.map_singleton, List.intercalate_singleton]
      exact readPath_of_last (readSegment_quoteSegmentChars hstar hquote) hend
    | cons segment' segments =>
      rw [List.map_cons, List.map_cons, List.intercalate_cons_cons, ← List.map_cons, List.append_assoc,
        List.append_assoc, List.singleton_append]
      -- what follows the segment is a point, which is neither a quote nor part of the segment
      have hnext : ∀ tail : List Char, ('.' :: tail).head? ≠ some quote := by
        intro tail heq
        exact hpoint (Option.some.inj heq).symm
      rw [readPath_of_point (readSegment_quoteSegmentChars hstar (hnext _)),
        ih (List.cons_ne_nil _ _)]
      rfl

/-- **A path** is read back as its segments. -/
theorem readPath_quotePathChars (hpoint : quote ≠ '.') (hstar : quote ≠ '*')
    (hquote : rest.head? ≠ some quote) (hend : rest.head? ≠ some '.') (path : List Char) :
    readPath quote (quotePathChars quote path ++ rest) = some (path.splitOn '.', rest) :=
  readPath_intercalate hpoint hstar hquote hend (List.splitOn_ne_nil _ _)

/-! ## Names -/

/-- The keyword before an alias, in small letters. -/
def aliasKeyword : List Char :=
  [' ', 'a', 's', ' ']

/-- The text of a name is read as the parts of the name: its path between points and, if it holds the
    keyword, what follows the first occurrence of it as the alias, with a prefix in front. -/
structure ReadsAs (quote : Char) (text : String) (aliasPrefix name : List Char) : Prop where
  plain : (∀ position, ¬ Text.OccursAt aliasKeyword name position) →
    readName quote text = some { path := name.splitOn '.' }
  labelled : ∀ position, Text.FirstAt aliasKeyword name position →
    readName quote text = some
      { path := (Text.trimChars (name.take position)).splitOn '.'
        label := some (aliasPrefix ++ Text.trimChars (name.drop (position + aliasKeyword.length))) }

/-- Nothing follows the last segment. -/
theorem head?_nil_ne (c : Char) : ([] : List Char).head? ≠ some c :=
  nofun

theorem quoteNameChars_plain {name : List Char}
    (h : ∀ position, ¬ Text.OccursAt aliasKeyword name position) (aliasPrefix : List Char) :
    quoteNameChars quote aliasPrefix name = quotePathChars quote name := by
  have hcut : Text.splitAtKeyword [' ', 'a', 's', ' '] name = none := Text.splitAtKeyword_eq_none h
  rw [quoteNameChars, hcut]

theorem quoteNameChars_labelled {name : List Char} {position : Nat}
    (h : Text.FirstAt aliasKeyword name position) (aliasPrefix : List Char) :
    quoteNameChars quote aliasPrefix name =
      quotePathChars quote (Text.trimChars (name.take position)) ++ ([' ', 'A', 'S', ' ']
        ++ quoteSegmentChars quote (aliasPrefix
          ++ Text.trimChars (name.drop (position + aliasKeyword.length)))) := by
  have hcut : Text.splitAtKeyword [' ', 'a', 's', ' '] name =
      some (name.take position, name.drop (position + aliasKeyword.length)) :=
    Text.splitAtKeyword_of_firstAt h
  rw [quoteNameChars, hcut]
  exact List.append_assoc ..

/-- **A name** is read back with its alias. -/
theorem readsAs_quoteNameChars (hpoint : quote ≠ '.') (hstar : quote ≠ '*') (hblank : quote ≠ ' ')
    (aliasPrefix name : List Char) :
    ReadsAs quote (String.ofList (quoteNameChars quote aliasPrefix name)) aliasPrefix name where
  plain hnone := by
    have hpath := readPath_quotePathChars hpoint hstar (head?_nil_ne quote) (head?_nil_ne '.') name
    rw [List.append_nil] at hpath
    rw [readName, String.toList_ofList, quoteNameChars_plain hnone, hpath]
    rfl
  labelled position hfirst := by
    have hlabel : ∀ label : List Char,
        readSegment quote (quoteSegmentChars quote label) = some (label, []) := by
      intro label
      rw [← List.append_nil (quoteSegmentChars quote label)]
      exact readSegment_quoteSegmentChars hstar (head?_nil_ne quote)
    -- the path ends at the blank before the keyword
    have hquote : ∀ tail : List Char, (' ' :: tail).head? ≠ some quote := by
      intro tail heq
      exact hblank (Option.some.inj heq).symm
    have hend : ∀ tail : List Char, (' ' :: tail).head? ≠ some '.' := by
      intro tail heq
      exact absurd (Option.some.inj heq) (by decide)
    rw [readName, String.toList_ofList, quoteNameChars_labelled hfirst, List.cons_append,
      readPath_quotePathChars hpoint hstar (hquote _) (hend _)]
    simp only [List.cons_append, List.nil_append, Option.bind_eq_bind, Option.bind_some, hlabel]
    rfl

/-- **Columns and tables.** Whatever the name, its quoted form is read as the name: for a table as the
    name after the table prefix, and with the prefix before its alias too. -/
theorem Dialect.readName_quoted (d : Dialect) (hpoint : d.quote ≠ '.') (hstar : d.quote ≠ '*')
    (hblank : d.quote ≠ ' ') (name : String) :
    ReadsAs d.quote (d.quoteColumn (.named name)) [] name.toList ∧
      ReadsAs d.quote (d.quoteTable (.named name)) d.tablePrefix.toList
        (d.tablePrefix ++ name).toList :=
  ⟨readsAs_quoteNameChars hpoint hstar hblank [] name.toList,
    readsAs_quoteNameChars hpoint hstar hblank d.tablePrefix.toList (d.tablePrefix ++ name).toList⟩

/-! ## A name with quotes, points and an alias -/

/-- A dialect with a prefix that holds a quote character. -/
def shopDialect : Dialect where
  tablePrefix := "my\"_"
  quote := '\"'

/-- The table `my"_a"b.* As c.d` and the column `a"b.* As c.d`, of which only the parts before the alias
    are paths. -/
theorem readName_aliasedGoods :
    (shopDialect.quote ≠ '.' ∧ shopDialect.quote ≠ '*' ∧ shopDialect.quote ≠ ' ') ∧
      Text.FirstAt aliasKeyword "a\"b.* As c.d".toList 5 ∧
      readName '\"' (shopDialect.quoteColumn (.named "a\"b.* As c.d")) =
        some { path := [['a', '\"', 'b'], ['*']], label := some ['c', '.', 'd'] } ∧
      readName '\"' (shopDialect.quoteTable (.named "a\"b.* As c.d")) =
        some { path := ["my\"_a\"b".toList, ['*']], label := some "my\"_c.d".toList } := by
  have hquote : shopDialect.quote ≠ '.' ∧ shopDialect.quote ≠ '*' ∧ shopDialect.quote ≠ ' ' := by
    decide
  have hcolumn : Text.FirstAt aliasKeyword "a\"b.* As c.d".toList 5 := ⟨by decide, by decide⟩
  have htable : Text.FirstAt aliasKeyword (shopDialect.tablePrefix ++ "a\"b.* As c.d").toList 9 :=
    ⟨by decide, by decide⟩
  obtain ⟨hreadColumn, hreadTable⟩ :=
    shopDialect.readName_quoted hquote.1 hquote.2.1 hquote.2.2 "a\"b.* As c.d"
  exact ⟨hquote, hcolumn, hreadColumn.labelled 5 hcolumn, hreadTable.labelled 9 htable⟩

end FluentSql
