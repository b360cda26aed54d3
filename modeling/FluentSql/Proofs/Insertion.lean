import FluentSql.Proofs.Chain
import FluentSql.Statement.Writing
import Mathlib.Data.List.Forall2
import Mathlib.Data.List.Sort
import Mathlib.Data.String.Basic

/-!
# `Insertion` — what an INSERT of records is sent as

The text of an INSERT names the columns once, those of the first record, and then has a group of entries
for each record; the values are sent beside it in one list. Columns, groups and values come from three
passes over the records, of which the last one alone leaves raw values out. They line up since records
with other columns are refused, and since a record has its columns in ascending order.

## Contents
- Records as maps from columns to values: `Record.lookup_of_mem`, `Record.columns_eq_iff`.
- `Entry` and `RowEntries`, what is written for a value and for a record, and `Supplied`, entries whose
  markers take values from left to right.
- `InsertAnswer`, the four answers, and `Statement.insertAnswer`, which of them is given.
- `Statement.insertBuilt?_cases`, the answers apart.
-/

namespace FluentSql

/-! ## Records as maps -/

namespace Record

/-- With ascending keys, looking up a key finds the value beside it. -/
theorem lookup_of_mem {pairs : List (String × Value)} (h : KeysAscending pairs)
    {p : String × Value} (hp : p ∈ pairs) : pairs.lookup p.1 = some p.2 := by
  induction pairs with
  | nil => exact absurd hp List.not_mem_nil
  | cons q rest ih =>
    obtain ⟨hq, hrest⟩ := List.pairwise_cons.mp h
    rw [List.lookup_cons]
    rcases List.mem_cons.mp hp with rfl | hp
    · simp
    · -- the first key is below every other one
      have hlt : q.1 < p.1 := hq p hp
      have hne : (p.1 == q.1) = false := by
        rw [beq_eq_false_iff_ne]
        intro heq
        exact String.lt_irrefl _ (heq ▸ hlt)
      rw [hne]
      exact ih hrest hp

variable {r r' : Record} {column : String}

theorem isSome_lookup_iff {pairs : List (String × Value)} :
    (pairs.lookup column).isSome = true ↔ column ∈ pairs.map (·.1) := by
  induction pairs with
  | nil => simp
  | cons p rest ih =>
    rw [List.lookup_cons, List.map_cons, List.mem_cons]
    by_cases heq : column = p.1
    · simp [heq]
    · simp [heq, beq_eq_false_iff_ne.mpr heq, ih]

/-- A column of the record is one that it has a value for. -/
theorem mem_columns_iff : column ∈ r.columns ↔ (r.get? column).isSome = true :=
  isSome_lookup_iff.symm

theorem ascending_columns (r : Record) : r.columns.Pairwise (· < ·) :=
  List.pairwise_map.mpr r.ascending

/-- The values are those of the columns, in their order. -/
theorem filterMap_get?_columns (r : Record) : r.columns.filterMap r.get? = r.values := by
  have hvalue : ∀ p ∈ r.entries, r.get? p.1 = some p.2 := fun p hp => lookup_of_mem r.ascending hp
  rw [columns, values, List.filterMap_map]
  exact List.filterMap_eq_map_iff_forall_eq_some.mpr hvalue

/-- The records have values for the same columns. -/
def SameColumns (r r' : Record) : Prop :=
  ∀ column, (r.get? column).isSome = (r'.get? column).isSome

/-- Ascending lists with the same members are the same list. -/
theorem columns_eq_iff : r.columns = r'.columns ↔ r.SameColumns r' := by
  constructor
  · intro h column
    rw [Bool.eq_iff_iff, ← mem_columns_iff, ← mem_columns_iff, h]
  · intro h
    refine List.Pairwise.eq_of_mem_iff r.ascending_columns r'.ascending_columns fun column => ?_
    rw [mem_columns_iff, mem_columns_iff, h column]

end Record

/-! ## Entries -/

/-- What is written for a value: the text of a raw one, a marker for every other. -/
inductive Entry (marker : String) : Value → String → Prop where
  | raw (sql : String) : Entry marker (.raw sql) sql
  | marked {value : Value} (h : value.isRaw = false) : Entry marker value marker

/-- What is written for a record: an entry for its value of each column. -/
def RowEntries (marker : String) (columns : List String) (r : Record) (entries : List String) : Prop :=
  List.Forall₂ (fun column entry => ∃ value, r.get? column = some value ∧ Entry marker value entry)
    columns entries

/-- Entries with markers that take the values of a list from left to right, and what the entries stand
    for then. Neither markers nor values are left over. -/
inductive Supplied (marker : String) : List String → List Value → List Value → Prop where
  | nil : Supplied marker [] [] []
  | raw {entries : List String} {values meant : List Value} (sql : String)
      (h : Supplied marker entries values meant) :
      Supplied marker (sql :: entries) values (.raw sql :: meant)
  | marked {entries : List String} {values meant : List Value} {value : Value}
      (hvalue : value.isRaw = false) (h : Supplied marker entries values meant) :
      Supplied marker (marker :: entries) (value :: values) (value :: meant)

namespace Dialect

variable (d : Dialect)

theorem entry_placeholder (value : Value) : Entry d.marker value (d.placeholder value) := by
  cases value with
  | raw sql => exact .raw sql
  | _ => exact .marked rfl

/-- The placeholders of a record's values are the entries for its columns. -/
theorem rowEntries_placeholders (r : Record) :
    RowEntries d.marker r.columns r (r.values.map d.placeholder) := by
  rw [RowEntries, Record.columns, Record.values, List.forall₂_map_left_iff, List.forall₂_map_right_iff,
    List.forall₂_map_right_iff, List.forall₂_same]
  intro p hp
  exact ⟨p.2, Record.lookup_of_mem r.ascending hp, d.entry_placeholder p.2⟩

/-- The values that are not raw are those that the markers take. -/
theorem supplied_placeholders (values : List Value) :
    Supplied d.marker (values.map d.placeholder) (Value.withoutRaw values) values := by
  induction values with
  | nil => exact .nil
  | cons value values ih =>
    cases value with
    | raw sql => exact .raw sql ih
    | _ => exact .marked rfl ih

end Dialect

/-! ## Answers -/

/-- The position of the first record with other columns than the record in front. -/
def FirstUneven (records : List Record) (position : Nat) : Prop :=
  ∃ first r, records.head? = some first ∧ records[position]? = some r ∧ ¬ r.SameColumns first ∧
    ∀ earlier < position, ∀ r', records[earlier]? = some r' → r'.SameColumns first

/-- An INSERT of records: its columns, its groups, and what is sent. -/
structure Insertion (d : Dialect) (table : Reference) (first : Record) (records : List Record)
    (columns : List String) (groups : List (List String)) (built : Built) : Prop where
  ascending : columns.Pairwise (· < ·)
  mem_iff : ∀ column, column ∈ columns ↔ (first.get? column).isSome = true
  /-- There is one group for each record, with one entry for each column. -/
  grouped : List.Forall₂ (RowEntries d.marker columns) records groups
  text : built.sql =
    "INSERT INTO " ++ d.quoteTable table
      ++ " (" ++ ", ".intercalate (columns.map fun column => d.quoteColumn (.named column))
      ++ ") VALUES " ++ ", ".intercalate (groups.map fun group => "(" ++ ", ".intercalate group ++ ")")
  /-- Values are sent record by record, in the order of the columns. -/
  sent : built.bindings = Value.withoutRaw (records.flatMap fun r => columns.filterMap r.get?)
  supplied : Supplied d.marker groups.flatten built.bindings
    (records.flatMap fun r => columns.filterMap r.get?)

/-- The answers to an INSERT of records. -/
inductive InsertAnswer (q : Statement) (records : List Record) : Except Error (Option Built) → Prop where
  | nothing (hempty : ∀ r ∈ records, r.isEmpty = true) : InsertAnswer q records (.ok none)
  | uneven {position : Nat} (hfilled : ∃ r ∈ records, r.isEmpty = false)
      (huneven : FirstUneven records position) :
      InsertAnswer q records (.error (.unevenRecord position))
  | tableless (hfilled : ∃ r ∈ records, r.isEmpty = false)
      (heven : ∀ position, ¬ FirstUneven records position) (htable : q.table = none) :
      InsertAnswer q records (.error (.missingTable "insert"))
  | built {table : Reference} {first : Record} {columns : List String} {groups : List (List String)}
      {built : Built} (hfilled : ∃ r ∈ records, r.isEmpty = false)
      (heven : ∀ position, ¬ FirstUneven records position) (htable : q.table = some table)
      (hfirst : records.head? = some first)
      (h : Insertion q.setting.dialect table first records columns groups built) :
      InsertAnswer q records (.ok (some built))

variable {first : Record} {others : List Record}

/-- The search compares lists of columns. -/
theorem findIdx?_uneven_iff {position : Nat} :
    (first :: others).findIdx? (fun r => r.columns ≠ first.columns) = some position ↔
      FirstUneven (first :: others) position := by
  have huneven : ∀ r : Record, decide (r.columns ≠ first.columns) = true ↔ ¬ r.SameColumns first := by
    intro r
    rw [decide_eq_true_eq, ne_eq, Record.columns_eq_iff]
  rw [List.findIdx?_eq_some_iff_getElem]
  simp only [huneven, not_not]
  constructor
  · rintro ⟨hposition, hr, hearlier⟩
    refine ⟨first, _, rfl, List.getElem?_eq_getElem hposition, hr, ?_⟩
    intro earlier hlt r' hr'
    obtain ⟨_, rfl⟩ := List.getElem?_eq_some_iff.mp hr'
    exact hearlier earlier hlt
  · rintro ⟨first', r, hfirst, hr, hne, hearlier⟩
    obtain rfl : first = first' := Option.some.inj hfirst
    obtain ⟨hposition, rfl⟩ := List.getElem?_eq_some_iff.mp hr
    exact ⟨hposition, hne, fun earlier hlt => hearlier earlier hlt _ (List.getElem?_eq_getElem _)⟩

/-- Where no record is refused, all of them have the columns of the first one. -/
theorem columns_eq_of_even (heven : ∀ position, ¬ FirstUneven (first :: others) position) :
    (first :: others).findIdx? (fun r => r.columns ≠ first.columns) = none ∧
      ∀ r ∈ first :: others, r.columns = first.columns := by
  have hnone : (first :: others).findIdx? (fun r => r.columns ≠ first.columns) = none := by
    cases hposition : (first :: others).findIdx? (fun r => r.columns ≠ first.columns) with
    | none => rfl
    | some position => exact absurd (findIdx?_uneven_iff.mp hposition) (heven position)
  refine ⟨hnone, fun r hr => ?_⟩
  simpa using List.findIdx?_eq_none_iff.mp hnone r hr

/-- **What is sent** for records that all have the columns of the first one. -/
theorem insertion_of_columns_eq (d : Dialect) (table : Reference)
    (hcolumns : ∀ r ∈ first :: others, r.columns = first.columns) :
    Insertion d table first (first :: others) first.columns
      ((first :: others).map fun r => r.values.map d.placeholder)
      ⟨"INSERT INTO " ++ d.quoteTable table ++ " (" ++ d.quoteColumns (first.columns.map .named)
          ++ ") VALUES " ++ ", ".intercalate ((first :: others).map d.renderRow),
        Value.withoutRaw ((first :: others).flatMap Record.values)⟩ := by
  have hvalues : (first :: others).flatMap (fun r => first.columns.filterMap r.get?) =
      (first :: others).flatMap Record.values := by
    refine List.flatMap_congr fun r hr => ?_
    rw [← hcolumns r hr, r.filterMap_get?_columns]
  refine ⟨first.ascending_columns, fun column => Record.mem_columns_iff, ?_, ?_, ?_, ?_⟩
  · rw [List.forall₂_map_right_iff, List.forall₂_same]
    intro r hr
    rw [← hcolumns r hr]
    exact d.rowEntries_placeholders r
  · rw [List.map_map, Dialect.quoteColumns, List.map_map]
    rfl
  · rw [hvalues]
  · rw [hvalues, ← List.flatMap_def, ← List.map_flatMap]
    exact d.supplied_placeholders _

namespace Statement

/-- **An INSERT of records** has one of the four answers, under the condition of that answer. -/
theorem insertAnswer (q : Statement) (records : List Record) :
    InsertAnswer q records (q.insertBuilt? records) := by
  cases records with
  | nil => exact .nothing fun r hr => absurd hr List.not_mem_nil
  | cons first others =>
    by_cases hempty : (first :: others).all Record.isEmpty = true
    · rw [insertBuilt?, if_pos hempty]
      exact .nothing (List.all_eq_true.mp hempty)
    · have hfilled : ∃ r ∈ first :: others, r.isEmpty = false := by
        simpa only [List.all_eq_true, not_forall, Bool.not_eq_true, exists_prop] using hempty
      rw [insertBuilt?, if_neg hempty]
      by_cases huneven : ∃ position, FirstUneven (first :: others) position
      · obtain ⟨position, huneven⟩ := huneven
        rw [findIdx?_uneven_iff.mpr huneven]
        exact .uneven hfilled huneven
      · have heven := not_exists.mp huneven
        obtain ⟨hnone, hcolumns⟩ := columns_eq_of_even heven
        rw [hnone]
        cases htable : q.table with
        | none =>
          rw [Dialect.renderInsert, Dialect.tableFor, htable]
          exact .tableless hfilled heven htable
        | some table =>
          rw [Dialect.renderInsert, Dialect.tableFor, htable]
          exact .built hfilled heven htable rfl
            (insertion_of_columns_eq q.setting.dialect table hcolumns)

end Statement

/-! ## Conditions of the answers -/

/-- There is one first position. -/
theorem FirstUneven.unique {records : List Record} {position position' : Nat}
    (h : FirstUneven records position) (h' : FirstUneven records position') : position = position' := by
  obtain ⟨first, r, hfirst, hr, hne, hearlier⟩ := h
  obtain ⟨first', r', hfirst', hr', hne', hearlier'⟩ := h'
  obtain rfl : first = first' := Option.some.inj (hfirst.symm.trans hfirst')
  -- neither of them comes before the other
  rcases Nat.lt_trichotomy position position' with hlt | heq | hlt
  · exact absurd (hearlier' position hlt r hr) hne
  · exact heq
  · exact absurd (hearlier position' hlt r' hr') hne'

namespace InsertAnswer

variable {q : Statement} {records : List Record} {answer : Except Error (Option Built)}

/-- Not every record is empty where one is filled. -/
theorem not_empty_of_filled (hfilled : ∃ r ∈ records, r.isEmpty = false) :
    ¬ ∀ r ∈ records, r.isEmpty = true := by
  obtain ⟨r, hr, hfilled⟩ := hfilled
  intro hempty
  exact Bool.false_ne_true (hfilled.symm.trans (hempty r hr))

theorem eq_none_iff (h : InsertAnswer q records answer) :
    answer = .ok none ↔ ∀ r ∈ records, r.isEmpty = true := by
  cases h with
  | nothing hempty => exact iff_of_true rfl hempty
  | uneven hfilled _ => exact iff_of_false nofun (not_empty_of_filled hfilled)
  | tableless hfilled _ _ => exact iff_of_false nofun (not_empty_of_filled hfilled)
  | built hfilled _ _ _ _ => exact iff_of_false nofun (not_empty_of_filled hfilled)

/-- A record is refused at the first position where the columns differ. -/
theorem uneven_iff (h : InsertAnswer q records answer) (e : Error) :
    (answer = .error e ∧ e.kind = .construction) ↔
      (∃ r ∈ records, r.isEmpty = false) ∧
        ∃ position, FirstUneven records position ∧ e = .unevenRecord position := by
  constructor
  · rintro ⟨rfl, hkind⟩
    cases h with
    | uneven hfilled huneven => exact ⟨hfilled, _, huneven, rfl⟩
    | tableless => cases hkind
  · rintro ⟨hfilled, position, hposition, rfl⟩
    cases h with
    | nothing hempty => exact absurd hempty (not_empty_of_filled hfilled)
    | uneven _ huneven =>
      obtain rfl := huneven.unique hposition
      exact ⟨rfl, rfl⟩
    | tableless _ heven _ => exact absurd hposition (heven position)
    | built _ heven _ _ _ => exact absurd hposition (heven position)

/-- A statement without a table is refused where no record is. -/
theorem tableless_iff (h : InsertAnswer q records answer) (e : Error) :
    (answer = .error e ∧ e.kind = .compilation) ↔
      (∃ r ∈ records, r.isEmpty = false) ∧ (∀ position, ¬ FirstUneven records position) ∧
        q.table = none ∧ e = .missingTable "insert" := by
  constructor
  · rintro ⟨rfl, hkind⟩
    cases h with
    | uneven => cases hkind
    | tableless hfilled heven htable => exact ⟨hfilled, heven, htable, rfl⟩
  · rintro ⟨hfilled, heven, htable, rfl⟩
    cases h with
    | nothing hempty => exact absurd hempty (not_empty_of_filled hfilled)
    | uneven _ huneven => exact absurd huneven (heven _)
    | tableless => exact ⟨rfl, rfl⟩
    | built _ _ htable' _ _ => cases htable.symm.trans htable'

/-- In all other cases the records are sent. -/
theorem exists_insertion (h : InsertAnswer q records answer)
    (hfilled : ∃ r ∈ records, r.isEmpty = false)
    (heven : ∀ position, ¬ FirstUneven records position) {table : Reference}
    (htable : q.table = some table) :
    ∃ first columns groups built, records.head? = some first ∧ answer = .ok (some built) ∧
      Insertion q.setting.dialect table first records columns groups built := by
  cases h with
  | nothing hempty => exact absurd hempty (not_empty_of_filled hfilled)
  | uneven _ huneven => exact absurd huneven (heven _)
  | tableless _ _ hnone => cases hnone.symm.trans htable
  | built _ _ htable' hfirst h =>
    obtain rfl := Option.some.inj (htable'.symm.trans htable)
    exact ⟨_, _, _, _, hfirst, rfl, h⟩

end InsertAnswer

/-- **INSERT.** Nothing is sent exactly if every record is empty; a single record is a list of one.
    Otherwise the first record with other columns than the one in front is refused; if there is none, a
    statement without a table is. In all other cases the records are sent: one group for each, one entry
    for each column, and the values that are not raw for the markers, from left to right. -/
theorem Statement.insertBuilt?_cases (q : Statement) (given : Records) :
    (q.insertBuilt? given.toList = .ok none ↔ ∀ r ∈ given.toList, r.isEmpty = true) ∧
    (∀ e, (q.insertBuilt? given.toList = .error e ∧ e.kind = .construction) ↔
      (∃ r ∈ given.toList, r.isEmpty = false) ∧
        ∃ position, FirstUneven given.toList position ∧ e = .unevenRecord position) ∧
    (∀ e, (q.insertBuilt? given.toList = .error e ∧ e.kind = .compilation) ↔
      (∃ r ∈ given.toList, r.isEmpty = false) ∧
        (∀ position, ¬ FirstUneven given.toList position) ∧
        q.table = none ∧ e = .missingTable "insert") ∧
    ((∃ r ∈ given.toList, r.isEmpty = false) →
      (∀ position, ¬ FirstUneven given.toList position) →
        ∀ table, q.table = some table →
          ∃ first columns groups built, given.toList.head? = some first ∧
            q.insertBuilt? given.toList = .ok (some built) ∧
            Insertion q.setting.dialect table first given.toList columns groups built) := by
  have hanswer := q.insertAnswer given.toList
  refine ⟨hanswer.eq_none_iff, hanswer.uneven_iff, hanswer.tableless_iff, ?_⟩
  intro hfilled heven table htable
  exact hanswer.exists_insertion hfilled heven htable

/-! ## Raw values in different columns -/

/-- Two goods: one that is new today, and one whose price is that of another one. -/
def newGoods : List Record :=
  [.ofList [("price", .int 3), ("name", .text "pen"), ("since", .raw "CURRENT_DATE")],
   .ofList [("since", .text "2024-02-29"), ("price", .raw "(SELECT 4)"), ("name", .text "ink")]]

/-- What is sent for them: three columns, four values. -/
def newGoodsSql : Built :=
  ⟨"INSERT INTO \x60goods\x60 (\x60name\x60, \x60price\x60, \x60since\x60) VALUES "
      ++ "(?, ?, CURRENT_DATE), (?, (SELECT 4), ?)",
    [.text "pen", .int 3, .text "ink", .text "2024-02-29"]⟩

/-- The two records have raw values in different columns, so that their groups have markers at different
    places. -/
theorem insertBuilt?_cases_newGoods :
    (∃ r ∈ newGoods, r.isEmpty = false) ∧ (∀ position, ¬ FirstUneven newGoods position) ∧
      ∃ first columns groups, newGoods.head? = some first ∧
        Insertion {} (.named "goods") first newGoods columns groups newGoodsSql := by
  let q : Statement := { Statement.fresh {} with table := some (.named "goods") }
  have hfilled : ∃ r ∈ newGoods, r.isEmpty = false := ⟨_, List.mem_cons_self, by decide +kernel⟩
  have heven : ∀ position, ¬ FirstUneven newGoods position := by
    intro position hposition
    have hfound := findIdx?_uneven_iff.mpr hposition
    exact absurd (hfound.symm.trans (show _ = none by decide +kernel)) nofun
  have hsent : q.insertBuilt? newGoods = .ok (some newGoodsSql) := by decide +kernel
  obtain ⟨_, _, _, hinsertion⟩ := q.insertBuilt?_cases (.many newGoods)
  obtain ⟨first, columns, groups, built, hfirst, hbuilt, h⟩ :=
    hinsertion hfilled heven (.named "goods") rfl
  obtain rfl : newGoodsSql = built := Option.some.inj (Except.ok.inj (hsent.symm.trans hbuilt))
  exact ⟨hfilled, heven, first, columns, groups, hfirst, h⟩

end FluentSql
