import FluentSql.Proofs.Parts
import FluentSql.Proofs.Unquoting
import FluentSql.Statement.Projection
import FluentSql.Statement.Writing
import Mathlib.Data.List.Basic

/-!
# `Emptying` — the counter that is reset and the table that is emptied

Without `TRUNCATE`, a table is emptied in two steps. The first resets a counter, which the engine keeps
under the plain name of its table, and binds that name as it was given. The second deletes rows from a
table, and quotes the name as a path with an alias. Both speak of one table only if the name has
neither points nor an alias: otherwise the text that is bound is longer than the table's own name.

## Contents
- `NameParts.table`, the table that a name means, and `OneSegment`, names that mean the table they spell.
- `ReadsAs.table_eq_iff`, what an engine reads back, and `Dialect.renderTruncate_named` for both steps.
-/

namespace FluentSql

/-- The table that a name means, whatever stands before its last point and after its path. -/
def NameParts.table (parts : NameParts) : Option (List Char) :=
  parts.path.getLast?

/-- The name has neither points nor an alias. -/
structure OneSegment (name : List Char) : Prop where
  noPoint : '.' ∉ name
  noAlias : ∀ position, ¬ Text.OccursAt aliasKeyword name position

/-! ## The last segment of a path -/

variable {quote : Char} {text : String} {aliasPrefix name segment path : List Char} {parts : NameParts}

theorem length_of_mem_splitOn (h : segment ∈ path.splitOn '.') : segment.length ≤ path.length := by
  have hinfix := Text.infix_intercalate ['.'] h
  rw [List.intercalate_splitOn] at hinfix
  exact hinfix.length_le

/-- The last segment stands behind a point, if there is one. -/
theorem length_of_getLast?_splitOn (hpoint : '.' ∈ path)
    (hlast : (path.splitOn '.').getLast? = some segment) : segment.length < path.length := by
  obtain ⟨front, back, rfl⟩ := List.append_of_mem hpoint
  rw [List.splitOn_append_cons_self,
    List.getLast?_append_of_ne_nil _ (List.splitOn_ne_nil '.' back)] at hlast
  have hle : segment.length ≤ back.length := length_of_mem_splitOn (List.mem_of_getLast? hlast)
  simp only [List.length_append, List.length_cons]
  omega

theorem Text.length_trimChars_le (cs : List Char) : (trimChars cs).length ≤ cs.length := by
  unfold trimChars trimEndChars
  rw [List.length_reverse]
  have hback := (List.dropWhile_sublist isBlank (l := (cs.dropWhile isBlank).reverse)).length_le
  have hfront := (List.dropWhile_sublist isBlank (l := cs)).length_le
  rw [List.length_reverse] at hback
  exact hback.trans hfront

/-! ## What the engine reads -/

/-- The text of a name is read. -/
theorem ReadsAs.exists_parts (h : ReadsAs quote text aliasPrefix name) :
    ∃ parts, readName quote text = some parts := by
  rcases Text.firstAt_or_absent aliasKeyword name with ⟨position, hfirst⟩ | hnone
  · exact ⟨_, h.labelled position hfirst⟩
  · exact ⟨_, h.plain hnone⟩

/-- **The table that is meant.** It is the one that the name spells exactly if the name is one
    segment; otherwise its name is shorter. -/
theorem ReadsAs.table_eq_iff (h : ReadsAs quote text aliasPrefix name)
    (hread : readName quote text = some parts) : parts.table = some name ↔ OneSegment name := by
  rcases Text.firstAt_or_absent aliasKeyword name with ⟨position, hfirst⟩ | hnone
  · -- the path ends before the keyword, and with it the segment
    obtain rfl := Option.some.inj (hread.symm.trans (h.labelled position hfirst))
    constructor
    · intro htable
      have hsegment := length_of_mem_splitOn (List.mem_of_getLast? htable)
      have htrim := Text.length_trimChars_le (name.take position)
      have htake := List.length_take_le position name
      have hlt := hfirst.occurs.lt_length (by decide)
      omega
    · intro hone
      exact absurd hfirst.occurs (hone.noAlias position)
  · obtain rfl := Option.some.inj (hread.symm.trans (h.plain hnone))
    constructor
    · intro htable
      refine ⟨fun hpoint => ?_, hnone⟩
      exact absurd (length_of_getLast?_splitOn hpoint htable) (Nat.lt_irrefl _)
    · intro hone
      rw [NameParts.table, List.splitOn_eq_singleton hone.noPoint]
      rfl

/-- **Emptying a table.** The name that is bound is the prefixed name as it was given, while the rows
    are deleted from the table that this name means. They agree exactly if the prefixed name is one
    segment. -/
theorem Dialect.renderTruncate_named (d : Dialect) (hfamily : d.family = .sqlite)
    (hpoint : d.quote ≠ '.') (hstar : d.quote ≠ '*') (hblank : d.quote ≠ ' ') {q : Statement}
    {name : String} (htable : q.table = some (.named name)) :
    ∃ table parts,
      d.renderTruncate q = .ok
        [⟨"DELETE FROM sqlite_sequence WHERE name = " ++ d.marker, [.text (d.tablePrefix ++ name)]⟩,
          ⟨"DELETE FROM " ++ table, []⟩] ∧
      readName d.quote table = some parts ∧
      (parts.table = some (d.tablePrefix ++ name).toList ↔
        OneSegment (d.tablePrefix ++ name).toList) := by
  have hreads : ReadsAs d.quote (d.quoteTable (.named name)) d.tablePrefix.toList
      (d.tablePrefix ++ name).toList :=
    readsAs_quoteNameChars hpoint hstar hblank d.tablePrefix.toList (d.tablePrefix ++ name).toList
  obtain ⟨parts, hread⟩ := hreads.exists_parts
  refine ⟨d.quoteTable (.named name), parts, ?_, hread, hreads.table_eq_iff hread⟩
  rw [renderTruncate, tableFor, htable, hfamily]
  rfl

/-! ## A table of the main database -/

/-- The users of the main database, all of whom are to be deleted. -/
def mainUsers : Statement :=
  (Statement.fresh { dialect := { family := .sqlite } }).withTable (.named "main.users")

/-- The rows of `users` are deleted, and the counter of a table `main.users` is reset. -/
theorem renderTruncate_mainUsers :
    (mainUsers.setting.dialect.family = .sqlite ∧ mainUsers.setting.dialect.quote ≠ '.' ∧
        mainUsers.setting.dialect.quote ≠ '*' ∧ mainUsers.setting.dialect.quote ≠ ' ' ∧
        mainUsers.table = some (.named "main.users")) ∧
      mainUsers.truncateBuilt = .ok
        [⟨"DELETE FROM sqlite_sequence WHERE name = ?", [.text "main.users"]⟩,
          ⟨"DELETE FROM \x60main\x60.\x60users\x60", []⟩] ∧
      ∃ parts, readName '\x60' "\x60main\x60.\x60users\x60" = some parts ∧
        parts.table ≠ some "main.users".toList := by
  have hfacts : mainUsers.setting.dialect.family = .sqlite ∧
      mainUsers.setting.dialect.quote ≠ '.' ∧ mainUsers.setting.dialect.quote ≠ '*' ∧
      mainUsers.setting.dialect.quote ≠ ' ' ∧ mainUsers.table = some (.named "main.users") := by
    decide
  have hbuilt : mainUsers.setting.dialect.renderTruncate mainUsers = .ok
      [⟨"DELETE FROM sqlite_sequence WHERE name = ?", [.text "main.users"]⟩,
        ⟨"DELETE FROM \x60main\x60.\x60users\x60", []⟩] := by
    decide +kernel
  obtain ⟨hfamily, hpoint, hstar, hblank, htable⟩ := hfacts
  obtain ⟨table, parts, hrender, hread, hiff⟩ :=
    mainUsers.setting.dialect.renderTruncate_named hfamily hpoint hstar hblank htable
  -- the second step names the table
  obtain rfl : table = "\x60main\x60.\x60users\x60" := by
    have hsteps := Except.ok.inj (hrender.symm.trans hbuilt)
    injection hsteps with _ hdelete
    injection hdelete with hdelete
    exact (String.append_right_inj _).mp (congrArg Built.sql hdelete)
  refine ⟨⟨hfamily, hpoint, hstar, hblank, htable⟩, hbuilt, parts, hread, fun hsame => ?_⟩
  exact (hiff.mp hsame).noPoint (by decide)

end FluentSql
