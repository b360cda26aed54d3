import FluentSql.Proofs.Embedded.Revision

/-!
# `Embedded.Influence` — what embedded statements have to do with the text

Every embedded statement has a setting and a lock of its own, and the statement of a group has clauses
besides its conditions. The text of a whole is written by one dialect, which passes over all of it except
the locks, and the SQLite family passes over these as well.

## Contents
- `Statement.unlocked`, a statement without locks, and `Dialect.sqlite_eq_base_unlocked`: the SQLite
  family is the base family without locks.
- `Statement.shown`, a statement without what does not show, and `Dialect.render_eq_of_shown_eq`: the
  text depends on nothing else.
-/

namespace FluentSql

/-! ## Locks -/

/-- No statement is locked. -/
def Revision.unlocking : Revision where
  setting := id
  lock := fun _ => none
  group := id
  wheres_group := fun _ => rfl

/-- The statement without its lock, and without the locks of the statements inside it, at every
    depth. -/
def Statement.unlocked (q : Statement) : Statement :=
  q.revise .unlocking

/-- The base family shows of no lock what the SQLite family shows of any. -/
theorem Revision.unseen_unlocking (d : Dialect) :
    Revision.unlocking.Unseen (d.inFamily .sqlite) .base := by
  intro lock
  cases lock with
  | none => rfl
  | some lock => rfl

/-- **The SQLite family is the base family without locks.** With the same settings, the texts of all
    statements but the one that empties a table are those of the base family for the unlocked statement,
    and so are the errors. -/
theorem Dialect.sqlite_eq_base_unlocked (d : Dialect) (q : Statement) :
    (d.inFamily .sqlite).renderSelect q = (d.inFamily .base).renderSelect q.unlocked ∧
      (∀ record : Record, (d.inFamily .sqlite).renderUpdate q record =
        (d.inFamily .base).renderUpdate q.unlocked record) ∧
      (d.inFamily .sqlite).renderDelete q = (d.inFamily .base).renderDelete q.unlocked ∧
      ∀ records : List Record, (d.inFamily .sqlite).renderInsert q records =
        (d.inFamily .base).renderInsert q.unlocked records := by
  have hr := Revision.unseen_unlocking d
  refine ⟨?_, fun record => ?_, ?_, fun records => ?_⟩
  · exact ((d.inFamily .sqlite).renderSelect_revise hr q).symm
  · exact ((d.inFamily .sqlite).renderUpdate_revise hr q record).symm
  · exact ((d.inFamily .sqlite).renderDelete_revise hr q).symm
  · exact ((d.inFamily .sqlite).renderInsert_revise q records).symm

/-! ## Settings and groups -/

/-- Every setting is the default one, and a group has no clauses besides its conditions. -/
def Revision.showing : Revision where
  setting := fun _ => {}
  lock := id
  group := fun query => { Statement.fresh {} with wheres := query.wheres }
  wheres_group := fun _ => rfl

/-- The statement without the settings of it and of the statements inside it, and without the clauses
    that groups have besides their conditions. Two statements with this in common differ in these at
    any depth, each place on its own. -/
def Statement.shown (q : Statement) : Statement :=
  q.revise .showing

/-- Locks stay as they are. -/
theorem Revision.unseen_showing (d : Dialect) : Revision.showing.Unseen d d.family :=
  fun _ => rfl

/-- The setting is not shown. -/
theorem Statement.shown_withSetting (q : Statement) (setting : Setting) :
    { q with setting }.shown = q.shown := by
  cases q
  rfl

/-- Of a group, the conditions are shown and nothing else. -/
theorem Predicate.revise_group_eq_iff {q q' : Statement} :
    (Predicate.group q).revise .showing = (Predicate.group q').revise .showing ↔
      reviseCriteria .showing q.wheres = reviseCriteria .showing q'.wheres := by
  cases q
  cases q'
  simp only [Predicate.revise, Statement.revise, Revision.showing, Predicate.group.injEq,
    Statement.mk.injEq, true_and, and_true]

/-- **One dialect governs the whole text.** Two statements that show the same have the same texts or the
    same errors in any dialect, whatever the dialects, shapings and log policies of the statements inside
    them, and whatever the groups among these have besides their conditions. -/
theorem Dialect.render_eq_of_shown_eq (d : Dialect) {q q' : Statement} (h : q.shown = q'.shown) :
    d.renderSelect q = d.renderSelect q' ∧ d.renderDelete q = d.renderDelete q' ∧
      ∀ record : Record, d.renderUpdate q record = d.renderUpdate q' record := by
  have hr := Revision.unseen_showing d
  refine ⟨?_, ?_, fun record => ?_⟩
  · rw [← d.renderSelect_revise hr q, ← d.renderSelect_revise hr q']
    exact congrArg _ h
  · rw [← d.renderDelete_revise hr q, ← d.renderDelete_revise hr q']
    exact congrArg _ h
  · rw [← d.renderUpdate_revise hr q, ← d.renderUpdate_revise hr q']
    exact congrArg (fun p => Dialect.renderUpdate _ p record) h

/-- Orders that are paid or large, of users in another table, with the archived orders. The statements
    inside have a setting of their own, and the group has the other clauses of another statement. -/
def openOrders (setting : Setting) (onto : Statement) : Statement :=
  { Statement.fresh {} with
    table := some (.named "orders")
    wheres := [
      ⟨.and, .group { onto with wheres := [
        ⟨.and, .nullCheck (.named "paid") true⟩,
        ⟨.or, .comparison (.named "total") ">" (.int 100)⟩] }⟩,
      ⟨.and, .memberOf (.named "user")
        { Statement.fresh setting with table := some (.named "users") } false⟩]
    unions := [⟨true, { Statement.fresh setting with table := some (.named "archive") }⟩] }

/-- Another dialect in every statement inside, and a group with a lock, a limit and an order that would
    be refused. -/
theorem render_openOrders :
    let setting : Setting :=
      { dialect := { family := .sqlite, marker := "$", tablePrefix := "app_", quote := '"' },
        shaping := .reversed, log := .disabled }
    let onto : Statement :=
      { Statement.fresh setting with
        table := some (.raw "nowhere"), tail := { orders := [.raw "total DESC"], limit := some 3 },
        lock := some .update }
    let plain := openOrders {} (.fresh {})
    let strange := openOrders setting onto
    let d : Dialect := { tablePrefix := "shop_" }
    plain.shown = strange.shown ∧ d.renderSelect onto = .error (.rawOrder "total DESC") ∧
      d.renderSelect plain = d.renderSelect strange ∧ d.renderDelete plain = d.renderDelete strange ∧
      ∀ record : Record, d.renderUpdate plain record = d.renderUpdate strange record := by
  intro setting onto plain strange d
  have hshown : plain.shown = strange.shown := rfl
  exact ⟨hshown, rfl, d.render_eq_of_shown_eq hshown⟩

end FluentSql
