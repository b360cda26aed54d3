import FluentSql.Statement.Writing

/-!
# `Embedded.Revision` — changes that reach every statement inside a statement

Conditions and unions embed statements, which embed statements again. A revision changes the setting and
the lock of all of them, at every depth, and groups as it likes, as long as their conditions stay. If
the dialect does not show the difference between the locks, the text is as before.

## Contents
- `Revision`, and `Statement.revise`, one recursion over the statement and what it embeds.
- `Revision.Unseen`, the revisions after which a family of dialects writes what a dialect wrote before.
- `Dialect.renderSelect_revise`, the recursion of the text beside that of the revision, and with it
  `renderUpdate_revise`, `renderDelete_revise` and `renderInsert_revise`.
-/

namespace FluentSql

/-! ## Revisions -/

/-- What is to be made of the setting and the lock of each statement, and of groups, whose conditions
    stay. -/
structure Revision where
  setting : Setting → Setting
  lock : Option Lock → Option Lock
  group : Statement → Statement
  wheres_group : ∀ q, (group q).wheres = q.wheres

variable (r : Revision)

mutual

/-- A condition whose statement is revised. -/
def Predicate.revise : Predicate → Predicate
  | .comparison column operator value => .comparison column operator value
  | .raw sql => .raw sql
  | .between column low high negated => .between column low high negated
  | .group query => .group (r.group query.revise)
  | .subquery column operator query => .subquery column operator query.revise
  | .existence query negated => .existence query.revise negated
  | .member column values negated => .member column values negated
  | .memberOf column query negated => .memberOf column query.revise negated
  | .nullCheck column negated => .nullCheck column negated

/-- A statement revised, with the statements inside its conditions and unions. -/
def Statement.revise : Statement → Statement
  | { setting, bindings, aggregate, columns, distinct, table, joins, wheres, groups, havings, tail,
      unions, unionTail, lock } =>
    { setting := r.setting setting, bindings, aggregate, columns, distinct, table, joins,
      wheres := reviseCriteria wheres, groups, havings := reviseCriteria havings, tail,
      unions := reviseMembers unions, unionTail, lock := r.lock lock }

def reviseCriteria : List Criterion → List Criterion
  | [] => []
  | { connector, predicate } :: criteria => ⟨connector, predicate.revise⟩ :: reviseCriteria criteria

def reviseMembers : List UnionMember → List UnionMember
  | [] => []
  | { all, query } :: members => ⟨all, query.revise⟩ :: reviseMembers members

end

/-! ## Dialects -/

/-- The dialect of another family with the same settings. -/
def Dialect.inFamily (d : Dialect) (family : DialectFamily) : Dialect :=
  { d with family }

/-- A revised lock shows in a family of dialects as the lock did before. -/
def Revision.Unseen (d : Dialect) (family : DialectFamily) : Prop :=
  ∀ lock : Option Lock,
    ((r.lock lock).map (d.inFamily family).renderLock).getD "" = (lock.map d.renderLock).getD ""

namespace Dialect

variable {r} (d : Dialect) {family : DialectFamily}

theorem quoteColumn_inFamily (column : Reference) :
    (d.inFamily family).quoteColumn column = d.quoteColumn column := by
  cases column <;> rfl

/-- Given the texts of what is embedded, only the lock tells the families apart. -/
theorem assemble_revise (hr : r.Unseen d family) (q : Statement)
    (wheres havings orders unions : String) :
    (d.inFamily family).assemble (q.revise r) wheres havings orders unions =
      d.assemble q wheres havings orders unions := by
  cases q with
  | mk setting bindings aggregate columns distinct table joins wheres' groups havings' tail unions'
      unionTail lock =>
    have hlock := hr lock
    simp only [Statement.revise, assemble, hlock]
    rfl

theorem groupTexts_eq (q : Statement) : d.groupTexts q = d.criterionTexts q.wheres := by
  cases q
  rfl

/-! ## Texts -/

mutual

/-- **The text of a revised statement** is that of the statement. -/
theorem renderSelect_revise (hr : r.Unseen d family) : (q : Statement) →
    (d.inFamily family).renderSelect (q.revise r) = d.renderSelect q
  | .mk setting bindings aggregate columns distinct table joins wheres groups havings tail unions
      unionTail lock => by
    have hassemble := d.assemble_revise hr (.mk setting bindings aggregate columns distinct table
      joins wheres groups havings tail unions unionTail lock)
    simp only [Statement.revise] at hassemble
    simp only [Statement.revise, renderSelect, criterionTexts_revise hr wheres,
      criterionTexts_revise hr havings, memberTexts_revise hr unions, hassemble]
    rfl

theorem criterionTexts_revise (hr : r.Unseen d family) : (criteria : List Criterion) →
    (d.inFamily family).criterionTexts (reviseCriteria r criteria) = d.criterionTexts criteria
  | [] => rfl
  | { predicate, .. } :: criteria => by
    simp only [reviseCriteria, criterionTexts, criterionText, predicateText_revise hr predicate,
      criterionTexts_revise hr criteria]

theorem predicateText_revise (hr : r.Unseen d family) : (p : Predicate) →
    (d.inFamily family).predicateText (p.revise r) = d.predicateText p
  | .comparison .. | .raw _ | .between .. | .member .. | .nullCheck .. => rfl
  | .group query => by
    -- Whatever the revision makes of a group, its conditions are the revised ones.
    have htexts := groupTexts_revise hr query
    rw [groupTexts_eq, ← r.wheres_group, ← groupTexts_eq] at htexts
    simp only [Predicate.revise, predicateText, htexts]
  | .subquery _ _ query | .existence query _ | .memberOf _ query _ => by
    simp only [Predicate.revise, predicateText, renderSelect_revise hr query, quoteColumn_inFamily]

theorem groupTexts_revise (hr : r.Unseen d family) : (q : Statement) →
    (d.inFamily family).groupTexts (q.revise r) = d.groupTexts q
  | { wheres, .. } => by simp only [Statement.revise, groupTexts, criterionTexts_revise hr wheres]

theorem memberTexts_revise (hr : r.Unseen d family) : (members : List UnionMember) →
    (d.inFamily family).memberTexts (reviseMembers r members) = d.memberTexts members
  | [] => rfl
  | { query, .. } :: members => by
    simp only [reviseMembers, memberTexts, renderSelect_revise hr query,
      memberTexts_revise hr members]

end

theorem renderWheres_revise (hr : r.Unseen d family) (q : Statement) :
    (d.inFamily family).renderWheres (q.revise r) = d.renderWheres q := by
  have htexts := d.groupTexts_revise hr q
  rw [groupTexts_eq, groupTexts_eq] at htexts
  rw [renderWheres, renderCriteria, htexts, renderWheres, renderCriteria]

/-- The table is not revised, and the families write it alike. -/
theorem tableFor_revise (q : Statement) (statement : String) :
    (d.inFamily family).tableFor (q.revise r) statement = d.tableFor q statement := by
  cases q
  rfl

theorem renderInsert_revise (q : Statement) (records : List Record) :
    (d.inFamily family).renderInsert (q.revise r) records = d.renderInsert q records := by
  rw [renderInsert, renderInsert, tableFor_revise]
  rfl

theorem renderUpdate_revise (hr : r.Unseen d family) (q : Statement) (record : Record) :
    (d.inFamily family).renderUpdate (q.revise r) record = d.renderUpdate q record := by
  have hjoins : (q.revise r).joins = q.joins := by
    cases q
    rfl
  rw [renderUpdate, renderUpdate, tableFor_revise, d.renderWheres_revise hr, hjoins]
  rfl

theorem renderDelete_revise (hr : r.Unseen d family) (q : Statement) :
    (d.inFamily family).renderDelete (q.revise r) = d.renderDelete q := by
  rw [renderDelete, renderDelete, tableFor_revise, d.renderWheres_revise hr]

end Dialect

end FluentSql
