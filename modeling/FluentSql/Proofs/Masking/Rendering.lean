import FluentSql.Proofs.Masking.Shape

/-!
# `Masking.Rendering` — texts do not depend on bound values

A bound value is written as the marker of the dialect, whatever it is. So a statement has the text of
its masked form, and as many values: `Statement.sameText_of_mask_eq`.

## Contents
- Values, joins and lists: what rendering and binding make of masked ones.
- `Dialect.renderSelect_mask`, one recursion over the statement and what it embeds.
- `Statement.SameText`, what two statements have in common that have the same masked form.
-/

namespace FluentSql

/-! ## Values and bindings -/

namespace Value

theorem isRaw_mask (v : Value) : v.mask.isRaw = v.isRaw := by
  cases v <;> rfl

theorem withoutRaw_map_mask (values : List Value) :
    withoutRaw (values.map mask) = (withoutRaw values).map mask := by
  have hraw : (fun v : Value => !v.isRaw) ∘ mask = fun v => !v.isRaw := by
    funext v
    rw [Function.comp_apply, isRaw_mask]
  rw [withoutRaw, List.filter_map, hraw, withoutRaw]

end Value

namespace Bindings

theorem get_mask (b : Bindings) (slot : BindingSlot) :
    b.mask.get slot = (b.get slot).map Value.mask := by
  cases slot <;> rfl

theorem flatten_mask (b : Bindings) : b.mask.flatten = b.flatten.map Value.mask := by
  rw [flatten, flatten, List.map_flatMap]
  exact List.flatMap_congr fun slot _ => b.get_mask slot

theorem mask_extend (b : Bindings) (slot : BindingSlot) (values : List Value) :
    (b.extend slot values).mask = b.mask.extend slot (values.map Value.mask) := by
  refine ext_get fun other => ?_
  rw [get_mask, get_extend, get_extend, get_mask, Value.withoutRaw_map_mask]
  split
  · rw [List.map_append]
  · rfl

theorem mask_set (b : Bindings) (slot : BindingSlot) (values : List Value) :
    (b.set slot values).mask = b.mask.set slot (values.map Value.mask) := by
  refine ext_get fun other => ?_
  rw [get_mask, get_set, get_set, get_mask, Value.withoutRaw_map_mask]
  split <;> rfl

theorem mask_merge (b other : Bindings) : (b.merge other).mask = b.mask.merge other.mask := by
  refine ext_get fun slot => ?_
  rw [get_mask, get_merge, get_merge, get_mask, get_mask, Value.withoutRaw_map_mask, List.map_append]

end Bindings

/-! ## Clauses -/

namespace Dialect

variable (d : Dialect)

theorem placeholder_mask (v : Value) : d.placeholder v.mask = d.placeholder v := by
  cases v <;> rfl

theorem placeholders_mask (values : List Value) :
    d.placeholders (values.map Value.mask) = d.placeholders values := by
  rw [placeholders, placeholders, List.map_map]
  exact congrArg _ (List.map_congr_left fun v _ => d.placeholder_mask v)

theorem renderMember_mask (column : Reference) (values : List Value) (negated : Bool) :
    d.renderMember column (values.map Value.mask) negated = d.renderMember column values negated := by
  rw [renderMember, renderMember, placeholders_mask, List.isEmpty_map]

theorem renderJoin_mask (j : Join) : d.renderJoin j.mask = d.renderJoin j := by
  have hconstraint : ∀ c : JoinConstraint,
      d.renderJoinConstraint c.mask = d.renderJoinConstraint c := by
    rintro ⟨connector, first, operator, second⟩
    cases second with
    | column reference => rfl
    | value v => simp only [renderJoinConstraint, JoinConstraint.mask, JoinTarget.mask,
        renderJoinTarget, placeholder_mask]
  have hconstraints : j.mask.constraints.map d.renderJoinConstraint =
      j.constraints.map d.renderJoinConstraint := by
    rw [Join.mask, List.map_map]
    exact List.map_congr_left fun c _ => hconstraint c
  have hempty : j.mask.constraints.isEmpty = j.constraints.isEmpty := List.isEmpty_map
  rw [renderJoin, renderJoin, hconstraints, hempty]
  rfl

theorem renderJoins_mask (joins : List Join) :
    d.renderJoins (joins.map Join.mask) = d.renderJoins joins := by
  rw [renderJoins, renderJoins, List.map_map]
  exact congrArg _ (List.map_congr_left fun j _ => d.renderJoin_mask j)

theorem assemble_mask (q : Statement) (wheres havings orders unions : String) :
    d.assemble q.mask wheres havings orders unions = d.assemble q wheres havings orders unions := by
  rw [Statement.mask_eq, assemble, assemble, renderJoins_mask]
  rfl

/-! ## Statements -/

mutual

/-- **The text of a statement** is that of its masked form. -/
theorem renderSelect_mask : (q : Statement) → d.renderSelect q.mask = d.renderSelect q
  | .mk setting bindings aggregate columns distinct table joins wheres groups havings tail unions
      unionTail lock => by
    have hassemble := d.assemble_mask (.mk setting bindings aggregate columns distinct table joins
      wheres groups havings tail unions unionTail lock)
    simp only [Statement.mask] at hassemble
    simp only [Statement.mask, renderSelect, criterionTexts_mask wheres, criterionTexts_mask havings,
      memberTexts_mask unions, hassemble]

theorem criterionTexts_mask : (criteria : List Criterion) →
    d.criterionTexts (maskCriteria criteria) = d.criterionTexts criteria
  | [] => rfl
  | { predicate, .. } :: criteria => by
    simp only [maskCriteria, criterionTexts, criterionText, predicateText_mask predicate,
      criterionTexts_mask criteria]

theorem predicateText_mask : (p : Predicate) → d.predicateText p.mask = d.predicateText p
  | .comparison .. | .between .. => by simp only [Predicate.mask, predicateText, placeholder_mask]
  | .raw _ | .nullCheck .. => rfl
  | .group query => by simp only [Predicate.mask, predicateText, groupTexts_mask query]
  | .subquery _ _ query | .existence query _ | .memberOf _ query _ => by
    simp only [Predicate.mask, predicateText, renderSelect_mask query]
  | .member .. => by simp only [Predicate.mask, predicateText, renderMember_mask]

theorem groupTexts_mask : (q : Statement) → d.groupTexts q.mask = d.groupTexts q
  | { wheres, .. } => by simp only [Statement.mask, groupTexts, criterionTexts_mask wheres]

theorem memberTexts_mask : (members : List UnionMember) →
    d.memberTexts (maskMembers members) = d.memberTexts members
  | [] => rfl
  | { query, .. } :: members => by
    simp only [maskMembers, memberTexts, renderSelect_mask query, memberTexts_mask members]

end

theorem tableFor_mask (q : Statement) (statement : String) :
    d.tableFor q.mask statement = d.tableFor q statement := by
  rw [Statement.mask_eq]
  rfl

theorem renderWheres_mask (q : Statement) : d.renderWheres q.mask = d.renderWheres q := by
  rw [renderWheres, renderWheres, renderCriteria, renderCriteria, Statement.mask_eq,
    ← maskCriteria_eq_map, criterionTexts_mask]

end Dialect

/-! ## What is sent -/

/-- The text with the number of its values. -/
def Built.outline (b : Built) : String × Nat :=
  (b.sql, b.bindings.length)

/-- The same columns with masked values. -/
def Record.mask (r : Record) : Record where
  entries := r.entries.map fun entry => (entry.1, entry.2.mask)
  ascending := by
    rw [KeysAscending, List.pairwise_map]
    exact r.ascending

namespace Record

theorem columns_mask (r : Record) : r.mask.columns = r.columns := by
  rw [columns, columns, mask, List.map_map]
  rfl

theorem values_mask (r : Record) : r.mask.values = r.values.map Value.mask := by
  rw [values, values, mask, List.map_map, List.map_map]
  rfl

theorem isEmpty_mask (r : Record) : r.mask.isEmpty = r.isEmpty :=
  List.isEmpty_map

end Record

namespace Dialect

variable (d : Dialect)

theorem renderInsert_mask (q : Statement) (records : List Record) :
    d.renderInsert q.mask (records.map Record.mask) = d.renderInsert q records := by
  have hrow : ∀ r : Record, d.renderRow r.mask = d.renderRow r := by
    intro r
    rw [renderRow, renderRow, Record.values_mask, placeholders_mask]
  have hrows : (records.map Record.mask).map d.renderRow = records.map d.renderRow := by
    rw [List.map_map]
    exact List.map_congr_left fun r _ => hrow r
  rw [renderInsert, renderInsert, tableFor_mask, hrows]
  cases records with
  | nil => rfl
  | cons first rest => simp only [List.map_cons, Record.columns_mask]

theorem renderUpdate_mask (q : Statement) (record : Record) :
    d.renderUpdate q.mask record.mask = d.renderUpdate q record := by
  have hassignments : record.mask.entries.map d.renderAssignment =
      record.entries.map d.renderAssignment := by
    rw [Record.mask, List.map_map]
    refine List.map_congr_left fun entry _ => ?_
    rw [Function.comp_apply, renderAssignment, renderAssignment, placeholder_mask]
  have hjoins : d.renderJoins q.mask.joins = d.renderJoins q.joins := by
    rw [Statement.mask_eq, renderJoins_mask]
  rw [renderUpdate, renderUpdate, tableFor_mask, renderWheres_mask, hjoins, hassignments]

theorem renderDelete_mask (q : Statement) : d.renderDelete q.mask = d.renderDelete q := by
  rw [renderDelete, renderDelete, tableFor_mask, renderWheres_mask]

end Dialect

namespace Statement

variable {q p : Statement}

theorem setting_mask (q : Statement) : q.mask.setting = q.setting := by
  rw [mask_eq]

theorem bindings_mask (q : Statement) : q.mask.bindings = q.bindings.mask := by
  rw [mask_eq]

theorem selectSql_mask (q : Statement) : q.mask.selectSql = q.selectSql := by
  rw [selectSql, selectSql, Dialect.renderSelect_mask, setting_mask]

theorem bound_mask (q : Statement) : q.mask.bound = q.bound.map Value.mask := by
  rw [bound, bound, bindings_mask, Bindings.flatten_mask]

/-- A text whose values are masked has the same outline. -/
theorem outline_eq {x : Except Error String} {values values' : List Value}
    (h : values.length = values'.length) :
    (x >>= fun sql => pure ⟨sql, values⟩ : Except Error Built).map Built.outline =
      (x >>= fun sql => pure ⟨sql, values'⟩ : Except Error Built).map Built.outline := by
  cases x with
  | error e => rfl
  | ok sql => exact congrArg (fun n => Except.ok (sql, n)) h

theorem outline_deleteBuilt_mask (q : Statement) :
    q.mask.deleteBuilt.map Built.outline = q.deleteBuilt.map Built.outline := by
  rw [deleteBuilt, deleteBuilt, Dialect.renderDelete_mask, setting_mask, bindings_mask]
  exact outline_eq (List.length_map _)

theorem outline_updateBuilt_mask (q : Statement) (record : Record) :
    (q.mask.updateBuilt record.mask).map Built.outline =
      (q.updateBuilt record).map Built.outline := by
  rw [updateBuilt, updateBuilt, Record.isEmpty_mask, Dialect.renderUpdate_mask, setting_mask,
    bindings_mask]
  split
  · rfl
  · refine outline_eq ?_
    simp only [Record.values_mask, Value.withoutRaw_map_mask, Bindings.mask, List.length_append,
      List.length_map]

theorem outline_insertBuilt?_mask (q : Statement) (records : List Record) :
    (q.mask.insertBuilt? (records.map Record.mask)).map (Option.map Built.outline) =
      (q.insertBuilt? records).map (Option.map Built.outline) := by
  cases records with
  | nil => rfl
  | cons first rest =>
    have hempty : ((first :: rest).map Record.mask).all Record.isEmpty =
        (first :: rest).all Record.isEmpty := by
      rw [List.all_map]
      exact congrArg (List.all _) (funext Record.isEmpty_mask)
    have huneven : ((first :: rest).map Record.mask).findIdx?
          (fun r => r.columns ≠ first.mask.columns) =
        (first :: rest).findIdx? fun r => r.columns ≠ first.columns := by
      simp only [List.findIdx?_map, Function.comp_def, Record.columns_mask]
    have hvalues : ((first :: rest).map Record.mask).flatMap Record.values =
        ((first :: rest).flatMap Record.values).map Value.mask := by
      rw [List.flatMap_map, List.map_flatMap]
      exact List.flatMap_congr fun r _ => r.values_mask
    rw [List.map_cons, insertBuilt?, insertBuilt?, ← List.map_cons, hempty, huneven, hvalues,
      Value.withoutRaw_map_mask, Dialect.renderInsert_mask, setting_mask]
    split
    · rfl
    · split
      · rfl
      · cases q.setting.dialect.renderInsert q (first :: rest) with
        | error e => rfl
        | ok sql => exact congrArg (fun n => Except.ok (some (sql, n))) (List.length_map _)

/-- The same texts and the same numbers of values, or the same errors, for records of the same columns
    with any values in place of bound ones. -/
structure SameText (q p : Statement) : Prop where
  selectSql : q.selectSql = p.selectSql
  bound : q.bound.length = p.bound.length
  deleteBuilt : q.deleteBuilt.map Built.outline = p.deleteBuilt.map Built.outline
  updateBuilt : ∀ record record' : Record, record.mask = record'.mask →
    (q.updateBuilt record).map Built.outline = (p.updateBuilt record').map Built.outline
  insertBuilt? : ∀ records records' : List Record,
    records.map Record.mask = records'.map Record.mask →
      (q.insertBuilt? records).map (Option.map Built.outline) =
        (p.insertBuilt? records').map (Option.map Built.outline)

/-- **What is sent** shows no more of a statement than its masked form. -/
theorem sameText_of_mask_eq (h : q.mask = p.mask) : q.SameText p where
  selectSql := by rw [← selectSql_mask q, h, selectSql_mask]
  bound := by
    have hq : q.mask.bound.length = q.bound.length := by rw [bound_mask, List.length_map]
    have hp : p.mask.bound.length = p.bound.length := by rw [bound_mask, List.length_map]
    rw [← hq, h, hp]
  deleteBuilt := by rw [← outline_deleteBuilt_mask q, h, outline_deleteBuilt_mask]
  updateBuilt record record' hrecord := by
    rw [← outline_updateBuilt_mask q, h, hrecord, outline_updateBuilt_mask]
  insertBuilt? records records' hrecords := by
    rw [← outline_insertBuilt?_mask q, h, hrecords, outline_insertBuilt?_mask]

end Statement

end FluentSql
