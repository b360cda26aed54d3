import FluentSql.Proofs.Chain

/-!
# `Filtered` — what the calls that filter rows leave alone

Eight calls add conditions on rows, in many shapes. Whatever the shape, such a call appends conditions
to one list and values to one clause of the bindings, and everything else stays as it was. Invariants
of the other clauses need no more than that.

## Contents
- `Statement.filtered`, a statement with further conditions and values, and `Statement.IsFiltered`.
- `Call.Filters`, the eight calls, and `Call.isFiltered_of_apply`, what they give.
-/

namespace FluentSql

namespace Statement

/-- The statement with further conditions on rows and the values that they bind. -/
def filtered (q : Statement) (criteria : List Criterion) (values : List Value) : Statement :=
  { q.bind .filter values with wheres := q.wheres ++ criteria }

theorem filtered_filtered (q : Statement) (criteria criteria' : List Criterion)
    (values values' : List Value) :
    (q.filtered criteria values).filtered criteria' values' =
      q.filtered (criteria ++ criteria') (values ++ values') := by
  simp [filtered, bind, Bindings.extend, Bindings.modify]

theorem filtered_nil (q : Statement) : q.filtered [] [] = q := by
  cases q
  simp [filtered, bind, Bindings.extend, Bindings.modify, Value.withoutRaw]

/-- The second statement is the first with conditions added. -/
def IsFiltered (q q' : Statement) : Prop :=
  ∃ criteria values, q' = q.filtered criteria values

namespace IsFiltered

variable {q q' q'' : Statement}

theorem refl (q : Statement) : IsFiltered q q :=
  ⟨[], [], q.filtered_nil.symm⟩

theorem trans (h : IsFiltered q q') (h' : IsFiltered q' q'') : IsFiltered q q'' := by
  obtain ⟨criteria, values, rfl⟩ := h
  obtain ⟨criteria', values', rfl⟩ := h'
  exact ⟨_, _, q.filtered_filtered criteria criteria' values values'⟩

theorem addWhere (q : Statement) (connector : Connector) (predicate : Predicate)
    (values : List Value) : IsFiltered q (q.addWhere connector predicate values) :=
  ⟨[⟨connector, predicate⟩], values, rfl⟩

end IsFiltered

/-! ## Shapes of conditions -/

variable {q q' : Statement} {connector : Connector}

theorem isFiltered_compareNull {column : Reference} {operator : String}
    (h : q.compareNull connector column operator = .ok q') : IsFiltered q q' := by
  unfold compareNull at h
  split at h
  · rw [← Except.ok.inj h]; exact .addWhere ..
  · split at h
    · rw [← Except.ok.inj h]; exact .addWhere ..
    · cases h

theorem isFiltered_compareOperand {column : Reference} {operator : String} {operand : Operand}
    (h : q.compareOperand connector column operator operand = .ok q') : IsFiltered q q' := by
  unfold compareOperand at h
  split at h
  · rw [← Except.ok.inj h]; exact .addWhere ..
  · cases h
  · exact isFiltered_compareNull h
  · rw [← Except.ok.inj h]; exact .addWhere ..

theorem isFiltered_compare {column : Reference} {operator : Option String}
    {operand : Option Operand} (h : q.compare connector column operator operand = .ok q') :
    IsFiltered q q' := by
  obtain ⟨_, _, h⟩ := bind_eq_ok.mp h
  exact isFiltered_compareOperand h

theorem isFiltered_whereGroup (q query : Statement) (connector : Connector) :
    IsFiltered q (q.whereGroup connector query) := by
  unfold whereGroup
  split
  · exact .refl q
  · exact .addWhere ..

theorem isFiltered_whereEqualities {pairs : List (String × Operand)}
    (h : q.whereEqualities pairs = .ok q') : IsFiltered q q' := by
  induction pairs generalizing q with
  | nil => rw [← Except.ok.inj h]; exact .refl q
  | cons pair pairs ih =>
    obtain ⟨q₁, h₁, h⟩ := bind_eq_ok.mp h
    exact (isFiltered_compare h₁).trans (ih h)

theorem isFiltered_whereCondition {given : Condition}
    (h : q.whereCondition connector given = .ok q') : IsFiltered q q' := by
  cases given with
  | equalities pairs => exact isFiltered_whereEqualities h
  | group query => rw [← Except.ok.inj h]; exact isFiltered_whereGroup ..
  | triples entries =>
    -- the entries filter a statement of their own, which is added as a group
    obtain ⟨query, _, h⟩ := bind_eq_ok.mp h
    rw [← Except.ok.inj h]; exact isFiltered_whereGroup ..
  | column column operator operand => exact isFiltered_compare h

theorem isFiltered_whereIn (q : Statement) (connector : Connector) (negated : Bool)
    (column : Reference) (source : Membership) :
    IsFiltered q (q.whereIn connector negated column source) := by
  cases source with
  | values values => exact .addWhere ..
  | query query => exact .addWhere ..

end Statement

/-! ## Calls -/

/-- The call adds conditions on rows. -/
def Call.Filters : Call → Prop
  | .compare .. | .condition .. | .group .. | .whereRaw .. | .between .. | .existence ..
  | .membership .. | .nullCheck .. => True
  | _ => False

/-- A call that filters rows leaves everything but the conditions and their values alone. -/
theorem Call.isFiltered_of_apply {q q' : Statement} {c : Call} (hc : c.Filters)
    (h : c.apply q = .ok q') : q.IsFiltered q' := by
  cases c <;> try exact hc.elim
  case compare => exact Statement.isFiltered_compare h
  case condition => exact Statement.isFiltered_whereCondition h
  case group => rw [← Except.ok.inj h]; exact Statement.isFiltered_whereGroup ..
  case whereRaw => rw [← Except.ok.inj h]; exact .addWhere ..
  case between => rw [← Except.ok.inj h]; exact .addWhere ..
  case existence => rw [← Except.ok.inj h]; exact .addWhere ..
  case membership => rw [← Except.ok.inj h]; exact Statement.isFiltered_whereIn ..
  case nullCheck => rw [← Except.ok.inj h]; exact .addWhere ..

end FluentSql
