import FluentSql.Proofs.Chain
import FluentSql.Proofs.Truth

/-!
# `Disjunction` — a condition of any shape as an alternative

A condition may be given as equalities, as the conditions of a statement, as entries of column, operator
and operand, or as one column with an operator and an operand. Added by OR, it is meant as an
alternative to all that was asked before: one more disjunct, whatever its shape. Groups and single
columns are. Equalities are not: they are joined by AND whatever the connector, and so they narrow the
last disjunct.

## Contents
- `asked`, the condition on a column that an operator and an operand ask for, and `Condition.Holds`.
- `Statement.compare_eq_ok`, what a comparison adds, and `Statement.foldlM_eq_ok`, what a list of them
  adds.
- `Statement.holds_orGroup`, `holds_orTriples`, `holds_orColumn` and `holds_equalities`, shape by shape.
- `Statement.holds_orWhereCondition`, all shapes, and when equalities do give an alternative.
-/

namespace FluentSql

/-! ## What is asked for -/

/-- The condition on a column that an operator and an operand ask for. Null is asked for by a null check,
    and a list is nothing that a column compares with. -/
def asked (column : Reference) (operator : String) : Operand → Option Predicate
  | .query query => some (.subquery column operator query)
  | .list _ => none
  | .value .null =>
    if operator = "=" then some (.nullCheck column false)
    else if operator = "!=" ∨ operator = "<>" then some (.nullCheck column true)
    else none
  | .value value => some (.comparison column operator value)

/-- The condition where operator or operand may be missing. -/
def askedOf (column : Reference) (operator : Option String) (operand : Option Operand) :
    Option Predicate :=
  match Statement.resolveComparison column operator operand with
  | .ok (operator, operand) => asked column operator operand
  | .error _ => none

/-- The condition of an equality. -/
def askedByPair (pair : String × Operand) : Option Predicate :=
  askedOf (.named pair.1) (some "=") (some pair.2)

/-- The condition of an entry of column, operator and operand. -/
def askedByEntry : List Operand → Option Predicate
  | [column, operator, operand] =>
    match column.text?, operator.text? with
    | some column, some operator => askedOf (.named column) (some operator) (some operand)
    | _, _ => none
  | _ => none

/-- Whether a condition holds under an assignment of truth to atoms. Of equalities and of entries, all
    have to hold. -/
def Condition.Holds (v : Predicate → Prop) : Condition → Prop
  | .equalities pairs => ∀ pair ∈ pairs, ∃ p ∈ askedByPair pair, p.Holds v
  | .group query => query.Holds v
  | .triples entries => ∀ entry ∈ entries, ∃ p ∈ askedByEntry entry, p.Holds v
  | .column name operator operand => ∃ p ∈ askedOf name operator operand, p.Holds v

/-- A condition given as equalities. -/
def Condition.IsEqualities : Condition → Prop
  | .equalities _ => True
  | _ => False

namespace Statement

variable {q q' : Statement} {connector : Connector} {v : Predicate → Prop}

/-! ## What is added -/

/-- The second statement is the first with one condition more. -/
def AddsOne (q : Statement) (connector : Connector) (p : Predicate) (q' : Statement) : Prop :=
  q'.wheres = q.wheres ++ [⟨connector, p⟩]

theorem compareNull_eq_ok {column : Reference} {operator : String}
    (h : q.compareNull connector column operator = .ok q') :
    ∃ p, asked column operator (.value .null) = some p ∧ AddsOne q connector p q' := by
  unfold compareNull at h
  unfold asked
  split at h
  · next hequal =>
    obtain rfl := Except.ok.inj h
    exact ⟨_, if_pos hequal, rfl⟩
  · next hequal =>
    rw [if_neg hequal]
    split at h
    · next hunequal =>
      obtain rfl := Except.ok.inj h
      exact ⟨_, if_pos hunequal, rfl⟩
    · cases h

theorem compareOperand_eq_ok {column : Reference} {operator : String} {operand : Operand}
    (h : q.compareOperand connector column operator operand = .ok q') :
    ∃ p, asked column operator operand = some p ∧ AddsOne q connector p q' := by
  cases operand with
  | query query =>
    obtain rfl := Except.ok.inj h
    exact ⟨_, rfl, rfl⟩
  | list values => cases h
  | value value =>
    cases value with
    | null => exact compareNull_eq_ok h
    | _ =>
      obtain rfl := Except.ok.inj h
      exact ⟨_, rfl, rfl⟩

/-- **A comparison** adds the condition that its column, operator and operand ask for. -/
theorem compare_eq_ok {column : Reference} {operator : Option String} {operand : Option Operand}
    (h : q.compare connector column operator operand = .ok q') :
    ∃ p, askedOf column operator operand = some p ∧ AddsOne q connector p q' := by
  obtain ⟨meant, hmeant, h⟩ := bind_eq_ok.mp h
  obtain ⟨p, hp, hadds⟩ := compareOperand_eq_ok h
  refine ⟨p, ?_, hadds⟩
  rw [askedOf, hmeant]
  exact hp

theorem whereTriple_eq_ok {entry : List Operand} (h : q.whereTriple entry = .ok q') :
    ∃ p, askedByEntry entry = some p ∧ AddsOne q .and p q' := by
  unfold whereTriple at h
  split at h
  · next column operator operand =>
    split at h
    · cases h
    · cases h
    · next name token hname htoken =>
      obtain ⟨p, hp, hadds⟩ := compare_eq_ok h
      refine ⟨p, ?_, hadds⟩
      rw [askedByEntry, hname, htoken]
      exact hp
  · cases h

/-- **A list of comparisons** adds the conditions of all of them by AND, in their order. -/
theorem foldlM_eq_ok {α : Type} {step : Statement → α → Except Error Statement}
    {asks : α → Option Predicate} {xs : List α}
    (hstep : ∀ q x q', step q x = .ok q' → ∃ p, asks x = some p ∧ AddsOne q .and p q')
    (h : xs.foldlM step q = .ok q') :
    ∃ ps, List.Forall₂ (fun x p => asks x = some p) xs ps ∧
      q'.wheres = q.wheres ++ ps.map fun p => ⟨.and, p⟩ := by
  induction xs generalizing q with
  | nil =>
    obtain rfl := Except.ok.inj h
    exact ⟨[], .nil, by simp⟩
  | cons x xs ih =>
    rw [List.foldlM_cons] at h
    obtain ⟨q₁, h₁, h⟩ := bind_eq_ok.mp h
    obtain ⟨p, hp, hadds⟩ := hstep q x q₁ h₁
    obtain ⟨ps, hps, hwheres⟩ := ih h
    refine ⟨p :: ps, .cons hp hps, ?_⟩
    rw [hwheres, hadds, List.append_assoc, List.map_cons, List.singleton_append]

/-! ## Truth of what is added -/

/-- What is asked for holds if the conditions that are added do. -/
theorem forall_holds_iff {α : Type} {asks : α → Option Predicate} {xs : List α} {ps : List Predicate}
    (h : List.Forall₂ (fun x p => asks x = some p) xs ps) :
    (∀ t ∈ ps.map (Predicate.Holds v), t) ↔ ∀ x ∈ xs, ∃ p ∈ asks x, p.Holds v := by
  induction h with
  | nil => simp
  | @cons x p xs ps hp _ ih =>
    have hhead : p.Holds v ↔ ∃ p' ∈ asks x, p'.Holds v := by simp [hp]
    rw [List.map_cons, List.forall_mem_cons, List.forall_mem_cons, ih, hhead]

theorem truths_and (v : Predicate → Prop) (ps : List Predicate) :
    truths v (ps.map fun p => ⟨.and, p⟩) = (ps.map (Predicate.Holds v)).map fun t => (.and, t) := by
  induction ps with
  | nil => rfl
  | cons p ps ih => rw [List.map_cons, truths, ih, List.map_cons, List.map_cons]

/-- Conditions that are added by AND narrow the last disjunct. -/
theorem holds_conjuncts {ps : List Predicate}
    (h : q'.wheres = q.wheres ++ ps.map fun p => ⟨.and, p⟩) :
    q'.Holds v ↔ Earlier (truths v q.wheres) ∨
      (Last (truths v q.wheres) ∧ ∀ t ∈ ps.map (Predicate.Holds v), t) := by
  rw [holds_eq, h, truths_append, truths_and]
  exact connected_append_and _ _

/-- A condition that is added by OR is an alternative. -/
theorem holds_alternative {p : Predicate} (hq : q.wheres ≠ []) (h : AddsOne q .or p q') :
    q'.Holds v ↔ q.Holds v ∨ p.Holds v := by
  have hne : truths v q.wheres ≠ [] := by
    cases hwheres : q.wheres with
    | nil => exact absurd hwheres hq
    | cons c criteria => cases c; exact List.cons_ne_nil _ _
  rw [holds_eq, holds_eq, h, truths_append]
  exact connected_concat_or hne

/-! ## Shape by shape -/

/-- A group that adds something has conditions. -/
theorem wheres_ne_nil_of_whereGroup {query : Statement}
    (h : (q.whereGroup connector query).wheres ≠ q.wheres) : query.wheres ≠ [] := by
  intro hnil
  rw [whereGroup, if_pos (List.isEmpty_iff.mpr hnil)] at h
  exact h rfl

/-- The table of a group is no matter of its conditions. -/
theorem holds_orGroup {query : Statement} (hq : q.wheres ≠ []) (hquery : query.wheres ≠ []) :
    (q.whereGroup .or query).Holds v ↔ q.Holds v ∨ query.Holds v := by
  have hadds : AddsOne q .or (.group { query with table := q.table }) (q.whereGroup .or query) := by
    unfold whereGroup
    rw [if_neg fun hnil => hquery (List.isEmpty_iff.mp hnil)]
    rfl
  rw [holds_alternative hq hadds, Predicate.Holds, holds_eq v { query with table := q.table },
    holds_eq v query]

theorem holds_orTriples {entries : List (List Operand)} (hq : q.wheres ≠ [])
    (h : q.whereTriples .or entries = .ok q') (hadds : q'.wheres ≠ q.wheres) :
    q'.Holds v ↔ q.Holds v ∨ ∀ entry ∈ entries, ∃ p ∈ askedByEntry entry, p.Holds v := by
  obtain ⟨query, hfold, hgroup⟩ := bind_eq_ok.mp h
  obtain rfl := Except.ok.inj hgroup
  have hstep : ∀ q entry q', whereTriple q entry = .ok q' →
      ∃ p, askedByEntry entry = some p ∧ AddsOne q .and p q' := fun _ _ _ => whereTriple_eq_ok
  obtain ⟨ps, hps, hwheres⟩ := foldlM_eq_ok hstep hfold
  rw [holds_orGroup hq (wheres_ne_nil_of_whereGroup hadds), holds_conjuncts hwheres,
    forall_holds_iff hps]
  -- the entries are all that the group has
  simp [newQuery, fresh, truths, Earlier, Last]

theorem holds_orColumn {column : Reference} {operator : Option String} {operand : Option Operand}
    (hq : q.wheres ≠ []) (h : q.compare .or column operator operand = .ok q') :
    q'.Holds v ↔ q.Holds v ∨ ∃ p ∈ askedOf column operator operand, p.Holds v := by
  obtain ⟨p, hp, hadds⟩ := compare_eq_ok h
  rw [holds_alternative hq hadds, hp]
  simp

/-- Equalities narrow the last disjunct, and what was an alternative to it stays one. -/
theorem holds_equalities {pairs : List (String × Operand)} (h : q.whereEqualities pairs = .ok q') :
    q'.Holds v ↔ Earlier (truths v q.wheres) ∨
      (Last (truths v q.wheres) ∧ ∀ pair ∈ pairs, ∃ p ∈ askedByPair pair, p.Holds v) := by
  have hstep : ∀ (q : Statement) (pair : String × Operand) q',
      q.compare .and (.named pair.1) (some "=") (some pair.2) = .ok q' →
      ∃ p, askedByPair pair = some p ∧ AddsOne q .and p q' := fun _ _ _ => compare_eq_ok
  obtain ⟨ps, hps, hwheres⟩ := foldlM_eq_ok hstep h
  rw [holds_conjuncts hwheres, ← forall_holds_iff hps]

/-! ## All shapes -/

/-- **A condition as an alternative.** Added by OR to conditions that are there, a condition of any shape
    but equalities is one more disjunct. Equalities narrow the last disjunct instead, and they make an
    alternative just for rows that meet an earlier disjunct, and for rows that meet the last disjunct
    and the equalities, or neither. -/
theorem holds_orWhereCondition {given : Condition} (hq : q.wheres ≠ [])
    (h : q.whereCondition .or given = .ok q') (hadds : q'.wheres ≠ q.wheres)
    (v : Predicate → Prop) :
    (¬ given.IsEqualities → (q'.Holds v ↔ q.Holds v ∨ given.Holds v)) ∧
      (given.IsEqualities →
        (q'.Holds v ↔ Earlier (truths v q.wheres) ∨ (Last (truths v q.wheres) ∧ given.Holds v)) ∧
        ((q'.Holds v ↔ q.Holds v ∨ given.Holds v) ↔
          Earlier (truths v q.wheres) ∨ (Last (truths v q.wheres) ↔ given.Holds v))) := by
  cases given with
  | equalities pairs =>
    refine ⟨fun hnot => absurd trivial hnot, fun _ => ?_⟩
    have hholds : q'.Holds v ↔ Earlier (truths v q.wheres) ∨
        (Last (truths v q.wheres) ∧ Condition.Holds v (.equalities pairs)) := holds_equalities h
    refine ⟨hholds, ?_⟩
    rw [hholds, holds_eq v q, connected_iff]
    by_cases hearlier : Earlier (truths v q.wheres)
    · simp only [hearlier, true_or]
    · -- the last disjunct is all there is: both and either are the same if they agree
      simp only [hearlier, false_or, Condition.Holds]
      constructor
      · intro hiff
        exact ⟨fun hlast => (hiff.mpr (.inl hlast)).2, fun hgiven => (hiff.mpr (.inr hgiven)).1⟩
      · intro hiff
        rw [hiff, and_self, or_self]
  | group query =>
    obtain rfl := Except.ok.inj h
    have hquery := wheres_ne_nil_of_whereGroup hadds
    exact ⟨fun _ => holds_orGroup hq hquery, fun heq => heq.elim⟩
  | triples entries => exact ⟨fun _ => holds_orTriples hq h hadds, fun heq => heq.elim⟩
  | column column operator operand => exact ⟨fun _ => holds_orColumn hq h, fun heq => heq.elim⟩

end Statement

/-! ## Users by either of two columns -/

/-- The users that meet a condition. -/
def firstUsers : Statement :=
  ((Statement.fresh {}).withTable (.named "users")).addWhere .and
    (.comparison (.named "a") "=" (.int 1)) [.int 1]

/-- The second condition. -/
def secondPredicate : Predicate :=
  .comparison (.named "b") "=" (.int 2)

/-- The second condition as an equality. -/
def secondEquality : Condition :=
  .equalities [("b", .value (.int 2))]

/-- The second condition as an entry. -/
def secondEntry : Condition :=
  .triples [[.value (.text "b"), .value (.text "="), .value (.int 2)]]

/-- As an equality, the second condition is no alternative for users who meet it alone: `SELECT * FROM
    users WHERE a = ? AND b = ?`. As an entry it is one. -/
theorem firstUsers_orWhereCondition :
    ∃ q q', firstUsers.whereCondition .or secondEquality = .ok q ∧
      firstUsers.whereCondition .or secondEntry = .ok q' ∧
      q.selectBuilt =
        .ok ⟨"SELECT * FROM \x60users\x60 WHERE \x60a\x60 = ? AND \x60b\x60 = ?", [.int 1, .int 2]⟩ ∧
      ∃ v, secondEquality.Holds v ∧ ¬ q.Holds v ∧ q'.Holds v := by
  have hfirst : firstUsers.wheres ≠ [] := List.cons_ne_nil _ _
  have hmore : ∀ q : Statement, q.wheres.length = 2 → q.wheres ≠ firstUsers.wheres :=
    fun q hlen heq => absurd (heq ▸ hlen) (by decide)
  obtain ⟨q, hq, hlen, hbuilt⟩ : ∃ q, firstUsers.whereCondition .or secondEquality = .ok q ∧
      q.wheres.length = 2 ∧ q.selectBuilt =
        .ok ⟨"SELECT * FROM \x60users\x60 WHERE \x60a\x60 = ? AND \x60b\x60 = ?", [.int 1, .int 2]⟩ :=
    ⟨_, rfl, rfl, by decide +kernel⟩
  obtain ⟨q', hq', hlen'⟩ : ∃ q', firstUsers.whereCondition .or secondEntry = .ok q' ∧
      q'.wheres.length = 2 := ⟨_, rfl, rfl⟩
  have hequality : secondEquality.Holds (· = secondPredicate) :=
    List.forall_mem_singleton.mpr ⟨secondPredicate, rfl, rfl⟩
  have hentry : secondEntry.Holds (· = secondPredicate) :=
    List.forall_mem_singleton.mpr ⟨secondPredicate, rfl, rfl⟩
  refine ⟨q, q', hq, hq', hbuilt, (· = secondPredicate), hequality, ?_, ?_⟩
  · -- the first condition is the last disjunct, and there is no earlier one
    have hdiffer : Predicate.comparison (.named "a") "=" (.int 1) ≠ secondPredicate := by
      simp [secondPredicate]
    have hholds := (Statement.holds_orWhereCondition hfirst hq (hmore q hlen) (· = secondPredicate)).2
    rw [(hholds trivial).1]
    rintro (hearlier | ⟨hlast, _⟩)
    · exact hearlier
    · exact hdiffer hlast
  · have halternative :=
      (Statement.holds_orWhereCondition hfirst hq' (hmore q' hlen') (· = secondPredicate)).1
    exact (halternative id).mpr (.inr hentry)

end FluentSql
