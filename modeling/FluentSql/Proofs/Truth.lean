import FluentSql.Statement
import Mathlib.Data.List.Forall2

/-!
# `Truth` — when the conditions of a statement hold

An engine reads a list of conditions by the precedence of its connectors: AND binds tighter than OR, and
the connector of the first condition is not written at all. A group is one condition, read from the list
of its own statement. Every other condition is an atom, whose truth depends on the row.

## Contents
- `Connected`, the precedence of connectors, and its disjuncts.
- `Predicate.Holds` and `Statement.Holds`, under an assignment of truth to atoms.
- Conditions hold of more rows if atoms do: `Statement.holds_mono`.
-/

namespace FluentSql

/-! ## Precedence -/

/-- What a list of connected truths amounts to, after a conjunction that is still open. -/
def ConnectedAfter (current : Prop) : List (Connector × Prop) → Prop
  | [] => current
  | (.and, truth) :: rest => ConnectedAfter (current ∧ truth) rest
  | (.or, truth) :: rest => current ∨ ConnectedAfter truth rest

/-- **Precedence.** A disjunction of conjunctions; the first connector does not count, and no conditions
    at all are no restriction. -/
def Connected : List (Connector × Prop) → Prop
  | [] => True
  | (_, truth) :: rest => ConnectedAfter truth rest

/-- The disjuncts before the last one, after a conjunction that is still open. -/
def EarlierAfter (current : Prop) : List (Connector × Prop) → Prop
  | [] => False
  | (.and, truth) :: rest => EarlierAfter (current ∧ truth) rest
  | (.or, truth) :: rest => current ∨ EarlierAfter truth rest

/-- Whether a disjunct before the last one is true. -/
def Earlier : List (Connector × Prop) → Prop
  | [] => False
  | (_, truth) :: rest => EarlierAfter truth rest

/-- The last disjunct, after a conjunction that is still open. -/
def LastAfter (current : Prop) : List (Connector × Prop) → Prop
  | [] => current
  | (.and, truth) :: rest => LastAfter (current ∧ truth) rest
  | (.or, truth) :: rest => LastAfter truth rest

/-- Whether the last disjunct is true. -/
def Last : List (Connector × Prop) → Prop
  | [] => True
  | (_, truth) :: rest => LastAfter truth rest

/-- Conditions added by AND become part of the last disjunct alone. -/
theorem connectedAfter_append_and (current : Prop) (rest : List (Connector × Prop))
    (conjuncts : List Prop) :
    ConnectedAfter current (rest ++ conjuncts.map fun t => (.and, t)) ↔
      EarlierAfter current rest ∨ (LastAfter current rest ∧ ∀ t ∈ conjuncts, t) := by
  induction rest generalizing current with
  | nil =>
    rw [List.nil_append, EarlierAfter, LastAfter, false_or]
    induction conjuncts generalizing current with
    | nil => simp [ConnectedAfter]
    | cons t conjuncts ih => rw [List.map_cons, ConnectedAfter, ih, List.forall_mem_cons, and_assoc]
  | cons head rest ih =>
    obtain ⟨connector, t⟩ := head
    -- AND goes on with the open conjunction, and OR closes it: it is an earlier disjunct from then on
    cases connector with
    | and => simpa only [List.cons_append, ConnectedAfter, EarlierAfter, LastAfter] using ih (current ∧ t)
    | or =>
      simp only [List.cons_append, ConnectedAfter, EarlierAfter, LastAfter]
      rw [ih, or_assoc]

theorem connected_append_and (truths : List (Connector × Prop)) (conjuncts : List Prop) :
    Connected (truths ++ conjuncts.map fun t => (.and, t)) ↔
      Earlier truths ∨ (Last truths ∧ ∀ t ∈ conjuncts, t) := by
  cases truths with
  | nil =>
    cases conjuncts with
    | nil => simp [Connected, Last]
    | cons t conjuncts =>
      rw [Earlier, Last, false_or, true_and, List.forall_mem_cons]
      have hrest := connectedAfter_append_and t [] conjuncts
      rwa [EarlierAfter, LastAfter, false_or] at hrest
  | cons head rest => exact connectedAfter_append_and head.2 rest conjuncts

theorem connected_concat_and {truth : Prop} {truths : List (Connector × Prop)} :
    Connected (truths ++ [(.and, truth)]) ↔ Earlier truths ∨ (Last truths ∧ truth) := by
  have h := connected_append_and truths [truth]
  rwa [List.forall_mem_singleton] at h

/-- The disjuncts are the earlier ones and the last one. -/
theorem connected_iff {truths : List (Connector × Prop)} :
    Connected truths ↔ Earlier truths ∨ Last truths := by
  simpa using connected_append_and truths []

/-- A condition added by OR is a disjunct of its own. -/
theorem connectedAfter_concat_or {current truth : Prop} {rest : List (Connector × Prop)} :
    ConnectedAfter current (rest ++ [(.or, truth)]) ↔ ConnectedAfter current rest ∨ truth := by
  induction rest generalizing current with
  | nil => rfl
  | cons head rest ih =>
    obtain ⟨connector, t⟩ := head
    cases connector with
    | and => exact ih
    | or =>
      simp only [List.cons_append, ConnectedAfter]
      rw [ih, or_assoc]

theorem connected_concat_or {truth : Prop} {truths : List (Connector × Prop)} (h : truths ≠ []) :
    Connected (truths ++ [(.or, truth)]) ↔ Connected truths ∨ truth := by
  cases truths with
  | nil => exact absurd rfl h
  | cons head rest => exact connectedAfter_concat_or

/-- Where every condition is true, an earlier disjunct is one that an OR follows. -/
theorem earlierAfter_iff_of_true {current : Prop} {rest : List (Connector × Prop)} (hcurrent : current)
    (hrest : ∀ t ∈ rest, t.2) : EarlierAfter current rest ↔ ∃ t ∈ rest, t.1 = .or := by
  induction rest generalizing current with
  | nil => simp [EarlierAfter]
  | cons head rest ih =>
    obtain ⟨connector, t⟩ := head
    have ht : t := hrest _ List.mem_cons_self
    have hothers : ∀ t ∈ rest, t.2 := fun t' ht' => hrest t' (List.mem_cons_of_mem _ ht')
    cases connector with
    | and =>
      have hboth : current ∧ t := ⟨hcurrent, ht⟩
      simp [EarlierAfter, ih hboth hothers]
    | or => simp [EarlierAfter, hcurrent]

/-- Without OR there is one disjunct. -/
theorem EarlierAfter.exists_or {current : Prop} {rest : List (Connector × Prop)}
    (h : EarlierAfter current rest) : ∃ t ∈ rest, t.1 = .or := by
  induction rest generalizing current with
  | nil => exact h.elim
  | cons head rest ih =>
    obtain ⟨connector, t⟩ := head
    cases connector with
    | and =>
      obtain ⟨t', ht', hor⟩ := ih h
      exact ⟨t', List.mem_cons_of_mem _ ht', hor⟩
    | or => exact ⟨_, List.mem_cons_self, rfl⟩

/-! ## Conditions -/

mutual

/-- Whether a condition holds under an assignment of truth to atoms. -/
def Predicate.Holds (v : Predicate → Prop) : Predicate → Prop
  | .group query => query.Holds v
  | .comparison column operator value => v (.comparison column operator value)
  | .raw sql => v (.raw sql)
  | .between column low high negated => v (.between column low high negated)
  | .subquery column operator query => v (.subquery column operator query)
  | .existence query negated => v (.existence query negated)
  | .member column values negated => v (.member column values negated)
  | .memberOf column query negated => v (.memberOf column query negated)
  | .nullCheck column negated => v (.nullCheck column negated)

/-- Whether the conditions on rows of a statement hold. -/
def Statement.Holds (v : Predicate → Prop) : Statement → Prop
  | { wheres, .. } => Connected (truths v wheres)

/-- The truth of the conditions of a list, each with its connector. -/
def truths (v : Predicate → Prop) : List Criterion → List (Connector × Prop)
  | [] => []
  | { connector, predicate } :: criteria => (connector, predicate.Holds v) :: truths v criteria

end

theorem truths_append (v : Predicate → Prop) (criteria others : List Criterion) :
    truths v (criteria ++ others) = truths v criteria ++ truths v others := by
  induction criteria with
  | nil => rfl
  | cons c criteria ih =>
    cases c
    rw [List.cons_append, truths, truths, ih, List.cons_append]

theorem mem_truths {v : Predicate → Prop} {criteria : List Criterion} {t : Connector × Prop} :
    t ∈ truths v criteria ↔ ∃ c ∈ criteria, t = (c.connector, c.predicate.Holds v) := by
  induction criteria with
  | nil => simp [truths]
  | cons c criteria ih =>
    cases c
    simp only [truths, List.mem_cons, ih, exists_eq_or_imp]

theorem Statement.holds_eq (v : Predicate → Prop) (q : Statement) :
    q.Holds v = Connected (truths v q.wheres) := by
  cases q
  rw [Statement.Holds]

/-! ## Monotonicity -/

/-- The same connectors, before truths of which the second follows from the first. -/
def Weaker (t t' : Connector × Prop) : Prop :=
  t'.1 = t.1 ∧ (t.2 → t'.2)

variable {rest rest' : List (Connector × Prop)}

theorem ConnectedAfter.mono {current current' : Prop} (hcurrent : current → current')
    (hrest : List.Forall₂ Weaker rest rest') (h : ConnectedAfter current rest) :
    ConnectedAfter current' rest' := by
  induction hrest generalizing current current' with
  | nil => exact hcurrent h
  | @cons head head' rest rest' hhead _ ih =>
    obtain ⟨connector, t⟩ := head
    obtain ⟨connector', t'⟩ := head'
    obtain ⟨hconnector, ht⟩ := hhead
    obtain rfl : connector = connector' := hconnector.symm
    cases connector with
    | and => exact ih (And.imp hcurrent ht) h
    | or => exact h.imp hcurrent (ih ht)

theorem Connected.mono (h : List.Forall₂ Weaker rest rest') : Connected rest → Connected rest' := by
  cases h with
  | nil => exact id
  | cons hhead htail => exact ConnectedAfter.mono hhead.2 htail

theorem Earlier.mono (h : List.Forall₂ Weaker rest rest') : Earlier rest → Earlier rest' := by
  -- the earlier disjuncts are what a condition that never holds leaves
  have hnever : List.Forall₂ Weaker (rest ++ [(.and, False)]) (rest' ++ [(.and, False)]) :=
    List.rel_append h (.cons ⟨rfl, id⟩ .nil)
  have hmono := Connected.mono hnever
  simpa only [connected_concat_and, and_false, or_false] using hmono

variable {v w : Predicate → Prop}

mutual

/-- A condition that holds still holds when more atoms are true: no condition negates another one. -/
theorem Predicate.holds_mono (h : ∀ p, v p → w p) : (p : Predicate) → p.Holds v → p.Holds w
  | .group query => by
    simpa only [Predicate.Holds] using Statement.holds_mono h query
  | .comparison .. | .raw _ | .between .. | .subquery .. | .existence .. | .member .. | .memberOf ..
  | .nullCheck .. => by
    simpa only [Predicate.Holds] using h _

theorem Statement.holds_mono (h : ∀ p, v p → w p) : (q : Statement) → q.Holds v → q.Holds w
  | { wheres, .. } => by
    simpa only [Statement.Holds] using Connected.mono (truths_mono h wheres)

theorem truths_mono (h : ∀ p, v p → w p) : (criteria : List Criterion) →
    List.Forall₂ Weaker (truths v criteria) (truths w criteria)
  | [] => .nil
  | { predicate, .. } :: criteria =>
    .cons ⟨rfl, Predicate.holds_mono h predicate⟩ (truths_mono h criteria)

end

end FluentSql
