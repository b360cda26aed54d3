import FluentSql.Proofs.Routing
import FluentSql.Proofs.Shapes
import FluentSql.Proofs.WellFormed

/-!
# `Having` — conditions on groups beside conditions on rows

A condition on groups is meant to be the mirror image of one on rows: the same condition with the same
values, in another clause. Conditions on rows are interpreted before they are added. A text that is no
operator is taken for the operand, and null is asked for by a null check. Conditions on groups are added
as they are given, and so the two agree exactly if there is nothing to interpret.

## Contents
- `Mirrors`, and `Statement.mirrors_having_iff`, when the two agree.
- `Call.havings` and `Statement.havings_applyAll`, the conditions on groups that a chain makes.
- `Statement.wellFormed_havings_iff`, when all of them are well-formed.
- `Statement.having_mirrors_where`, both results.
-/

namespace FluentSql

/-! ## One condition -/

/-- The first statement is `q` with one condition more on rows, and the second one is `q` with the same
    condition and the same values on groups. -/
def Mirrors (q rows groups : Statement) : Prop :=
  ∃ connector p values, rows = q.addWhere connector p values ∧ groups = q.addHaving connector p values

namespace Statement

variable {q q' : Statement} {connector : Connector} {column : Reference} {operator : String}
  {value : Value}

/-- A value that is not null is compared as it is. -/
theorem compareOperand_of_ne_null (h : value ≠ .null) :
    q.compareOperand connector column operator (.value value) =
      .ok (q.addWhere connector (.comparison column operator value) [value]) := by
  cases value with
  | null => exact absurd rfl h
  | _ => rfl

/-- What a comparison adds to the conditions on rows is well-formed. -/
theorem wellFormed_of_compare {operator : Option String} {operand : Option Operand} {c : Criterion}
    (h : q.compare connector column operator operand = .ok q') (hc : q'.wheres = q.wheres ++ [c]) :
    c.predicate.WellFormed := by
  have hadds : Adds _ q.setting fun q => q.compare connector column operator operand :=
    adds_compare connector column operator operand
  obtain ⟨r, hadmissible, hstep⟩ := hadds
  obtain ⟨a, hr, rfl⟩ := map_eq_ok.mp ((hstep q rfl).symm.trans h)
  have hcriteria : a.criteria.map (Criterion.retable q.table) = [c] := List.append_cancel_left hc
  obtain ⟨c', hc', rfl⟩ := List.mem_map.mp (hcriteria ▸ List.mem_singleton.mpr rfl)
  exact ((hadmissible a hr c' hc').retable q.table).wellFormed

/-- **The two agree** exactly if the operator is one and the value is not null. -/
theorem mirrors_having_iff
    (h : q.compare connector column (some operator) (some (.value value)) = .ok q') :
    Mirrors q q' (q.having connector column operator value) ↔
      isOperator operator = true ∧ value ≠ .null := by
  constructor
  · rintro ⟨connector', p, values, rfl, hhaving⟩
    -- what is added to both is the comparison as it is given, and on rows it is well-formed
    have hcriteria := List.append_cancel_left (congrArg (·.havings) hhaving)
    obtain ⟨_, rfl⟩ : connector = connector' ∧ .comparison column operator value = p := by
      simpa using hcriteria
    exact wellFormed_of_compare h rfl
  · rintro ⟨hoperator, hvalue⟩
    rw [compare_of_isOperator hoperator, compareOperand_of_ne_null hvalue] at h
    exact ⟨connector, _, [value], (Except.ok.inj h).symm, rfl⟩

/-- Null by a recognised operator is a null check on rows, which binds nothing. -/
theorem eq_of_compare_null (hoperator : isOperator operator = true)
    (h : q.compare connector column (some operator) (some (.value .null)) = .ok q') :
    ∃ negated, q' = q.addWhere connector (.nullCheck column negated) [] := by
  rw [compare_of_isOperator hoperator, compareOperand, compareNull] at h
  split at h
  · exact ⟨false, (Except.ok.inj h).symm⟩
  · split at h
    · exact ⟨true, (Except.ok.inj h).symm⟩
    · cases h

end Statement

/-! ## All conditions on groups -/

/-- The conditions on groups that a call adds. -/
def Call.havings : Call → List Criterion
  | .having connector column operator value => [⟨connector, .comparison column operator value⟩]
  | .havingRaw connector sql _ => [⟨connector, .raw sql⟩]
  | .merge other => other.havings
  | _ => []

/-- **One call** adds its conditions on groups as they are given. -/
theorem Call.havings_apply {c : Call} {q q' : Statement} (hstart : c.startsOver = false)
    (h : c.apply q = .ok q') : q'.havings = q.havings ++ c.havings := by
  cases hfacet : c.facet? with
  | none =>
    cases c with
    | merge other | addBinding value slot | setBindings values slot =>
      obtain rfl := Except.ok.inj h
      simp [havings, Statement.merge, Statement.addBinding, Statement.setBindings, Statement.bind]
    | newQuery | forGroup => cases hstart
    | _ => cases hfacet
  | some f =>
    by_cases hf : f = .havings
    · obtain rfl := hf
      cases c with
      | having | havingRaw =>
        obtain rfl := Except.ok.inj h
        rfl
      | _ => cases hfacet
    · have hsame : q'.havings = q.havings :=
        congrArg (·.havings) (facet_apply_of_ne hfacet (Ne.symm hf) h)
      have hnone : c.havings = [] := by
        cases c with
        | having | havingRaw => exact absurd (Option.some.inj hfacet).symm hf
        | merge => cases hfacet
        | _ => rfl
      rw [hsame, hnone, List.append_nil]

namespace Statement

variable {q q' : Statement} {connector : Connector} {column : Reference} {operator : String}
  {value : Value} {setting : Setting} {calls : List Call}

/-- **A chain** on a fresh statement. -/
theorem havings_applyAll (h : (fresh setting).applyAll calls = .ok q) :
    q.havings = (sinceStart calls).flatMap Call.havings := by
  refine applyAll_invariant (P := fun seen q => q.havings = seen.flatMap Call.havings)
    (fun _ _ => rfl) (fun seen c q q' _ hstart hq h => ?_) h
  rw [Call.havings_apply hstart h, hq, List.flatMap_append, List.flatMap_singleton]

/-- The conditions on groups are well-formed exactly if every call gives them so. -/
theorem wellFormed_havings_iff (h : (fresh setting).applyAll calls = .ok q) :
    (∀ c ∈ q.havings, c.predicate.WellFormed) ↔
      (∀ connector column operator value, .having connector column operator value ∈ sinceStart calls →
        isOperator operator = true ∧ value ≠ .null) ∧
      ∀ other, .merge other ∈ sinceStart calls → ∀ c ∈ other.havings, c.predicate.WellFormed := by
  rw [havings_applyAll h]
  constructor
  · intro hall
    constructor
    · intro connector column operator value hmem
      exact hall _ (List.mem_flatMap.mpr ⟨_, hmem, List.mem_singleton.mpr rfl⟩)
    · exact fun other hmem c hc => hall c (List.mem_flatMap.mpr ⟨_, hmem, hc⟩)
  · rintro ⟨hhaving, hmerge⟩ c hc
    obtain ⟨call, hcall, hc⟩ := List.mem_flatMap.mp hc
    cases call with
    | having connector column operator value =>
      obtain rfl := List.mem_singleton.mp hc
      exact hhaving connector column operator value hcall
    | havingRaw connector sql values =>
      obtain rfl := List.mem_singleton.mp hc
      trivial
    | merge other => exact hmerge other hcall c hc
    | _ => exact absurd hc List.not_mem_nil

/-- **Conditions on groups** are not interpreted. Where a condition on rows can be added, the one on groups
    mirrors it exactly if its operator is recognised and its value is not null: else a text that is no
    operator is compared on rows, and null is asked for by a null check there, while on groups the
    operator and the value are written as they are given. So the conditions on groups that a chain makes
    are well-formed exactly if all of its calls give them so. -/
theorem having_mirrors_where
    (h : q.compare connector column (some operator) (some (.value value)) = .ok q') :
    (Mirrors q q' (q.having connector column operator value) ↔
      isOperator operator = true ∧ value ≠ .null) ∧
    (isOperator operator = false →
      q' = q.addWhere connector (.comparison column "=" (.text operator)) [.text operator]) ∧
    (isOperator operator = true → value = .null →
      ∃ negated, q' = q.addWhere connector (.nullCheck column negated) []) ∧
    q.having connector column operator value =
      q.addHaving connector (.comparison column operator value) [value] ∧
    ∀ (setting : Setting) (calls : List Call) (p : Statement),
      (fresh setting).applyAll calls = .ok p →
      ((∀ c ∈ p.havings, c.predicate.WellFormed) ↔
        (∀ connector column operator value,
          .having connector column operator value ∈ sinceStart calls →
          isOperator operator = true ∧ value ≠ .null) ∧
        ∀ other, .merge other ∈ sinceStart calls → ∀ c ∈ other.havings, c.predicate.WellFormed) := by
  refine ⟨mirrors_having_iff h, fun hoperator => ?_, fun hoperator hvalue => ?_, rfl,
    fun setting calls p hcalls => wellFormed_havings_iff hcalls⟩
  · exact Except.ok.inj (h.symm.trans (compare_of_not_isOperator hoperator (.value value)))
  · subst hvalue
    exact eq_of_compare_null hoperator h

end Statement

/-! ## Groups of users by their votes -/

/-- The users. -/
def allUsers : Statement :=
  (Statement.fresh {}).withTable (.named "users")

/-- The votes are compared by a text that is no operator, `SELECT * FROM users HAVING votes alice ?`, or
    with null; on rows they are compared with the text, or asked to be null. By a recognised operator and
    with a number, they are compared alike. -/
theorem having_mirrors_where_allUsers :
    (∃ rows groups, allUsers.compare .and (.named "votes") (some "alice") (some (.value (.int 5))) =
        .ok rows ∧
      (Statement.fresh {}).applyAll
        [.table (.named "users"), .having .and (.named "votes") "alice" (.int 5)] = .ok groups ∧
      groups = allUsers.having .and (.named "votes") "alice" (.int 5) ∧
      ¬ Mirrors allUsers rows groups ∧ ¬ (∀ c ∈ groups.havings, c.predicate.WellFormed) ∧
      rows.selectBuilt =
        .ok ⟨"SELECT * FROM \x60users\x60 WHERE \x60votes\x60 = ?", [.text "alice"]⟩ ∧
      groups.selectBuilt =
        .ok ⟨"SELECT * FROM \x60users\x60 HAVING \x60votes\x60 alice ?", [.int 5]⟩) ∧
    (∃ rows negated, allUsers.compare .and (.named "votes") (some "=") (some (.value .null)) = .ok rows ∧
      rows = allUsers.addWhere .and (.nullCheck (.named "votes") negated) [] ∧
      ¬ Mirrors allUsers rows (allUsers.having .and (.named "votes") "=" .null)) ∧
    ∃ rows, allUsers.compare .and (.named "votes") (some ">") (some (.value (.int 5))) = .ok rows ∧
      Mirrors allUsers rows (allUsers.having .and (.named "votes") ">" (.int 5)) := by
  refine ⟨?_, ?_, ?_⟩
  · obtain ⟨rows, hrows⟩ : ∃ rows, allUsers.compare .and (.named "votes") (some "alice")
        (some (.value (.int 5))) = .ok rows := ⟨_, rfl⟩
    have hgroups : (Statement.fresh {}).applyAll
        [.table (.named "users"), .having .and (.named "votes") "alice" (.int 5)] =
          .ok (allUsers.having .and (.named "votes") "alice" (.int 5)) := rfl
    have hoperator : isOperator "alice" = false := by decide
    obtain ⟨hmirrors, htext, _, _, hall⟩ := Statement.having_mirrors_where hrows
    obtain rfl := htext hoperator
    refine ⟨_, _, hrows, hgroups, rfl, fun h => ?_, fun h => ?_, by decide +kernel, by decide +kernel⟩
    · exact absurd (hoperator.symm.trans (hmirrors.mp h).1) (by decide)
    · obtain ⟨hcalls, _⟩ := (hall _ _ _ hgroups).mp h
      have hgiven := (hcalls .and (.named "votes") "alice" (.int 5) (.tail _ (.head _))).1
      exact absurd (hoperator.symm.trans hgiven) (by decide)
  · obtain ⟨rows, hrows⟩ : ∃ rows, allUsers.compare .and (.named "votes") (some "=")
        (some (.value .null)) = .ok rows := ⟨_, rfl⟩
    obtain ⟨hmirrors, _, hnull, _⟩ := Statement.having_mirrors_where hrows
    obtain ⟨negated, hchecked⟩ := hnull (by decide) rfl
    exact ⟨rows, negated, hrows, hchecked, fun h => (hmirrors.mp h).2 rfl⟩
  · obtain ⟨rows, hrows⟩ : ∃ rows, allUsers.compare .and (.named "votes") (some ">")
        (some (.value (.int 5))) = .ok rows := ⟨_, rfl⟩
    obtain ⟨hmirrors, _⟩ := Statement.having_mirrors_where hrows
    exact ⟨rows, hrows, hmirrors.mpr ⟨by decide, nofun⟩⟩

end FluentSql
