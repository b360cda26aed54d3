import FluentSql.Proofs.Additions
import Mathlib.Logic.Relation

/-!
# `Depth` — statements inside statements, and where their parts come from

Conditions on rows embed statements, and so do unions; the embedded statements do so again. What holds
at every depth of a statement that calls build follows from what one call brings in: conditions and
members of the union are those that were there, those that the call makes, and those of the statements
among its arguments.

## Contents
- `Statement.Embeds`, one step into a statement, and `Statement.Everywhere`, a property at every depth.
- `Statement.ComesFrom` and `Call.comesFrom_apply`, where the parts of a statement come from.
- `Statement.ComesFrom.everywhere`, a property at every depth after a call.
- `Chain.everywhere_bareHavings`: conditions on groups embed no statement.
-/

namespace FluentSql

/-! ## Depth -/

/-- The statement inside a condition. -/
def Predicate.query? : Predicate → Option Statement
  | .group query | .subquery _ _ query | .existence query _ | .memberOf _ query _ => some query
  | _ => none

/-- One step into a statement: to a statement inside a condition on rows, or to a member of the union. -/
def Statement.Embeds (q e : Statement) : Prop :=
  (∃ c ∈ q.wheres, c.predicate.query? = some e) ∨ ∃ u ∈ q.unions, u.query = e

/-- The statement has the property, and so have the statements in it, at every depth. -/
def Statement.Everywhere (P : Statement → Prop) (q : Statement) : Prop :=
  ∀ e, Relation.ReflTransGen Statement.Embeds q e → P e

/-- The property holds at every depth of the statement inside the condition. -/
def Predicate.Inside (P : Statement → Prop) (p : Predicate) : Prop :=
  ∀ e, p.query? = some e → e.Everywhere P

variable {P : Statement → Prop}

theorem Statement.everywhere_iff {q : Statement} :
    q.Everywhere P ↔
      P q ∧ (∀ c ∈ q.wheres, c.predicate.Inside P) ∧ ∀ u ∈ q.unions, u.query.Everywhere P := by
  constructor
  · intro h
    refine ⟨h q .refl, fun c hc e he e' hpath => ?_, fun u hu e' hpath => ?_⟩
    · exact h e' (.head (.inl ⟨c, hc, he⟩) hpath)
    · exact h e' (.head (.inr ⟨u, hu, rfl⟩) hpath)
  · rintro ⟨hq, hwheres, hunions⟩ e hpath
    rcases Relation.ReflTransGen.cases_head hpath with rfl | ⟨e', hstep, hpath⟩
    · exact hq
    · rcases hstep with ⟨c, hc, he'⟩ | ⟨u, hu, rfl⟩
      · exact hwheres c hc e' he' e hpath
      · exact hunions u hu e hpath

/-- Without conditions and unions there is no depth. -/
theorem Statement.everywhere_fresh (setting : Setting) (hP : P (fresh setting)) :
    (fresh setting).Everywhere P := by
  rw [everywhere_iff]
  exact ⟨hP, nofun, nofun⟩

/-! ## Where parts come from -/

/-- The conditions and the union of the second statement are those of the first one, what is made of
    `embedded`, and the conditions and unions of these. -/
structure Statement.ComesFrom (embedded : List Statement) (q q' : Statement) : Prop where
  wheres : ∀ c ∈ q'.wheres,
    c ∈ q.wheres ∨ c.predicate.Admissible embedded ∨ ∃ e ∈ embedded, c ∈ e.wheres
  havings : ∀ c ∈ q'.havings,
    c ∈ q.havings ∨ c.predicate.query? = none ∨ ∃ e ∈ embedded, c ∈ e.havings
  unions : ∀ u ∈ q'.unions,
    u ∈ q.unions ∨ u.query ∈ embedded ∨ ∃ e ∈ embedded, u ∈ e.unions

namespace Statement.ComesFrom

variable {embedded : List Statement} {q q' : Statement}

theorem refl (q : Statement) : ComesFrom embedded q q :=
  ⟨fun _ => .inl, fun _ => .inl, fun _ => .inl⟩

/-- Only conditions and unions count. -/
theorem congr {q'' : Statement} (h : ComesFrom embedded q q') (hwheres : q''.wheres = q'.wheres)
    (hhavings : q''.havings = q'.havings) (hunions : q''.unions = q'.unions) :
    ComesFrom embedded q q'' :=
  ⟨hwheres ▸ h.wheres, hhavings ▸ h.havings, hunions ▸ h.unions⟩

theorem of_eq (hwheres : q'.wheres = q.wheres) (hhavings : q'.havings = q.havings)
    (hunions : q'.unions = q.unions) : ComesFrom embedded q q' :=
  (refl q).congr hwheres hhavings hunions

/-- Nothing comes into a statement without conditions and unions. -/
theorem of_nil (hwheres : q'.wheres = []) (hhavings : q'.havings = []) (hunions : q'.unions = []) :
    ComesFrom embedded q q' := by
  constructor
  · simp [hwheres]
  · simp [hhavings]
  · simp [hunions]

/-- Order and paging are no conditions. -/
theorem modifyTail (h : ComesFrom embedded q q') (f : Tail → Tail) :
    ComesFrom embedded q (q'.modifyTail f) := by
  unfold Statement.modifyTail
  split <;> exact h.congr rfl rfl rfl

theorem addOrder (h : ComesFrom embedded q q') (order : Order) :
    ComesFrom embedded q (q'.addOrder order) :=
  h.modifyTail _

theorem addHaving {connector : Connector} {predicate : Predicate} {values : List Value}
    (h : predicate.query? = none) : ComesFrom embedded q (q.addHaving connector predicate values) where
  wheres _ := .inl
  havings c hc := by
    rcases List.mem_append.mp hc with hc | hc
    · exact .inl hc
    · obtain rfl := List.mem_singleton.mp hc
      exact .inr (.inl h)
  unions _ := .inl

theorem union (q : Statement) (all : Bool) (query : Statement) :
    ComesFrom [query] q (q.union all query) where
  wheres _ := .inl
  havings _ := .inl
  unions u hu := by
    rcases List.mem_append.mp hu with hu | hu
    · exact .inl hu
    · obtain rfl := List.mem_singleton.mp hu
      exact .inr (.inl (List.mem_singleton.mpr rfl))

theorem merge (q other : Statement) : ComesFrom [other] q (q.merge other) := by
  have hother : other ∈ [other] := List.mem_singleton.mpr rfl
  constructor
  · exact fun c hc => (List.mem_append.mp hc).imp id fun hc => .inr ⟨other, hother, hc⟩
  · exact fun c hc => (List.mem_append.mp hc).imp id fun hc => .inr ⟨other, hother, hc⟩
  · exact fun u hu => (List.mem_append.mp hu).imp id fun hu => .inr ⟨other, hother, hu⟩

end Statement.ComesFrom

/-- **One call.** What it brings in is made of its arguments, or stands in the statements among them. -/
theorem Call.comesFrom_apply {q q' : Statement} {c : Call} (h : c.apply q = .ok q') :
    Statement.ComesFrom c.embedded q q' := by
  by_cases hc : c.Filters
  · obtain ⟨r, hr, happly⟩ := Call.adds_apply hc q.setting
    obtain ⟨a, ha, rfl⟩ := map_eq_ok.mp ((happly q rfl).symm.trans h)
    refine ⟨fun x hx => ?_, fun x hx => .inl hx, fun u hu => .inl hu⟩
    rcases List.mem_append.mp hx with hx | hx
    · exact .inl hx
    · obtain ⟨x', hx', rfl⟩ := List.mem_map.mp hx
      exact .inr (.inl ((hr a ha x' hx').retable q.table))
  -- of the other calls, only unions and merges bring in statements
  cases c <;> try exact absurd trivial hc
  case selectSub source label =>
    obtain ⟨built, _, h⟩ := bind_eq_ok.mp h
    rw [← Except.ok.inj h]; exact .of_eq rfl rfl rfl
  case join kind joined first operator second =>
    simp only [apply, Statement.join] at h
    split at h
    · cases h
    · rw [← Except.ok.inj h]; exact .of_eq rfl rfl rfl
  case aggregate function columns =>
    obtain ⟨_, _, h⟩ := bind_eq_ok.mp h
    rw [← Except.ok.inj h]; exact .of_eq rfl rfl rfl
  all_goals rw [← Except.ok.inj h]
  case having => exact .addHaving rfl
  case havingRaw => exact .addHaving rfl
  case orderBy column direction => exact .addOrder (.refl q) _
  case orderByRaw sql values => exact (Statement.ComesFrom.addOrder (.refl q) _).congr rfl rfl rfl
  case limit n => exact .modifyTail (.refl q) _
  case offset n => exact .modifyTail (.refl q) _
  case page number perPage =>
    have hoffset : Statement.ComesFrom [] q (q.offset ((number - 1) * perPage)) :=
      .modifyTail (.refl q) _
    exact hoffset.modifyTail fun tail => { tail with limit := some perPage }
  case union all query => exact .union q all query
  case merge other => exact .merge q other
  case newQuery => exact .of_nil rfl rfl rfl
  case forGroup => exact .of_nil rfl rfl rfl
  all_goals exact .of_eq rfl rfl rfl

/-! ## Depth after a call -/

/-- What calls add embeds statements with the property: statements that are given have it, it does not
    depend on the table, and statements that entries make have it. -/
theorem Predicate.Admissible.inside {embedded : List Statement} {p : Predicate}
    (h : p.Admissible embedded) (hembedded : ∀ e ∈ embedded, e.Everywhere P)
    (htable : ∀ q table, P q → P { q with table := table })
    (hentries : ∀ q : Statement, (∀ c ∈ q.wheres, c.predicate.Admissible embedded) →
      q.havings = [] → P q) :
    p.Inside P := by
  induction h with
  | comparison | raw | between | member | nullCheck => exact nofun
  | subquery _ hquery | existence hquery | memberOf hquery =>
    intro e he
    obtain rfl := Option.some.inj he
    exact hembedded _ hquery
  | group hwheres hquery table =>
    -- the group is the given statement over another table
    intro e he
    obtain rfl := Option.some.inj he
    obtain ⟨hP, hinside, hunions⟩ := Statement.everywhere_iff.mp (hembedded _ hquery)
    exact Statement.everywhere_iff.mpr ⟨htable _ table hP, hinside, hunions⟩
  | @entries query hwheres hhavings hunions hquery ih =>
    intro e he
    obtain rfl : query = e := Option.some.inj he
    rw [Statement.everywhere_iff, hunions]
    exact ⟨hentries query hquery hhavings, ih, fun u hu => absurd hu List.not_mem_nil⟩

/-- **A property at every depth** stays one if the statement itself keeps it. -/
theorem Statement.ComesFrom.everywhere {embedded : List Statement} {q q' : Statement}
    (h : ComesFrom embedded q q') (hq : q.Everywhere P) (hembedded : ∀ e ∈ embedded, e.Everywhere P)
    (htable : ∀ q table, P q → P { q with table := table })
    (hentries : ∀ q : Statement, (∀ c ∈ q.wheres, c.predicate.Admissible embedded) →
      q.havings = [] → P q)
    (hP : P q') : q'.Everywhere P := by
  obtain ⟨_, hwheres, hunions⟩ := everywhere_iff.mp hq
  refine everywhere_iff.mpr ⟨hP, fun c hc => ?_, fun u hu => ?_⟩
  · rcases h.wheres c hc with hc | hc | ⟨e, he, hc⟩
    · exact hwheres c hc
    · exact hc.inside hembedded htable hentries
    · exact (everywhere_iff.mp (hembedded e he)).2.1 c hc
  · rcases h.unions u hu with hu | hu | ⟨e, he, hu⟩
    · exact hunions u hu
    · exact hembedded _ hu
    · exact (everywhere_iff.mp (hembedded e he)).2.2 u hu

/-! ## Conditions on groups -/

/-- No condition on groups embeds a statement. -/
def Statement.BareHavings (q : Statement) : Prop :=
  ∀ c ∈ q.havings, c.predicate.query? = none

/-- **One call.** No call embeds a statement in a condition on groups. -/
theorem Call.everywhere_bareHavings_apply {q q' : Statement} {c : Call}
    (hq : q.Everywhere Statement.BareHavings)
    (hembedded : ∀ e ∈ c.embedded, e.Everywhere Statement.BareHavings) (h : c.apply q = .ok q') :
    q'.Everywhere Statement.BareHavings := by
  have hcomes := Call.comesFrom_apply h
  refine hcomes.everywhere hq hembedded (fun _ _ hbare => hbare) (fun e _ hnil => ?_) fun x hx => ?_
  · intro x hx
    exact absurd (hnil ▸ hx) List.not_mem_nil
  · rcases hcomes.havings x hx with hx | hx | ⟨e, he, hx⟩
    · exact hq q .refl x hx
    · exact hx
    · exact hembedded e he e .refl x hx

/-- **A chain.** At every depth of a statement that calls build, conditions on groups embed no
    statement. -/
theorem Chain.everywhere_bareHavings {chain : Chain} {q : Statement} (h : chain.build = .ok q) :
    q.Everywhere Statement.BareHavings :=
  Chain.run_invariant (fun setting => Statement.everywhere_fresh setting nofun)
    (fun _ _ _ hq hembedded h => Call.everywhere_bareHavings_apply hq hembedded h) h

end FluentSql
