import FluentSql.Proofs.Filtered

/-!
# `Additions` — what the calls that filter rows add

A call that filters rows appends conditions. Which ones does not depend on the clauses that are there:
every receiver of a setting gets the same conditions with the same values, or refuses the call with the
same error. Only a group takes over something, the table of its receiver. And whatever the shape in
which a condition is given, it is one of a few kinds by the time it is added.

## Contents
- `Predicate.Admissible`, the conditions that are added, and `Criterion.retable`, the table of a group.
- `Statement.adding`, a statement with an addition, and `Adds`, a step that makes one.
- Comparisons, groups and lists of conditions, and `Call.adds_apply` for every call that filters rows.
-/

namespace FluentSql

/-! ## Conditions that are added -/

/-- The conditions that calls add: operators are recognised, null is not compared, a group has
    conditions, and statements inside a condition are among those given. -/
inductive Predicate.Admissible (embedded : List Statement) : Predicate → Prop where
  | comparison {column : Reference} {operator : String} {value : Value}
      (hoperator : isOperator operator = true) (hvalue : value ≠ .null) :
      Admissible embedded (.comparison column operator value)
  | raw (sql : String) : Admissible embedded (.raw sql)
  | between (column : Reference) (low high : Value) (negated : Bool) :
      Admissible embedded (.between column low high negated)
  | member (column : Reference) (values : List Value) (negated : Bool) :
      Admissible embedded (.member column values negated)
  | nullCheck (column : Reference) (negated : Bool) : Admissible embedded (.nullCheck column negated)
  | subquery {column : Reference} {operator : String} {query : Statement}
      (hoperator : isOperator operator = true) (hquery : query ∈ embedded) :
      Admissible embedded (.subquery column operator query)
  | existence {query : Statement} {negated : Bool} (hquery : query ∈ embedded) :
      Admissible embedded (.existence query negated)
  | memberOf {column : Reference} {query : Statement} {negated : Bool} (hquery : query ∈ embedded) :
      Admissible embedded (.memberOf column query negated)
  /-- The conditions of a given statement. -/
  | group {query : Statement} (hwheres : query.wheres ≠ []) (hquery : query ∈ embedded)
      (table : Option Reference) : Admissible embedded (.group { query with table := table })
  /-- Conditions that were added one by one to a statement of their own. -/
  | entries {query : Statement} (hwheres : query.wheres ≠ []) (hhavings : query.havings = [])
      (hunions : query.unions = []) (hquery : ∀ c ∈ query.wheres, Admissible embedded c.predicate) :
      Admissible embedded (.group query)

/-- The condition as it stands in a statement over a table: a group is one over the same table. -/
def Predicate.retable (table : Option Reference) : Predicate → Predicate
  | .group query => .group { query with table := table }
  | p => p

def Criterion.retable (table : Option Reference) (c : Criterion) : Criterion :=
  { c with predicate := c.predicate.retable table }

theorem Predicate.Admissible.retable {embedded : List Statement} {p : Predicate}
    (h : p.Admissible embedded) (table : Option Reference) :
    (p.retable table).Admissible embedded := by
  cases h with
  | comparison hoperator hvalue => exact .comparison hoperator hvalue
  | raw sql => exact .raw sql
  | between column low high negated => exact .between column low high negated
  | member column values negated => exact .member column values negated
  | nullCheck column negated => exact .nullCheck column negated
  | subquery hoperator hquery => exact .subquery hoperator hquery
  | existence hquery => exact .existence hquery
  | memberOf hquery => exact .memberOf hquery
  | group hwheres hquery table' => exact .group hwheres hquery table
  | entries hwheres hhavings hunions hquery => exact .entries hwheres hhavings hunions hquery

/-- Given more statements, no condition is lost. -/
theorem Predicate.Admissible.mono {embedded embedded' : List Statement} (hsub : embedded ⊆ embedded')
    {p : Predicate} (h : p.Admissible embedded) : p.Admissible embedded' := by
  induction h with
  | comparison hoperator hvalue => exact .comparison hoperator hvalue
  | raw sql => exact .raw sql
  | between column low high negated => exact .between column low high negated
  | member column values negated => exact .member column values negated
  | nullCheck column negated => exact .nullCheck column negated
  | subquery hoperator hquery => exact .subquery hoperator (hsub hquery)
  | existence hquery => exact .existence (hsub hquery)
  | memberOf hquery => exact .memberOf (hsub hquery)
  | group hwheres hquery table => exact .group hwheres (hsub hquery) table
  | entries hwheres hhavings hunions _ ih => exact .entries hwheres hhavings hunions ih

/-! ## Steps that add conditions -/

/-- Conditions with the values that they bind. -/
structure Addition where
  criteria : List Criterion
  values : List Value

/-- The statement with an addition, whose groups are over the statement's table. -/
def Statement.adding (q : Statement) (a : Addition) : Statement :=
  q.filtered (a.criteria.map (Criterion.retable q.table)) a.values

/-- On every receiver of the setting, the step makes the same addition of admissible conditions or fails
    with the same error. -/
def Adds (embedded : List Statement) (setting : Setting) (f : Statement → Except Error Statement) :
    Prop :=
  ∃ r : Except Error Addition,
    (∀ a, r = .ok a → ∀ c ∈ a.criteria, c.predicate.Admissible embedded) ∧
      ∀ q : Statement, q.setting = setting → f q = r.map q.adding

namespace Adds

variable {embedded embedded' : List Statement} {setting : Setting}
  {f g : Statement → Except Error Statement}

/-- A step that is always refused. -/
theorem error (e : Error) : Adds embedded setting fun _ => .error e :=
  ⟨.error e, fun _ ha => (nomatch ha), fun _ _ => rfl⟩

/-- A step that adds nothing. -/
theorem nothing : Adds embedded setting .ok := by
  refine ⟨.ok ⟨[], []⟩, fun a ha => ?_, fun q _ => ?_⟩
  · obtain rfl := Except.ok.inj ha
    exact fun c hc => absurd hc List.not_mem_nil
  · exact congrArg Except.ok q.filtered_nil.symm

/-- One condition, which is over the receiver's table if it is a group. -/
theorem one {connector : Connector} {predicate : Predicate} {values : List Value}
    (h : predicate.Admissible embedded) :
    Adds embedded setting fun q =>
      .ok (q.addWhere connector (predicate.retable q.table) values) := by
  refine ⟨.ok ⟨[⟨connector, predicate⟩], values⟩, fun a ha => ?_, fun q _ => rfl⟩
  obtain rfl := Except.ok.inj ha
  intro c hc
  obtain rfl := List.mem_singleton.mp hc
  exact h

/-- One step after the other. -/
theorem bind (h : Adds embedded setting f) (h' : Adds embedded setting g) :
    Adds embedded setting fun q => f q >>= g := by
  obtain ⟨r, hr, hf⟩ := h
  obtain ⟨r', hr', hg⟩ := h'
  refine ⟨r >>= fun a => r'.map fun b => ⟨a.criteria ++ b.criteria, a.values ++ b.values⟩, ?_, ?_⟩
  · intro ab hab c hc
    obtain ⟨a, ha, hab⟩ := bind_eq_ok.mp hab
    obtain ⟨b, hb, rfl⟩ := map_eq_ok.mp hab
    exact (List.mem_append.mp hc).elim (hr a ha c) (hr' b hb c)
  · intro q hq
    have hfirst : (f q >>= g) = r.map q.adding >>= g := congrArg (· >>= g) (hf q hq)
    refine hfirst.trans ?_
    cases r with
    | error e => rfl
    | ok a =>
      -- what is added first changes neither the setting nor the table
      have hsecond := hg (q.adding a) hq
      cases r' with
      | error e => exact hsecond
      | ok b =>
        refine hsecond.trans (congrArg Except.ok ?_)
        rw [Statement.adding, Statement.adding, Statement.adding, List.map_append,
          ← Statement.filtered_filtered]
        rfl

/-- Steps along a list. -/
theorem foldlM {α : Type} {step : Statement → α → Except Error Statement} {xs : List α}
    (h : ∀ x ∈ xs, Adds embedded setting fun q => step q x) :
    Adds embedded setting fun q => xs.foldlM step q := by
  induction xs with
  | nil => exact nothing
  | cons x xs ih =>
    have hhead := h x List.mem_cons_self
    have htail := ih fun y hy => h y (List.mem_cons_of_mem _ hy)
    simpa only [List.foldlM_cons] using hhead.bind htail

theorem mono (hsub : embedded ⊆ embedded') (h : Adds embedded setting f) :
    Adds embedded' setting f := by
  obtain ⟨r, hr, hf⟩ := h
  exact ⟨r, fun a ha c hc => (hr a ha c hc).mono hsub, hf⟩

end Adds

/-! ## Comparisons -/

namespace Statement

variable {embedded : List Statement} {setting : Setting} (connector : Connector)

theorem adds_compareNull (column : Reference) (operator : String) :
    Adds embedded setting fun q => q.compareNull connector column operator := by
  unfold compareNull
  split
  · exact .one (.nullCheck column false)
  · split
    · exact .one (.nullCheck column true)
    · exact .error _

theorem adds_compareOperand (column : Reference) {operator : String} (operand : Operand)
    (hoperator : isOperator operator = true) :
    Adds operand.embedded setting fun q => q.compareOperand connector column operator operand := by
  cases operand with
  | query query => exact .one (.subquery hoperator (List.mem_singleton.mpr rfl))
  | list values => exact .error _
  | value v =>
    cases v with
    | null => exact adds_compareNull connector column operator
    | _ =>
      refine .one (.comparison hoperator ?_)
      intro hnull
      cases hnull

/-- The operator that is meant is a recognised one, and the operand embeds no other statements. -/
theorem resolveComparison_eq_ok {column : Reference} {operator : Option String}
    {operand : Option Operand} {meant : String × Operand}
    (h : resolveComparison column operator operand = .ok meant) :
    isOperator meant.1 = true ∧ meant.2.embedded ⊆ operand.toList.flatMap Operand.embedded := by
  have hequal : isOperator "=" = true := by decide
  unfold resolveComparison at h
  split at h
  · cases h
  · obtain rfl := Except.ok.inj h
    exact ⟨hequal, by simp⟩
  · obtain rfl := Except.ok.inj h
    exact ⟨hequal, List.nil_subset _⟩
  · split at h
    · next hoperator =>
      obtain rfl := Except.ok.inj h
      exact ⟨hoperator, by simp⟩
    · obtain rfl := Except.ok.inj h
      exact ⟨hequal, List.nil_subset _⟩

theorem adds_compare (column : Reference) (operator : Option String) (operand : Option Operand) :
    Adds (operand.toList.flatMap Operand.embedded) setting fun q =>
      q.compare connector column operator operand := by
  unfold compare
  cases hmeant : resolveComparison column operator operand with
  | error e => exact .error e
  | ok meant =>
    obtain ⟨hoperator, hsub⟩ := resolveComparison_eq_ok hmeant
    exact (adds_compareOperand connector column meant.2 hoperator).mono hsub

/-! ## Groups and lists of conditions -/

theorem adds_whereGroup (query : Statement) :
    Adds [query] setting fun q => .ok (q.whereGroup connector query) := by
  unfold whereGroup
  split
  · exact .nothing
  · next hne =>
    have hwheres : query.wheres ≠ [] := fun hnil => hne (List.isEmpty_iff.mpr hnil)
    exact .one (.group hwheres (List.mem_singleton.mpr rfl) query.table)

theorem adds_whereEqualities (pairs : List (String × Operand)) :
    Adds (pairs.flatMap fun pair => pair.2.embedded) setting fun q => q.whereEqualities pairs := by
  refine .foldlM fun pair hpair => ?_
  refine (adds_compare .and (.named pair.1) (some "=") (some pair.2)).mono ?_
  rw [Option.toList_some, List.flatMap_singleton]
  exact fun e he => List.mem_flatMap.mpr ⟨pair, hpair, he⟩

/-- **An entry of column, operator and operand.** -/
theorem adds_whereTriple (entry : List Operand) :
    Adds (embeddedInEntry entry) setting fun q => q.whereTriple entry := by
  unfold whereTriple
  split
  · next column operator operand =>
    split
    · exact .error _
    · exact .error _
    · next name token _ _ =>
      refine (adds_compare .and (.named name) (some token) (some operand)).mono ?_
      rw [Option.toList_some, List.flatMap_singleton]
      exact fun e he => List.mem_flatMap.mpr ⟨operand, by simp, he⟩
  · exact .error _

/-- **A list of entries.** They are added to a statement of their own, and what it has then is one group;
    without entries nothing is added. -/
theorem adds_whereTriples (entries : List (List Operand)) :
    Adds (entries.flatMap embeddedInEntry) setting fun q => q.whereTriples connector entries := by
  have hentries : Adds (entries.flatMap embeddedInEntry) setting fun q => entries.foldlM whereTriple q :=
    .foldlM fun entry hentry => (adds_whereTriple entry).mono fun e he =>
      List.mem_flatMap.mpr ⟨entry, hentry, he⟩
  obtain ⟨r, hr, hfold⟩ := hentries
  have htriples : ∀ q : Statement, q.setting = setting →
      q.whereTriples connector entries =
        (r.map (fresh setting).adding) >>= fun g => .ok (q.whereGroup connector g) := by
    intro q hq
    rw [whereTriples, newQuery, hq, ← hfold (fresh setting) rfl]
    rfl
  cases r with
  | error e => exact ⟨.error e, fun _ ha => (nomatch ha), htriples⟩
  | ok a =>
    -- the group has the conditions of the entries, and neither conditions on groups nor unions
    have hgroup : Adds (entries.flatMap embeddedInEntry) setting fun q =>
        .ok (q.whereGroup connector ((fresh setting).adding a)) := by
      unfold whereGroup
      split
      · exact .nothing
      · next hne =>
        have hwheres : ((fresh setting).adding a).wheres ≠ [] :=
          fun hnil => hne (List.isEmpty_iff.mpr hnil)
        refine .one (.entries hwheres rfl rfl fun c hc => ?_)
        obtain ⟨c', hc', rfl⟩ := List.mem_map.mp hc
        exact (hr a rfl c' hc').retable _
    obtain ⟨r', hr', hwhere⟩ := hgroup
    exact ⟨r', hr', fun q hq => (htriples q hq).trans (hwhere q hq)⟩

theorem adds_whereCondition (given : Condition) :
    Adds given.embedded setting fun q => q.whereCondition connector given := by
  cases given with
  | equalities pairs => exact adds_whereEqualities pairs
  | group query => exact adds_whereGroup connector query
  | triples entries => exact adds_whereTriples connector entries
  | column column operator operand => exact adds_compare connector column operator operand

end Statement

/-! ## Calls -/

/-- **A call that filters rows** makes the same addition to every receiver of a setting. -/
theorem Call.adds_apply {c : Call} (hc : c.Filters) (setting : Setting) :
    Adds c.embedded setting fun q => c.apply q := by
  cases c <;> try exact hc.elim
  case compare connector column operator operand =>
    exact Statement.adds_compare connector column operator operand
  case condition connector given => exact Statement.adds_whereCondition connector given
  case group connector query => exact Statement.adds_whereGroup connector query
  case whereRaw connector sql values => exact .one (.raw sql)
  case between connector negated column low high => exact .one (.between column low high negated)
  case existence connector negated query => exact .one (.existence (List.mem_singleton.mpr rfl))
  case membership connector negated column source =>
    cases source with
    | values values => exact .one (.member column values negated)
    | query query => exact .one (.memberOf (List.mem_singleton.mpr rfl))
  case nullCheck connector negated column => exact .one (.nullCheck column negated)

end FluentSql
