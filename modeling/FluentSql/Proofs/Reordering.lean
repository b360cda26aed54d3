import FluentSql.Proofs.Additions
import FluentSql.Proofs.Alignment.Clauses
import FluentSql.Statement.Writing

/-!
# `Reordering` — calls of different clauses in any order

Callers add clauses as they come to know them. A call works on one facet of a statement: one clause with
its bound values, or, for order, paging and unions, several of them. It neither reads nor changes the
others, with one exception: a group takes over the table that its receiver has at that moment. No text
shows it. So a statement sends what its facets say, and a chain of calls may be put in another order as
long as the calls of each facet keep theirs.

## Contents
- `Facet`, `Call.facet?` and `Statement.facet`, what a statement has of a facet.
- `Facet.Changes`, `Facet.Steps` and `Call.steps_apply`, what one call does.
- `Statement.facet_applyAll`, what a chain does to a facet, and `exists_applyAll_eq_ok_iff`.
- `Statement.SameOutput`, what a statement sends, and `sameOutput_of_facets`.
- `Statement.applyAll_reordered`, the main result.
-/

namespace FluentSql

/-! ## Facets -/

/-- The parts of a statement that are built independently of one another. -/
inductive Facet where
  | projection
  | distinct
  | table
  | joins
  | wheres
  | groups
  | havings
  | aggregate
  | lock
  /-- Order, paging and unions: whether there is a union decides what is ordered. -/
  | paging
  deriving DecidableEq

/-- The facet that a call works on. Folding in a statement, setting bound values by hand and starting
    again are about all of them. -/
def Call.facet? : Call → Option Facet
  | .select .. | .addSelect .. | .selectRaw .. | .selectSub .. => some .projection
  | .distinct => some .distinct
  | .table .. => some .table
  | .join .. | .addJoin .. | .addJoinAs .. => some .joins
  | .compare .. | .condition .. | .group .. | .whereRaw .. | .between .. | .existence ..
  | .membership .. | .nullCheck .. => some .wheres
  | .groupBy .. => some .groups
  | .having .. | .havingRaw .. => some .havings
  | .aggregate .. => some .aggregate
  | .lock .. => some .lock
  | .orderBy .. | .orderByRaw .. | .limit .. | .offset .. | .page .. | .union .. => some .paging
  | .merge .. | .addBinding .. | .setBindings .. | .newQuery | .forGroup => none

/-- The calls of a chain that work on a facet. -/
def callsOf (f : Facet) (calls : List Call) : List Call :=
  calls.filter fun c => c.facet? = some f

namespace Statement

/-- What a statement has of a facet, and nothing else; groups are over no table. -/
def facet (f : Facet) (q : Statement) : Statement :=
  match f with
  | .projection =>
    { fresh q.setting with
      columns := q.columns, bindings := { projection := q.bindings.projection } }
  | .distinct => { fresh q.setting with distinct := q.distinct }
  | .table => { fresh q.setting with table := q.table, bindings := { table := q.bindings.table } }
  | .joins => { fresh q.setting with joins := q.joins, bindings := { join := q.bindings.join } }
  | .wheres =>
    { fresh q.setting with
      wheres := q.wheres.map (Criterion.retable none), bindings := { filter := q.bindings.filter } }
  | .groups => { fresh q.setting with groups := q.groups }
  | .havings =>
    { fresh q.setting with havings := q.havings, bindings := { having := q.bindings.having } }
  | .aggregate => { fresh q.setting with aggregate := q.aggregate }
  | .lock => { fresh q.setting with lock := q.lock }
  | .paging =>
    { fresh q.setting with
      tail := q.tail
      unions := q.unions
      unionTail := q.unionTail
      bindings :=
        { order := q.bindings.order
          union := q.bindings.union
          unionOrder := q.bindings.unionOrder } }

@[simp] theorem setting_facet (q : Statement) (f : Facet) : (q.facet f).setting = q.setting := by
  cases f <;> rfl

end Statement

/-! ## One call -/

/-- The change is one of the facet: what it makes of the facet depends on the facet alone, and every other
    facet stays as it was. -/
structure Facet.Changes (f : Facet) (change : Statement → Statement) : Prop where
  inside : ∀ q, (change q).facet f = (change (q.facet f)).facet f
  outside : ∀ q g, g ≠ f → (change q).facet g = q.facet g

/-- The step changes the facet in one way on every receiver of the setting, or fails on every one. -/
def Facet.Steps (f : Facet) (setting : Setting) (step : Statement → Except Error Statement) : Prop :=
  ∃ r : Except Error (Statement → Statement), (∀ change, r = .ok change → f.Changes change) ∧
    ∀ q : Statement, q.setting = setting → step q = r.map fun change => change q

namespace Facet

variable {f : Facet} {setting : Setting} {change change' : Statement → Statement}
  {step : Statement → Except Error Statement}

/-- A step that never fails. -/
theorem Changes.steps (h : f.Changes change) : f.Steps setting fun q => .ok (change q) := by
  refine ⟨.ok change, fun u hu => ?_, fun q _ => rfl⟩
  obtain rfl := Except.ok.inj hu
  exact h

/-- One change after the other. -/
theorem Changes.comp (h : f.Changes change) (h' : f.Changes change') :
    f.Changes fun q => change' (change q) where
  inside q := by rw [h'.inside, h.inside, ← h'.inside]
  outside q g hg := by rw [h'.outside _ g hg, h.outside q g hg]

/-- A step that depends on a computation of its arguments. -/
theorem Steps.of_map {α : Type} {x : Except Error α} {change : α → Statement → Statement}
    (h : ∀ a, f.Changes (change a)) (hstep : ∀ q, q.setting = setting → step q = x.map (change · q)) :
    f.Steps setting step := by
  refine ⟨x.map change, fun u hu => ?_, fun q hq => (hstep q hq).trans ?_⟩
  · obtain ⟨a, _, rfl⟩ := map_eq_ok.mp hu
    exact h a
  · cases x <;> rfl

end Facet

/-- The last table counts. -/
theorem map_retable_map_retable (table table' : Option Reference) (criteria : List Criterion) :
    (criteria.map (Criterion.retable table)).map (Criterion.retable table') =
      criteria.map (Criterion.retable table') := by
  have hretable : ∀ c : Criterion, (c.retable table).retable table' = c.retable table' := by
    rintro ⟨connector, predicate⟩
    cases predicate <;> rfl
  rw [List.map_map]
  exact List.map_congr_left fun c _ => hretable c

namespace Statement

/-- Conditions are added to the conditions, and the receiver's table counts only for groups. -/
theorem changes_adding (a : Addition) : Facet.wheres.Changes fun q => q.adding a where
  inside q := by
    simp only [facet, adding, filtered, bind, List.map_append, map_retable_map_retable]
    rfl
  outside q g hg := by
    cases g <;> first | rfl | exact absurd rfl hg

/-- Order and paging apply to the statement or to the union, which is of the same facet. -/
theorem changes_modifyTail (f : Tail → Tail) : Facet.paging.Changes fun q => q.modifyTail f where
  inside q := by
    have hunions : (q.facet .paging).unions = q.unions := rfl
    unfold modifyTail
    rw [hunions]
    split <;> rfl
  outside q g hg := by
    unfold modifyTail
    split <;> cases g <;> first | rfl | exact absurd rfl hg

theorem changes_addOrder (order : Order) : Facet.paging.Changes fun q => q.addOrder order :=
  changes_modifyTail _

theorem changes_limit (n : Int64) : Facet.paging.Changes fun q => q.limit n :=
  changes_modifyTail _

theorem changes_offset (n : Int64) : Facet.paging.Changes fun q => q.offset n :=
  changes_modifyTail _

theorem changes_orderByRaw (sql : String) (values : List Value) :
    Facet.paging.Changes fun q => q.orderByRaw sql values where
  inside q := by
    have hunions : (q.facet .paging).unions = q.unions := rfl
    unfold orderByRaw addOrder modifyTail
    rw [hunions]
    split <;> rfl
  outside q g hg := by
    unfold orderByRaw addOrder modifyTail
    split <;> cases g <;> first | rfl | exact absurd rfl hg

variable (setting : Setting)

/-- A subselect is rendered in its own setting, its label in that of the receiver. -/
theorem steps_selectSub (source : Subselect) (label : String) :
    Facet.projection.Steps setting fun q => q.selectSub source label := by
  have hchanges : ∀ built : Built, Facet.projection.Changes fun q => q.selectRaw
      ("(" ++ built.sql ++ ") AS " ++ setting.dialect.quoteColumn (.named label)) built.bindings := by
    refine fun built => ⟨fun q => rfl, fun q g hg => ?_⟩
    cases g <;> first | rfl | exact absurd rfl hg
  refine .of_map hchanges (x := subselectBuilt source) ?_
  rintro q rfl
  unfold selectSub
  cases subselectBuilt source <;> rfl

theorem steps_join (kind : JoinKind) (table first : Reference) (operator : String)
    (second : JoinTarget) :
    Facet.joins.Steps setting fun q => q.join kind table first operator second := by
  unfold join
  split
  · exact ⟨.error _, nofun, fun q _ => rfl⟩
  · refine Facet.Changes.steps ⟨fun q => rfl, fun q g hg => ?_⟩
    cases g <;> first | rfl | exact absurd rfl hg

theorem steps_selectAggregate (function : String) (columns : List Reference) :
    Facet.aggregate.Steps setting fun q => q.selectAggregate function columns := by
  have hchanges : ∀ known : AggregateFunction, Facet.aggregate.Changes fun q =>
      { q with aggregate := some ⟨known, columns⟩ } := by
    refine fun known => ⟨fun q => rfl, fun q g hg => ?_⟩
    cases g <;> first | rfl | exact absurd rfl hg
  refine .of_map hchanges (x := AggregateFunction.ofName function) fun q _ => ?_
  unfold selectAggregate
  cases AggregateFunction.ofName function <;> rfl

end Statement

namespace Call

variable {c : Call} {f : Facet}

theorem facet?_of_filters (hc : c.Filters) : c.facet? = some .wheres := by
  cases c <;> first | rfl | exact hc.elim

/-- **One call** changes its facet and leaves the others alone. -/
theorem steps_apply (hc : c.facet? = some f) (setting : Setting) :
    f.Steps setting fun q => c.apply q := by
  by_cases hfilters : c.Filters
  · obtain rfl := Option.some.inj ((facet?_of_filters hfilters).symm.trans hc)
    obtain ⟨r, _, hstep⟩ := Call.adds_apply hfilters setting
    exact .of_map Statement.changes_adding hstep
  cases c <;> try exact absurd trivial hfilters
  case merge | addBinding | setBindings | newQuery | forGroup => cases hc
  all_goals obtain rfl := Option.some.inj hc
  case selectSub source label => exact Statement.steps_selectSub setting source label
  case join kind joined first operator second =>
    exact Statement.steps_join setting kind joined first operator second
  case aggregate function columns => exact Statement.steps_selectAggregate setting function columns
  case orderBy column direction =>
    exact (Statement.changes_addOrder (.column column direction)).steps
  case orderByRaw sql values => exact (Statement.changes_orderByRaw sql values).steps
  case limit n => exact (Statement.changes_limit n).steps
  case offset n => exact (Statement.changes_offset n).steps
  case page number perPage =>
    have hoffset := Statement.changes_offset ((number - 1) * perPage)
    exact (hoffset.comp (Statement.changes_limit perPage)).steps
  -- what the others change is read off their definitions
  all_goals
    refine Facet.Changes.steps ⟨fun q => rfl, fun q g hg => ?_⟩
    cases g <;> first | rfl | exact absurd rfl hg

variable {q q' p : Statement}

/-- What a call makes of its facet depends on the facet alone. -/
theorem facet_apply (hc : c.facet? = some f) (hqp : q.facet f = p.facet f)
    (h : c.apply q = .ok q') : ∃ p', c.apply p = .ok p' ∧ p'.facet f = q'.facet f := by
  obtain ⟨r, hr, hstep⟩ := steps_apply hc q.setting
  obtain ⟨change, rfl, rfl⟩ := map_eq_ok.mp ((hstep q rfl).symm.trans h)
  have hsetting : p.setting = q.setting := by
    rw [← p.setting_facet f, ← hqp, Statement.setting_facet]
  refine ⟨change p, hstep p hsetting, ?_⟩
  rw [(hr change rfl).inside p, ← hqp, ← (hr change rfl).inside q]

/-- A call leaves the other facets alone. -/
theorem facet_apply_of_ne (hc : c.facet? = some f) {g : Facet} (hg : g ≠ f)
    (h : c.apply q = .ok q') : q'.facet g = q.facet g := by
  obtain ⟨r, hr, hstep⟩ := steps_apply hc q.setting
  obtain ⟨change, rfl, rfl⟩ := map_eq_ok.mp ((hstep q rfl).symm.trans h)
  exact (hr change rfl).outside q g hg

theorem setting_apply (hc : c.facet? = some f) (h : c.apply q = .ok q') :
    q'.setting = q.setting := by
  obtain ⟨g, hg⟩ : ∃ g, g ≠ f := by
    by_cases hf : f = .distinct
    · exact ⟨.table, fun htable => nomatch htable.trans hf⟩
    · exact ⟨.distinct, Ne.symm hf⟩
  rw [← q'.setting_facet g, facet_apply_of_ne hc hg h, Statement.setting_facet]

/-- Whether a call fails depends on the setting of the receiver alone. -/
theorem exists_apply_eq_ok (hc : c.facet? = some f) (hqp : p.setting = q.setting)
    (h : c.apply q = .ok q') : ∃ p', c.apply p = .ok p' := by
  obtain ⟨r, _, hstep⟩ := steps_apply hc q.setting
  obtain ⟨change, rfl, rfl⟩ := map_eq_ok.mp ((hstep q rfl).symm.trans h)
  exact ⟨change p, hstep p hqp⟩

end Call

/-! ## Chains of calls -/

/-- Every call of the chain works on one facet. -/
def HaveFacets (calls : List Call) : Prop :=
  ∀ c ∈ calls, c.facet? ≠ none

theorem HaveFacets.cons {c : Call} {calls : List Call} (h : HaveFacets (c :: calls)) :
    (∃ f, c.facet? = some f) ∧ HaveFacets calls :=
  ⟨Option.ne_none_iff_exists'.mp (h c List.mem_cons_self),
    fun c' hc' => h c' (List.mem_cons_of_mem _ hc')⟩

namespace Statement

variable {q q' p : Statement} {calls calls' : List Call}

theorem applyAll_cons (q : Statement) (c : Call) (calls : List Call) :
    q.applyAll (c :: calls) = c.apply q >>= fun q => q.applyAll calls :=
  List.foldlM_cons

/-- **A chain** makes of a facet what the calls of the facet make of it. -/
theorem facet_applyAll {f : Facet} (hcalls : HaveFacets calls) (hqp : q.facet f = p.facet f)
    (h : q.applyAll calls = .ok q') :
    ∃ p', p.applyAll (callsOf f calls) = .ok p' ∧ p'.facet f = q'.facet f := by
  induction calls generalizing q p with
  | nil =>
    obtain rfl : q = q' := Except.ok.inj h
    exact ⟨p, rfl, hqp.symm⟩
  | cons c calls ih =>
    obtain ⟨⟨g, hc⟩, hcalls⟩ := hcalls.cons
    rw [applyAll_cons] at h
    obtain ⟨q₁, hfirst, h⟩ := bind_eq_ok.mp h
    by_cases hfg : g = f
    · -- the call is one of the facet
      obtain rfl := hfg
      obtain ⟨p₁, hp₁, hfacet⟩ := Call.facet_apply hc hqp hfirst
      obtain ⟨p', hp', hp'f⟩ := ih hcalls hfacet.symm h
      refine ⟨p', ?_, hp'f⟩
      rw [callsOf, List.filter_cons_of_pos (by simpa using hc), applyAll_cons, hp₁]
      exact hp'
    · -- the call leaves the facet alone
      have hfacet : q₁.facet f = p.facet f :=
        (Call.facet_apply_of_ne hc (Ne.symm hfg) hfirst).trans hqp
      obtain ⟨p', hp', hp'f⟩ := ih hcalls hfacet h
      refine ⟨p', ?_, hp'f⟩
      rw [callsOf, List.filter_cons_of_neg (by simpa [hc] using hfg)]
      exact hp'

/-- A chain gives a statement when each of its calls does, on the statement at the start. -/
theorem exists_applyAll_eq_ok_iff (hcalls : HaveFacets calls) :
    (∃ q', q.applyAll calls = .ok q') ↔ ∀ c ∈ calls, ∃ q', c.apply q = .ok q' := by
  induction calls generalizing q with
  | nil => exact ⟨fun _ c hc => absurd hc List.not_mem_nil, fun _ => ⟨q, rfl⟩⟩
  | cons c calls ih =>
    obtain ⟨⟨f, hc⟩, hcalls'⟩ := hcalls.cons
    rw [applyAll_cons]
    constructor
    · rintro ⟨q', h⟩
      obtain ⟨q₁, hfirst, h⟩ := bind_eq_ok.mp h
      have hsetting : q.setting = q₁.setting := (Call.setting_apply hc hfirst).symm
      refine List.forall_mem_cons.mpr ⟨⟨q₁, hfirst⟩, fun c' hc' => ?_⟩
      obtain ⟨f', hf'⟩ := Option.ne_none_iff_exists'.mp (hcalls' c' hc')
      obtain ⟨q₂, hsecond⟩ := (ih hcalls').mp ⟨q', h⟩ c' hc'
      exact Call.exists_apply_eq_ok hf' hsetting hsecond
    · intro h
      obtain ⟨⟨q₁, hfirst⟩, hrest⟩ := List.forall_mem_cons.mp h
      have hsetting : q₁.setting = q.setting := Call.setting_apply hc hfirst
      have hrest' : ∀ c' ∈ calls, ∃ q', c'.apply q₁ = .ok q' := by
        intro c' hc'
        obtain ⟨f', hf'⟩ := Option.ne_none_iff_exists'.mp (hcalls' c' hc')
        obtain ⟨q₂, hsecond⟩ := hrest c' hc'
        exact Call.exists_apply_eq_ok hf' hsetting hsecond
      obtain ⟨q', h'⟩ := (ih hcalls').mpr hrest'
      exact ⟨q', bind_eq_ok.mpr ⟨q₁, hfirst, h'⟩⟩

end Statement

/-! ## What a statement sends -/

namespace Dialect

/-- The text of a group does not show its table. -/
theorem predicateText_retable (d : Dialect) (table : Option Reference) (p : Predicate) :
    d.predicateText (p.retable table) = d.predicateText p := by
  cases p with
  | group query =>
    cases query
    simp only [Predicate.retable, predicateText, groupTexts]
  | _ => rfl

theorem criterionTexts_retable (d : Dialect) (table : Option Reference) (criteria : List Criterion) :
    d.criterionTexts (criteria.map (Criterion.retable table)) = d.criterionTexts criteria := by
  induction criteria with
  | nil => rfl
  | cons c criteria ih =>
    have hhead : d.criterionText (c.retable table) = d.criterionText c := by
      rw [criterionText_eq, criterionText_eq, Criterion.retable, d.predicateText_retable]
    rw [List.map_cons, criterionTexts, criterionTexts, ih, hhead]

end Dialect

namespace Statement

variable {q q' p : Statement} {calls calls' : List Call}

/-- The two statements send the same text, or fail to with the same error, and the same values. -/
structure SameOutput (q p : Statement) : Prop where
  selectSql : q.selectSql = p.selectSql
  bound : q.bound = p.bound
  updateBuilt : ∀ record, q.updateBuilt record = p.updateBuilt record
  deleteBuilt : q.deleteBuilt = p.deleteBuilt
  insertBuilt? : ∀ records, q.insertBuilt? records = p.insertBuilt? records

/-- The statement with its groups over no table. -/
def retabled (q : Statement) : Statement :=
  { q with wheres := q.wheres.map (Criterion.retable none) }

theorem renderWheres_retabled (d : Dialect) (q : Statement) :
    d.renderWheres q.retabled = d.renderWheres q :=
  congrArg (Except.map _) (d.criterionTexts_retable none q.wheres)

/-- The tables of groups are not sent. -/
theorem sameOutput_retabled (q : Statement) : q.retabled.SameOutput q where
  selectSql := by
    have hclauses : ∀ d : Dialect, d.renderClause q.retabled = d.renderClause q := by
      intro d
      funext clause
      cases clause with
      | wheres => exact renderWheres_retabled d q
      | _ => rfl
    unfold selectSql
    rw [Dialect.renderSelect_eq, Dialect.renderSelect_eq, hclauses]
    rfl
  bound := rfl
  updateBuilt record := by
    unfold updateBuilt Dialect.renderUpdate
    rw [renderWheres_retabled]
    rfl
  deleteBuilt := by
    unfold deleteBuilt Dialect.renderDelete
    rw [renderWheres_retabled]
    rfl
  insertBuilt? records := rfl

/-- The lists of bound values belong to different facets. -/
theorem bindings_eq_of_facets (h : ∀ f, q.facet f = p.facet f) : q.bindings = p.bindings := by
  refine Bindings.ext_get fun slot => ?_
  cases slot with
  | projection => exact congrArg (·.bindings.projection) (h .projection)
  | table => exact congrArg (·.bindings.table) (h .table)
  | join => exact congrArg (·.bindings.join) (h .joins)
  | filter => exact congrArg (·.bindings.filter) (h .wheres)
  | having => exact congrArg (·.bindings.having) (h .havings)
  | order => exact congrArg (·.bindings.order) (h .paging)
  | union => exact congrArg (·.bindings.union) (h .paging)
  | unionOrder => exact congrArg (·.bindings.unionOrder) (h .paging)

/-- A statement is its facets, but for the tables of groups. -/
theorem retabled_eq_of_facets (h : ∀ f, q.facet f = p.facet f) : q.retabled = p.retabled := by
  have hbindings := bindings_eq_of_facets h
  have hsetting : q.setting = p.setting := congrArg (·.setting) (h .distinct)
  have haggregate : q.aggregate = p.aggregate := congrArg (·.aggregate) (h .aggregate)
  have hcolumns : q.columns = p.columns := congrArg (·.columns) (h .projection)
  have hdistinct : q.distinct = p.distinct := congrArg (·.distinct) (h .distinct)
  have htable : q.table = p.table := congrArg (·.table) (h .table)
  have hjoins : q.joins = p.joins := congrArg (·.joins) (h .joins)
  have hwheres : q.retabled.wheres = p.retabled.wheres := congrArg (·.wheres) (h .wheres)
  have hgroups : q.groups = p.groups := congrArg (·.groups) (h .groups)
  have hhavings : q.havings = p.havings := congrArg (·.havings) (h .havings)
  have htail : q.tail = p.tail := congrArg (·.tail) (h .paging)
  have hunions : q.unions = p.unions := congrArg (·.unions) (h .paging)
  have hunionTail : q.unionTail = p.unionTail := congrArg (·.unionTail) (h .paging)
  have hlock : q.lock = p.lock := congrArg (·.lock) (h .lock)
  cases q
  cases p
  simp only [retabled, Statement.mk.injEq]
  exact ⟨hsetting, hbindings, haggregate, hcolumns, hdistinct, htable, hjoins, hwheres, hgroups,
    hhavings, htail, hunions, hunionTail, hlock⟩

theorem SameOutput.symm (h : q.SameOutput p) : p.SameOutput q :=
  ⟨h.selectSql.symm, h.bound.symm, fun r => (h.updateBuilt r).symm, h.deleteBuilt.symm,
    fun rs => (h.insertBuilt? rs).symm⟩

theorem SameOutput.trans (h : q.SameOutput q') (h' : q'.SameOutput p) : q.SameOutput p :=
  ⟨h.selectSql.trans h'.selectSql, h.bound.trans h'.bound,
    fun r => (h.updateBuilt r).trans (h'.updateBuilt r), h.deleteBuilt.trans h'.deleteBuilt,
    fun rs => (h.insertBuilt? rs).trans (h'.insertBuilt? rs)⟩

/-- **What is sent** is decided by the facets. -/
theorem sameOutput_of_facets (h : ∀ f, q.facet f = p.facet f) : q.SameOutput p := by
  have hq : q.SameOutput q.retabled := q.sameOutput_retabled.symm
  rw [retabled_eq_of_facets h] at hq
  exact hq.trans p.sameOutput_retabled

/-! ## Chains in another order -/

/-- Chains with the same calls of each facet consist of the same calls. -/
theorem mem_of_callsOf_eq (hcalls : HaveFacets calls) (h : ∀ f, callsOf f calls = callsOf f calls')
    {c : Call} (hc : c ∈ calls) : c ∈ calls' := by
  obtain ⟨f, hf⟩ := Option.ne_none_iff_exists'.mp (hcalls c hc)
  have hmem : c ∈ callsOf f calls := List.mem_filter.mpr ⟨hc, by simpa using hf⟩
  rw [h f] at hmem
  exact List.mem_of_mem_filter hmem

/-- A chain that keeps the calls of each facet in their order succeeds if the other one does. -/
theorem sameOutput_of_callsOf_eq (hcalls : HaveFacets calls) (hcalls' : HaveFacets calls')
    (h : ∀ f, callsOf f calls = callsOf f calls') {q₁ : Statement} (h₁ : q.applyAll calls = .ok q₁) :
    ∃ q₂, q.applyAll calls' = .ok q₂ ∧ q₁.SameOutput q₂ := by
  have heach := (exists_applyAll_eq_ok_iff hcalls).mp ⟨q₁, h₁⟩
  obtain ⟨q₂, h₂⟩ := (exists_applyAll_eq_ok_iff hcalls').mpr fun c hc =>
    heach c (mem_of_callsOf_eq hcalls' (fun f => (h f).symm) hc)
  refine ⟨q₂, h₂, sameOutput_of_facets fun f => ?_⟩
  obtain ⟨p₁, hp₁, hf₁⟩ := facet_applyAll hcalls rfl h₁ (f := f)
  obtain ⟨p₂, hp₂, hf₂⟩ := facet_applyAll hcalls' rfl h₂ (f := f)
  -- the calls of the facet are the same, and so is what they give
  rw [h f, hp₂] at hp₁
  obtain rfl := Except.ok.inj hp₁
  rw [← hf₁, hf₂]

/-- **Order of calls.** Two chains on one statement with the same calls of each facet in the same order,
    the facets being interleaved in any way, both fail, or they give statements that send the same. -/
theorem applyAll_reordered (q : Statement) (hcalls : HaveFacets calls) (hcalls' : HaveFacets calls')
    (h : ∀ f, callsOf f calls = callsOf f calls') :
    (∃ e e', q.applyAll calls = .error e ∧ q.applyAll calls' = .error e') ∨
      ∃ q₁ q₂, q.applyAll calls = .ok q₁ ∧ q.applyAll calls' = .ok q₂ ∧ q₁.SameOutput q₂ := by
  cases h₁ : q.applyAll calls with
  | ok q₁ =>
    obtain ⟨q₂, h₂, hsame⟩ := sameOutput_of_callsOf_eq hcalls hcalls' h h₁
    exact .inr ⟨q₁, q₂, rfl, h₂, hsame⟩
  | error e =>
    cases h₂ : q.applyAll calls' with
    | error e' => exact .inl ⟨e, e', rfl, rfl⟩
    | ok q₂ =>
      obtain ⟨q₁, hok, _⟩ := sameOutput_of_callsOf_eq hcalls' hcalls (fun f => (h f).symm) h₂
      cases h₁.symm.trans hok

end Statement

/-! ## The table before and after a group -/

/-- Whether a good is cheap or on sale. -/
def cheapOrOnSale : Statement :=
  ((Statement.fresh {}).addWhere .and (.comparison (.named "price") "<" (.int 5)) [.int 5]).addWhere
    .or (.nullCheck (.named "sale") true) []

/-- The first goods that are cheap or on sale, together with old ones. -/
def tableFirst : List Call :=
  [.table (.named "goods"), .group .and cheapOrOnSale, .limit 9,
    .union true ((Statement.fresh {}).withTable (.named "old")), .orderBy (.named "id") .ascending]

/-- The same calls, with the table last; the limit is still set before the union, the order after. -/
def tableLast : List Call :=
  [.limit 9, .union true ((Statement.fresh {}).withTable (.named "old")), .group .and cheapOrOnSale,
    .orderBy (.named "id") .ascending, .table (.named "goods")]

/-- The group is over the goods in one statement and over no table in the other, and the texts are the
    same. -/
theorem sameOutput_tableLast :
    (HaveFacets tableFirst ∧ HaveFacets tableLast ∧
      ∀ f, callsOf f tableFirst = callsOf f tableLast) ∧
    ∃ q₁ q₂, (Statement.fresh {}).applyAll tableFirst = .ok q₁ ∧
      (Statement.fresh {}).applyAll tableLast = .ok q₂ ∧
      q₁.wheres = [⟨.and, .group (cheapOrOnSale.withTable (.named "goods"))⟩] ∧
      q₂.wheres = [⟨.and, .group cheapOrOnSale⟩] ∧ q₁.SameOutput q₂ := by
  have hfirst : HaveFacets tableFirst := by
    unfold HaveFacets tableFirst
    decide
  have hlast : HaveFacets tableLast := by
    unfold HaveFacets tableLast
    decide
  have hsame : ∀ f, callsOf f tableFirst = callsOf f tableLast := by
    intro f
    cases f <;> rfl
  refine ⟨⟨hfirst, hlast, hsame⟩, ?_⟩
  rcases Statement.applyAll_reordered (.fresh {}) hfirst hlast hsame with
    ⟨e, _, herror, _⟩ | ⟨q₁, q₂, h₁, h₂, houtput⟩
  · cases herror
  · refine ⟨q₁, q₂, h₁, h₂, ?_, ?_, houtput⟩
    · obtain rfl := Except.ok.inj h₁
      rfl
    · obtain rfl := Except.ok.inj h₂
      rfl

end FluentSql
