import FluentSql.Proofs.Alignment.Clean
import FluentSql.Proofs.Alignment.Filtering

/-!
# `Alignment.Twin` — a statement and its inlined twin

The twin of a statement is what the same calls build when they are inlined. Clause by clause it is the
same statement, with a literal at every place where a value of the clause's bindings belongs.

## Contents
- `Twin`, the relation, and its clauses under the changes that calls make.
- `Given`, what the statements among the arguments of a call have to satisfy.
- `Call.twin_apply`: one call keeps the relation, and the inlined call succeeds.
-/

namespace FluentSql

/-- Two joins; the second has literals. -/
def JoinTwin (lit : Literals) (vs : List Value) (j j' : Join) : Prop :=
  ∀ d : Dialect, d.QuestionMarked → Fills lit vs (d.renderJoin j) (d.renderJoin j')

/-- The columns of two statements. Of the values that the projection binds, some may belong to columns
    that are gone. -/
def ColumnsTwin (usage : Usage) (lit : Literals) (values : List Value)
    (columns columns' : List Reference) : Prop :=
  ∃ used, usage.Uses used values ∧ InOrder (ColumnTwin usage lit) used columns columns'

/-- **Twins.** Clauses that take values have them in order; the others are the same. Columns and unions
    count only if the whole statement does. -/
structure Twin (usage : Usage) (lit : Literals) (part : Part) (q p : Statement) : Prop where
  setting : p.setting = q.setting
  bindings : p.bindings = .empty
  aggregate : p.aggregate = q.aggregate
  distinct : p.distinct = q.distinct
  table : p.table = q.table
  groups : p.groups = q.groups
  tail : p.tail = q.tail
  unionTail : p.unionTail = q.unionTail
  lock : p.lock = q.lock
  unionCount : p.unions.length = q.unions.length
  joins : InOrder (JoinTwin lit) q.bindings.join q.joins p.joins
  wheres : InOrder (CriterionTwin usage lit) q.bindings.filter q.wheres p.wheres
  havings : InOrder (CriterionTwin .exact lit) q.bindings.having q.havings p.havings
  columns : part = .whole → ColumnsTwin usage lit q.bindings.projection q.columns p.columns
  unions : part = .whole → InOrder (MemberTwin usage lit) q.bindings.union q.unions p.unions

variable {usage : Usage} {lit : Literals} {part : Part} {q q' p : Statement}

/-! ## Columns -/

namespace ColumnsTwin

variable {vs ws : List Value} {columns columns' others others' : List Reference}

theorem append (h : ColumnsTwin usage lit vs columns columns')
    (h' : ColumnsTwin usage lit ws others others') :
    ColumnsTwin usage lit (vs ++ ws) (columns ++ others) (columns' ++ others') := by
  obtain ⟨us, hus, hcolumns⟩ := h
  obtain ⟨us', hus', hothers⟩ := h'
  exact ⟨us ++ us', hus.append hus', hcolumns.append hothers⟩

theorem of_unmarked (h : ∀ c ∈ columns, c.Unmarked) : ColumnsTwin usage lit [] columns columns := by
  have hcolumns : InOrder (ColumnTwin usage lit) [] columns (columns.map id) :=
    .of_forall id fun c hc => .of_unmarked (h c hc)
  rw [List.map_id] at hcolumns
  exact ⟨[], .refl usage [], hcolumns⟩

/-- Raw text with its values. -/
theorem raw {sql sql' : String} (h : Fits usage lit vs sql sql') :
    ColumnsTwin usage lit vs [.raw sql] [.raw sql'] :=
  ⟨vs, .refl usage vs, .singleton (.raw h)⟩

/-- A projection that was replaced leaves its values behind. -/
theorem replace (hused : usage = .exact → vs = []) (h : ∀ c ∈ columns, c.Unmarked) :
    ColumnsTwin usage lit vs columns columns := by
  have hsame : ColumnsTwin usage lit [] columns columns := of_unmarked h
  obtain ⟨us, hus, hcolumns⟩ := hsame
  cases usage with
  | exact => rw [hused rfl]; exact ⟨us, hus, hcolumns⟩
  | loose =>
    obtain rfl : us = [] := List.sublist_nil.mp hus
    exact ⟨[], List.nil_sublist vs, hcolumns⟩

/-- Twins have the same names among their columns. -/
theorem named_mem_iff (h : InOrder (ColumnTwin usage lit) vs columns columns') {name : String} :
    Reference.named name ∈ columns ↔ Reference.named name ∈ columns' := by
  induction h with
  | nil => exact Iff.rfl
  | cons hxy _ ih =>
    rw [List.mem_cons, List.mem_cons, ih]
    refine or_congr ?_ Iff.rfl
    cases hxy with
    | named h => exact Iff.rfl
    | raw h => exact ⟨fun h => (nomatch h), fun h => (nomatch h)⟩

/-- Names that are left out take no values. -/
theorem appendColumns (h : ColumnsTwin usage lit vs columns columns')
    (h' : ColumnsTwin usage lit ws others others') :
    ColumnsTwin usage lit (vs ++ ws) (FluentSql.appendColumns columns others)
      (FluentSql.appendColumns columns' others') := by
  obtain ⟨us, hus, hcolumns⟩ := h
  obtain ⟨us', hus', hothers⟩ := h'
  refine ⟨us ++ us', hus.append hus', ?_⟩
  clear hus hus'
  induction hothers generalizing us columns columns' with
  | nil => rw [List.append_nil]; exact hcolumns
  | @cons vs ws x y xs ys hxy _ ih =>
    -- the column joins those that are there, whose values grow by its own
    simp only [FluentSql.appendColumns, List.foldl_cons] at ih ⊢
    rw [← List.append_assoc]
    refine ih (us ++ vs) ?_
    cases hxy with
    | raw h => exact hcolumns.concat (.raw h)
    | @named name h =>
      -- a name that is left out on one side is left out on the other, and takes no value
      by_cases hmem : Reference.named name ∈ columns
      · rw [if_pos ⟨rfl, hmem⟩, if_pos ⟨rfl, (named_mem_iff hcolumns).mp hmem⟩, List.append_nil]
        exact hcolumns
      · rw [if_neg fun hc => hmem hc.2, if_neg fun hc => hmem ((named_mem_iff hcolumns).mpr hc.2)]
        exact hcolumns.concat (.named h)

end ColumnsTwin

/-! ## Clauses under the changes that calls make -/

theorem Bindings.extend_eq_self {b : Bindings} (slot : BindingSlot) {values : List Value}
    (h : Value.withoutRaw values = []) : b.extend slot values = b := by
  cases slot <;> simp [extend, modify, h]

theorem Statement.bind_eq_self {slot : BindingSlot} {values : List Value}
    (h : Value.withoutRaw values = []) : p.bind slot values = p := by
  cases p
  rw [bind, Bindings.extend_eq_self slot h]

theorem Join.bindings_inline (j : Join) : (j.inline lit).bindings = [] := by
  simp only [bindings, Value.withoutRaw, inline, List.filterMap_map]
  refine List.filter_eq_nil_iff.mpr fun v hv => ?_
  obtain ⟨c, _, hc⟩ := List.mem_filterMap.mp hv
  cases hsecond : c.second with
  | column r => simp [JoinConstraint.inline, hsecond, JoinTarget.inline, JoinTarget.value?] at hc
  | value w =>
    have hw : w.inline lit = v := by
      simpa [JoinConstraint.inline, hsecond, JoinTarget.inline, JoinTarget.value?] using hc
    simp [← hw, Value.isRaw_inline]

namespace Twin

/-- Fresh statements. -/
theorem fresh (setting : Setting) : Twin usage lit part (.fresh setting) (.fresh setting) where
  setting := rfl
  bindings := rfl
  aggregate := rfl
  distinct := rfl
  table := rfl
  groups := rfl
  tail := rfl
  unionTail := rfl
  lock := rfl
  unionCount := rfl
  joins := .nil
  wheres := .nil
  havings := .nil
  columns _ := ⟨[], .refl usage [], .nil⟩
  unions _ := .nil

/-- The twin binds nothing. -/
theorem bound_eq_nil (h : Twin usage lit part q p) : p.bound = [] := by
  rw [Statement.bound, h.bindings]
  rfl

/-- Conditions on rows. -/
theorem of_alike (h : Twin usage lit part q p) {r : Except Error Statement}
    (halike : Alike usage lit q q' p r) : ∃ p', r = .ok p' ∧ Twin usage lit part q' p' := by
  obtain ⟨criteria, criteria', values, values', rfl, hr, hraw, hcriteria⟩ := halike
  refine ⟨_, hr, { h with
    bindings := ?_
    wheres := h.wheres.append hcriteria }⟩
  exact (Bindings.extend_eq_self .filter hraw).trans h.bindings

/-- Raw columns. -/
theorem selectRaw (h : Twin usage lit part q p) {sql sql' : String} {values : List Value}
    (htext : part = .whole → Fits usage lit (Value.withoutRaw values) sql sql') :
    Twin usage lit part (q.selectRaw sql values) (p.selectRaw sql' []) :=
  { h with
    bindings := (Bindings.extend_eq_self .projection rfl).trans h.bindings
    columns := fun hpart => (h.columns hpart).append (.raw (htext hpart)) }

/-- A join. -/
theorem addJoin (h : Twin usage lit part q p) {j : Join} (hj : j.Unmarked) :
    Twin usage lit part (q.addJoin j) (p.addJoin (j.inline lit)) := by
  have hraw : Value.withoutRaw (j.inline lit).bindings = [] := by rw [j.bindings_inline]; rfl
  have hvalues : Value.withoutRaw j.bindings = j.bindings := Value.withoutRaw_withoutRaw _
  refine { h with
    bindings := (Bindings.extend_eq_self .join hraw).trans h.bindings
    joins := ?_ }
  show InOrder (JoinTwin lit) (q.bindings.join ++ Value.withoutRaw j.bindings) _ _
  rw [hvalues]
  exact h.joins.concat fun d hd => fills_join hd hj

/-- A condition on groups of rows. -/
theorem addHaving (h : Twin usage lit part q p) {connector : Connector}
    {predicate predicate' : Predicate} {values values' : List Value}
    (htext : ∀ d : Dialect, d.QuestionMarked → Tracks .exact lit (Value.withoutRaw values)
      (d.predicateText predicate) (d.predicateText predicate'))
    (hvalues : Value.withoutRaw values' = []) :
    Twin usage lit part (q.addHaving connector predicate values)
      (p.addHaving connector predicate' values') :=
  { h with
    bindings := (Bindings.extend_eq_self .having hvalues).trans h.bindings
    havings := h.havings.concat ⟨rfl, htext⟩ }

/-- A change of the tail in force: it is the same one for both. -/
theorem modifyTail (h : Twin usage lit part q p) (f : Tail → Tail) :
    Twin usage lit part (q.modifyTail f) (p.modifyTail f) := by
  have hempty : p.unions.isEmpty = q.unions.isEmpty := by
    rw [Bool.eq_iff_iff, List.isEmpty_iff_length_eq_zero, List.isEmpty_iff_length_eq_zero,
      h.unionCount]
  unfold Statement.modifyTail
  rw [hempty]
  split
  · exact { h with tail := congrArg f h.tail }
  · exact { h with unionTail := congrArg f h.unionTail }

/-- A raw order; the inlined one has lost its values. -/
theorem orderByRaw (h : Twin usage lit part q p) (sql : String) (values : List Value) :
    Twin usage lit part (q.orderByRaw sql values) (p.orderByRaw sql []) := by
  have hadd : Twin usage lit part (q.addOrder (.raw sql)) (p.addOrder (.raw sql)) := h.modifyTail _
  unfold Statement.orderByRaw
  rw [Statement.bind_eq_self (p := p.addOrder (.raw sql)) rfl]
  split <;> exact { hadd with }

/-- Statements without conditions, for a group or for anything else. -/
theorem newQuery (h : Twin usage lit part q p) : Twin usage lit part q.newQuery p.newQuery := by
  rw [Statement.newQuery, Statement.newQuery, h.setting]
  exact .fresh q.setting

theorem forGroup (h : Twin usage lit part q p) : Twin usage lit part q.forGroup p.forGroup :=
  { h.newQuery with table := h.table }

/-- A member of a union. -/
theorem union (h : Twin usage lit part q p) {e e' : Statement} (all : Bool)
    (hbound : e'.bound = []) (htext : part = .whole → CompiledTwin usage lit e e') :
    Twin usage lit part (q.union all e) (p.union all e') := by
  refine { h with
    bindings := (Bindings.extend_eq_self .union (by rw [hbound]; rfl)).trans h.bindings
    unionCount := by
      simp only [Statement.union, List.length_append, h.unionCount, List.length_singleton]
    unions := fun hpart => ?_ }
  obtain ⟨hraw, _, htext⟩ := htext hpart
  show InOrder (MemberTwin usage lit) (q.bindings.union ++ Value.withoutRaw e.bound) _ _
  rw [Statement.bound, hraw.withoutRaw_flatten]
  exact (h.unions hpart).concat ⟨rfl, htext⟩

/-- Clause by clause, one statement folded into another. -/
theorem merge (h : Twin usage lit part q p) {e e' : Statement} (hraw : e.bindings.RawFree)
    (h' : Twin usage lit part e e') : Twin usage lit part (q.merge e) (p.merge e') := by
  -- merging leaves raw values out, of which there are none
  have hget : ∀ slot, (q.merge e).bindings.get slot = q.bindings.get slot ++ e.bindings.get slot := by
    intro slot
    rw [show (q.merge e).bindings = q.bindings.merge e.bindings from rfl, Bindings.get_merge,
      hraw slot]
  refine { h with
    bindings := ?_
    distinct := by simp only [Statement.merge, h.distinct, h'.distinct]
    groups := by simp only [Statement.merge, h.groups, h'.groups]
    tail := by simp only [Statement.merge, h.tail, h'.tail]
    unionTail := by simp only [Statement.merge, h.unionTail, h'.unionTail]
    unionCount := by simp only [Statement.merge, List.length_append, h.unionCount, h'.unionCount]
    joins := ?_
    wheres := ?_
    havings := ?_
    columns := fun hpart => ?_
    unions := fun hpart => ?_ }
  · show p.bindings.merge e'.bindings = .empty
    rw [h.bindings, h'.bindings]
    rfl
  · show InOrder (JoinTwin lit) ((q.merge e).bindings.get .join) _ _
    rw [hget]
    exact h.joins.append h'.joins
  · show InOrder (CriterionTwin usage lit) ((q.merge e).bindings.get .filter) _ _
    rw [hget]
    exact h.wheres.append h'.wheres
  · show InOrder (CriterionTwin .exact lit) ((q.merge e).bindings.get .having) _ _
    rw [hget]
    exact h.havings.append h'.havings
  · show ColumnsTwin usage lit ((q.merge e).bindings.get .projection) _ _
    rw [hget]
    exact (h.columns hpart).appendColumns (h'.columns hpart)
  · show InOrder (MemberTwin usage lit) ((q.merge e).bindings.get .union) _ _
    rw [hget]
    exact (h.unions hpart).append (h'.unions hpart)

/-- What a group takes over. -/
theorem groupTwin (h : Twin usage lit part q p) (hraw : q.bindings.RawFree) :
    GroupTwin usage lit q p where
  rawFree := hraw
  bound := by rw [h.bindings]; rfl
  wheres := h.wheres

end Twin

/-! ## Calls -/

/-- What is known of a statement among the arguments of a call and of its twin. That the twin is
    rendered at all does not depend on the values. -/
structure Given (usage : Usage) (lit : Literals) (part : Part) (role : Role) (e e' : Statement) : Prop
    extends FilterTwin usage lit role e e' where
  clean : e.Clean
  setting : e'.setting = e.setting
  rendered : CompiledTwin .loose lit e e'
  merged : role = .merged → Twin usage lit part e e'

/-- **A subselect.** It is rendered on the spot, and its text becomes a raw column. -/
theorem Twin.selectSub (h : Twin usage lit part q p) (hq : q.Clean) {label : String}
    (hlabel : Text.Unmarked label) {e e' : Statement}
    (he : Given usage lit part (if part = .whole then .compiled else .unused) e e')
    (hsub : q.selectSub (.query e) label = .ok q') :
    ∃ p', p.selectSub (.query e') label = .ok p' ∧ Twin usage lit part q' p' := by
  obtain ⟨built, hbuilt, hq'⟩ := bind_eq_ok.mp hsub
  obtain ⟨sql, hsql, rfl⟩ := map_eq_ok.mp hbuilt
  obtain rfl := Except.ok.inj hq'
  obtain ⟨sql', hsql', _⟩ := he.rendered.text _ he.clean.dialect sql hsql
  refine ⟨_, bind_eq_ok.mpr ⟨⟨sql', e'.bound⟩, map_eq_ok.mpr ⟨sql', ?_, rfl⟩, rfl⟩, ?_⟩
  · rw [Statement.selectSql, he.setting]
    exact hsql'
  rw [he.rendered.bound, h.setting]
  -- that both render is known already; where its columns count, the text is compared once more
  refine h.selectRaw fun hpart => ?_
  have hcompiled : CompiledTwin usage lit e e' := he.compiled (if_pos hpart)
  obtain ⟨t, ht, us, hus, hfills⟩ := hcompiled.text _ he.clean.dialect sql hsql
  obtain rfl : sql' = t := Except.ok.inj (hsql'.symm.trans ht)
  rw [Statement.bound, hcompiled.rawFree.withoutRaw_flatten]
  refine ⟨us, hus, ((hfills.prepend (by decide)).append_unmarked (by decide)).append_unmarked ?_⟩
  exact hq.dialect.quoteColumn hlabel

/-- A subselect that is given as text. -/
theorem Twin.selectText (h : Twin usage lit part q p) (hq : q.Clean) {sql label : String}
    (hsql : Text.Unmarked sql) (hlabel : Text.Unmarked label)
    (hsub : q.selectSub (.text sql) label = .ok q') :
    ∃ p', p.selectSub (.text sql) label = .ok p' ∧ Twin usage lit part q' p' := by
  obtain ⟨built, hbuilt, hq'⟩ := bind_eq_ok.mp hsub
  obtain rfl := Except.ok.inj hq'
  refine ⟨_, bind_eq_ok.mpr ⟨built, hbuilt, rfl⟩, ?_⟩
  rw [Statement.subselectBuilt] at hbuilt
  split at hbuilt
  · cases hbuilt
  · obtain rfl := Except.ok.inj hbuilt
    rw [h.setting]
    refine h.selectRaw fun _ => .of_fills (.of_unmarked ?_)
    exact .append (.append (.append (by decide) hsql) (by decide)) (hq.dialect.quoteColumn hlabel)

/-- **One call.** The inlined call succeeds where the call does, and the results are twins. Columns may
    be replaced where all values are used only if they have none. -/
theorem Call.twin_apply {step : Call} (h : Twin usage lit part q p) (hq : q.Clean)
    (hc : step.WellMarked) {es es' : List Statement} (hlen : es.length = step.embedded.length)
    (hes : List.Forall₂ (Given usage lit part (step.role part)) es es')
    (hselect : usage = .exact → part = .whole → ∀ columns, step = .select columns →
      q.bindings.projection = [])
    (happly : (step.supply es).apply q = .ok q') :
    ∃ p', ((step.supply es').inline lit).apply p = .ok p' ∧ Twin usage lit part q' p' := by
  by_cases hfilters : step.Filters
  · exact h.of_alike (alike_apply hfilters hc hlen (hes.imp fun _ _ he => he.toFilterTwin) happly)
  have hle : step.embedded.length ≤ es.length := Nat.le_of_eq hlen.symm
  cases step <;> try exact absurd trivial hfilters
  -- three calls can be refused: the inlined call has to succeed where they do
  case selectSub source label =>
    cases source with
    | query e => exact h.selectSub hq hc.2 (forall₂_headD hes hle e) happly
    | text sql => exact h.selectText hq hc.1 hc.2 happly
  case join kind joined first operator second =>
    simp only [supply, inline, apply, Statement.join] at happly ⊢
    by_cases hblank : Statement.isBlankName first = true
    · rw [if_pos hblank] at happly
      cases happly
    · rw [if_neg hblank] at happly ⊢
      obtain rfl := Except.ok.inj happly
      refine ⟨_, rfl, h.addJoin ⟨hc.1, fun c hmem => ?_⟩⟩
      obtain rfl := List.mem_singleton.mp hmem
      exact hc.2
  case aggregate function columns =>
    obtain ⟨meant, hmeant, happly⟩ := bind_eq_ok.mp happly
    obtain rfl := Except.ok.inj happly
    exact ⟨_, bind_eq_ok.mpr ⟨meant, hmeant, rfl⟩, { h with aggregate := rfl }⟩
  case addBinding => exact hc.elim
  case setBindings => exact hc.elim
  -- the others always succeed, and only the clauses are left to compare
  all_goals
    obtain rfl := Except.ok.inj happly
    refine ⟨_, rfl, ?_⟩
  case select columns =>
    exact { h with
      columns := fun hpart => .replace (fun husage => hselect husage hpart columns rfl) hc }
  case addSelect column =>
    refine { h with columns := fun hpart => ?_ }
    have hone : ColumnsTwin usage lit [] [column] [column] :=
      .of_unmarked fun c hmem => List.mem_singleton.mp hmem ▸ hc
    have happend := (h.columns hpart).append hone
    rwa [List.append_nil] at happend
  case selectRaw sql values => exact h.selectRaw fun _ => .of_fills (fills_inlineFragment hc)
  case distinct => exact { h with distinct := rfl }
  case table reference => exact { h with table := rfl }
  case addJoin clause => exact h.addJoin hc
  case addJoinAs kind clause => exact h.addJoin hc
  case groupBy columns => exact { h with groups := congrArg (· ++ columns) h.groups }
  case having connector column operator value =>
    exact h.addHaving (fun d hd => .of_fills (fills_comparison hd hc.1 hc.2.1 hc.2.2))
      (Value.withoutRaw_inline value)
  case havingRaw connector sql values =>
    exact h.addHaving (fun d hd => .of_fills (fills_inlineFragment hc)) rfl
  case orderBy column direction =>
    exact h.modifyTail fun tail => { tail with orders := tail.orders ++ [.column column direction] }
  case orderByRaw sql values => exact h.orderByRaw sql values
  case limit n => exact h.modifyTail _
  case offset n => exact h.modifyTail _
  case page number perPage =>
    have hoffset : Twin usage lit part (q.offset ((number - 1) * perPage))
        (p.offset ((number - 1) * perPage)) := h.modifyTail _
    exact hoffset.modifyTail fun tail => { tail with limit := some perPage }
  case union all e =>
    have he := forall₂_headD hes hle e
    exact h.union all he.rendered.bound fun hpart => he.compiled (if_pos hpart)
  case lock mode => exact { h with lock := rfl }
  case merge e =>
    have he := forall₂_headD hes hle e
    exact h.merge he.rendered.rawFree (he.merged rfl)
  case newQuery => exact h.newQuery
  case forGroup => exact h.forGroup

end FluentSql
