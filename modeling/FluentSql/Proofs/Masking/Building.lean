import FluentSql.Proofs.Masking.Rendering

/-!
# `Masking.Building` — calls do not look at bound values

A masked call makes of a masked statement what the call makes of the statement, masked: whether a call
fails, and what it adds apart from values, does not depend on the values. So chains of the same shape
fail with the same error or build statements with the same masked form, and those send the same texts
with equally many values: `Chain.sameText_build`.

## Contents
- What each step makes of a masked statement, and `Call.apply_mask`.
- `Call.maskSupplies`, masked calls with masked statements among their arguments.
- `Chain.map_mask_build`, chains of the same shape, and `Chain.sameText_build`.
-/

namespace FluentSql

/-! ## Steps on masked statements -/

namespace Statement

variable (connector : Connector)

theorem newQuery_mask (q : Statement) : q.mask.newQuery = q.newQuery.mask := by
  rw [newQuery, setting_mask]
  rfl

theorem mask_bind (q : Statement) (slot : BindingSlot) (values : List Value) :
    (q.bind slot values).mask = q.mask.bind slot (values.map Value.mask) := by
  simp only [mask_eq, bind, Bindings.mask_extend]

theorem mask_addWhere (q : Statement) (p : Predicate) (values : List Value) :
    (q.addWhere connector p values).mask =
      q.mask.addWhere connector p.mask (values.map Value.mask) := by
  simp only [mask_eq, addWhere, bind, Bindings.mask_extend, List.map_append]
  rfl

theorem compareNull_mask (q : Statement) (column : Reference) (operator : String) :
    q.mask.compareNull connector column operator =
      (q.compareNull connector column operator).map mask := by
  have hcheck : ∀ negated : Bool, q.mask.addWhere connector (.nullCheck column negated) [] =
      (q.addWhere connector (.nullCheck column negated) []).mask := by
    intro negated
    rw [mask_addWhere]
    rfl
  unfold compareNull
  split
  · exact congrArg Except.ok (hcheck false)
  · split
    · exact congrArg Except.ok (hcheck true)
    · rfl

theorem compareOperand_mask (q : Statement) (column : Reference) (operator : String)
    (operand : Operand) :
    q.mask.compareOperand connector column operator operand.mask =
      (q.compareOperand connector column operator operand).map mask := by
  cases operand with
  | query e =>
    refine congrArg Except.ok ?_
    rw [mask_addWhere, bound_mask]
    rfl
  | list values => rfl
  | value v =>
    cases v with
    | null => exact q.compareNull_mask connector column operator
    | _ =>
      refine congrArg Except.ok ?_
      rw [mask_addWhere]
      rfl

/-- A word that is no operator is a value, and any other such word would be one. -/
theorem resolveComparison_mask (column : Reference) (operator : Option String)
    (operand : Option Operand) :
    resolveComparison column (maskWord operator operand) (operand.map Operand.mask) =
      (resolveComparison column operator operand).map fun meant => (meant.1, meant.2.mask) := by
  have hempty : isOperator "" = false := by decide
  cases operator with
  | none => cases operand <;> rfl
  | some token =>
    cases operand with
    | none => rfl
    | some operand =>
      simp only [resolveComparison, maskWord, maskToken, Option.map_some]
      cases htoken : isOperator token with
      | true => simp [htoken, Except.map]
      | false => simp [hempty, Except.map, Operand.mask, Value.maskCompared, Value.mask]

theorem compare_mask (q : Statement) (column : Reference) (operator : Option String)
    (operand : Option Operand) :
    q.mask.compare connector column (maskWord operator operand) (operand.map Operand.mask) =
      (q.compare connector column operator operand).map mask := by
  unfold compare
  rw [resolveComparison_mask]
  cases resolveComparison column operator operand with
  | error e => rfl
  | ok meant => exact q.compareOperand_mask connector column meant.1 meant.2

theorem whereGroup_mask (q e : Statement) :
    q.mask.whereGroup connector e.mask = (q.whereGroup connector e).mask := by
  have hgroup : Predicate.mask (.group { e with table := q.table }) =
      .group { e.mask with table := q.mask.table } := by
    rw [Predicate.mask, mask_eq, mask_eq, mask_eq]
  have hempty : e.mask.wheres.isEmpty = e.wheres.isEmpty := by rw [mask_eq, List.isEmpty_map]
  have hvalues : e.mask.bindings.get .filter = (e.bindings.get .filter).map Value.mask := by
    rw [bindings_mask, Bindings.get_mask]
  unfold whereGroup
  rw [hempty, hvalues]
  split
  · rfl
  · rw [mask_addWhere, hgroup]

/-- Steps along a list that each commute with masking commute with it together. -/
theorem foldlM_mask {α : Type} {step : Statement → α → Except Error Statement} {f : α → α}
    (hstep : ∀ q x, step q.mask (f x) = (step q x).map mask) (q : Statement) (xs : List α) :
    (xs.map f).foldlM step q.mask = (xs.foldlM step q).map mask := by
  induction xs generalizing q with
  | nil => rfl
  | cons x xs ih =>
    rw [List.map_cons, List.foldlM_cons, List.foldlM_cons, hstep]
    cases step q x with
    | error e => rfl
    | ok q' => exact ih q'

theorem whereEqualities_mask (q : Statement) (pairs : List (String × Operand)) :
    q.mask.whereEqualities (pairs.map fun pair => (pair.1, pair.2.mask)) =
      (q.whereEqualities pairs).map mask :=
  foldlM_mask (fun q pair => q.compare_mask .and (.named pair.1) (some "=") (some pair.2)) q pairs

end Statement

theorem Join.bindings_mask (j : Join) : j.mask.bindings = j.bindings.map Value.mask := by
  have hvalue : ∀ c : JoinConstraint, c.mask.second.value? = c.second.value?.map Value.mask := by
    rintro ⟨connector, first, operator, second⟩
    cases second <;> rfl
  rw [bindings, bindings, ← Value.withoutRaw_map_mask, List.map_filterMap, mask, List.filterMap_map]
  exact congrArg _ (List.filterMap_congr fun c _ => hvalue c)

theorem Operand.text?_maskName (operand : Operand) : operand.maskName.text? = operand.text? := by
  cases operand <;> rfl

theorem Operand.text?_maskOperator (operand : Operand) :
    operand.maskOperator.text? = operand.text?.map maskToken := by
  cases operand with
  | value v => cases v <;> rfl
  | list values => rfl
  | query q => rfl

namespace Statement

theorem whereTriple_mask (q : Statement) (entry : List Operand) :
    q.mask.whereTriple (maskEntry entry) = (q.whereTriple entry).map mask := by
  match entry with
  | [column, operator, operand] =>
    simp only [whereTriple, maskEntry, Operand.text?_maskName, Operand.text?_maskOperator]
    cases column.text? with
    | none => rfl
    | some name =>
      cases operator.text? with
      | none => rfl
      | some token => exact q.compare_mask .and (.named name) (some token) (some operand)
  | [] | [_] | [_, _] => rfl
  | a :: b :: c :: d :: rest =>
    simp only [whereTriple, maskEntry, List.map_cons, List.length_cons, List.length_map]
    rfl

variable (connector : Connector)

theorem whereTriples_mask (q : Statement) (entries : List (List Operand)) :
    q.mask.whereTriples connector (entries.map maskEntry) =
      (q.whereTriples connector entries).map mask := by
  unfold whereTriples
  rw [newQuery_mask, foldlM_mask whereTriple_mask]
  cases entries.foldlM whereTriple q.newQuery with
  | error e => rfl
  | ok g => exact congrArg Except.ok (q.whereGroup_mask connector g)

theorem whereCondition_mask (q : Statement) (given : Condition) :
    q.mask.whereCondition connector given.mask = (q.whereCondition connector given).map mask := by
  cases given with
  | equalities pairs => exact q.whereEqualities_mask pairs
  | group e => exact congrArg Except.ok (q.whereGroup_mask connector e)
  | triples entries => exact q.whereTriples_mask connector entries
  | column column operator operand => exact q.compare_mask connector column operator operand

theorem whereIn_mask (q : Statement) (negated : Bool) (column : Reference) (source : Membership) :
    q.mask.whereIn connector negated column source.mask =
      (q.whereIn connector negated column source).mask := by
  cases source with
  | values values =>
    rw [whereIn, mask_addWhere]
    rfl
  | query e =>
    rw [whereIn, mask_addWhere, ← bound_mask]
    rfl

theorem mask_addHaving (q : Statement) (p : Predicate) (values : List Value) :
    (q.addHaving connector p values).mask =
      q.mask.addHaving connector p.mask (values.map Value.mask) := by
  simp only [mask_eq, addHaving, bind, Bindings.mask_extend, List.map_append]
  rfl

theorem isEmpty_unions_mask (q : Statement) : q.mask.unions.isEmpty = q.unions.isEmpty := by
  rw [mask_eq, List.isEmpty_map]

theorem mask_modifyTail (q : Statement) (f : Tail → Tail) :
    (q.modifyTail f).mask = q.mask.modifyTail f := by
  unfold modifyTail
  rw [isEmpty_unions_mask]
  split <;> simp only [mask_eq]

theorem mask_addOrder (q : Statement) (order : Order) :
    (q.addOrder order).mask = q.mask.addOrder order :=
  q.mask_modifyTail _

theorem mask_orderByRaw (q : Statement) (sql : String) (values : List Value) :
    (q.orderByRaw sql values).mask = q.mask.orderByRaw sql (values.map Value.mask) := by
  rw [orderByRaw, mask_bind, mask_addOrder, orderByRaw, isEmpty_unions_mask]

theorem mask_union (q e : Statement) (all : Bool) :
    (q.union all e).mask = q.mask.union all e.mask := by
  rw [mask_eq (q.union all e), mask_eq q]
  simp only [union, bind, bound_mask, Bindings.mask_extend, List.map_append]
  rfl

theorem mask_merge (q other : Statement) : (q.merge other).mask = q.mask.merge other.mask := by
  simp only [mask_eq, merge, Bindings.mask_merge, List.map_append]

theorem mask_addJoin (q : Statement) (j : Join) : (q.addJoin j).mask = q.mask.addJoin j.mask := by
  simp only [mask_eq, addJoin, bind, Join.bindings_mask, Bindings.mask_extend, List.map_append]
  rfl

theorem join_mask (q : Statement) (kind : JoinKind) (table first : Reference) (operator : String)
    (second : JoinTarget) :
    q.mask.join kind table first operator second.mask =
      (q.join kind table first operator second).map mask := by
  unfold join
  split
  · rfl
  · have hjoin := q.mask_addJoin (Join.add ⟨table, kind, []⟩ .and first operator second)
    exact congrArg Except.ok hjoin.symm

theorem mask_selectRaw (q : Statement) (sql : String) (values : List Value) :
    (q.selectRaw sql values).mask = q.mask.selectRaw sql (values.map Value.mask) := by
  simp only [mask_eq, selectRaw, addSelect, bind, Bindings.mask_extend]

theorem subselectBuilt_mask (source : Subselect) :
    subselectBuilt source.mask =
      (subselectBuilt source).map fun built => ⟨built.sql, built.bindings.map Value.mask⟩ := by
  cases source with
  | query e =>
    simp only [Subselect.mask, subselectBuilt, selectBuilt, selectSql_mask, bound_mask]
    cases e.selectSql <;> rfl
  | text sql =>
    simp only [Subselect.mask, subselectBuilt]
    split <;> rfl

theorem selectSub_mask (q : Statement) (source : Subselect) (label : String) :
    q.mask.selectSub source.mask label = (q.selectSub source label).map mask := by
  unfold selectSub
  rw [subselectBuilt_mask, setting_mask]
  cases subselectBuilt source with
  | error e => rfl
  | ok built =>
    exact congrArg Except.ok (q.mask_selectRaw _ built.bindings).symm

theorem selectAggregate_mask (q : Statement) (function : String) (columns : List Reference) :
    q.mask.selectAggregate function columns = (q.selectAggregate function columns).map mask := by
  unfold selectAggregate
  cases AggregateFunction.ofName function with
  | error e => rfl
  | ok known =>
    refine congrArg Except.ok ?_
    simp only [mask_eq]

end Statement

/-- **One call.** What a masked call makes of a masked statement is what the call makes of the statement,
    masked; if the call fails, so does the masked one, with the same error. -/
theorem Call.apply_mask (c : Call) (q : Statement) :
    c.mask.apply q.mask = (c.apply q).map Statement.mask := by
  cases c with
  | selectRaw sql values => exact congrArg Except.ok (q.mask_selectRaw sql values).symm
  | selectSub source label => exact q.selectSub_mask source label
  | join kind joined first operator second => exact q.join_mask kind joined first operator second
  | addJoin clause => exact congrArg Except.ok (q.mask_addJoin clause).symm
  | addJoinAs kind clause => exact congrArg Except.ok (q.mask_addJoin { clause with kind := kind }).symm
  | compare connector column operator operand => exact q.compare_mask connector column operator operand
  | condition connector given => exact q.whereCondition_mask connector given
  | group connector e => exact congrArg Except.ok (q.whereGroup_mask connector e)
  | whereRaw connector sql values =>
    exact congrArg Except.ok (q.mask_addWhere connector (.raw sql) values).symm
  | between connector negated column low high =>
    exact congrArg Except.ok
      (q.mask_addWhere connector (.between column low high negated) [low, high]).symm
  | existence connector negated e =>
    refine congrArg Except.ok ?_
    rw [Statement.whereExists, Statement.bound_mask]
    exact (q.mask_addWhere connector (.existence e negated) e.bound).symm
  | membership connector negated column source =>
    exact congrArg Except.ok (q.whereIn_mask connector negated column source)
  | nullCheck connector negated column =>
    exact congrArg Except.ok (q.mask_addWhere connector (.nullCheck column negated) []).symm
  | having connector column operator value =>
    exact congrArg Except.ok
      (q.mask_addHaving connector (.comparison column operator value) [value]).symm
  | havingRaw connector sql values =>
    exact congrArg Except.ok (q.mask_addHaving connector (.raw sql) values).symm
  | orderBy column direction => exact congrArg Except.ok (q.mask_addOrder (.column column direction)).symm
  | orderByRaw sql values => exact congrArg Except.ok (q.mask_orderByRaw sql values).symm
  | limit n => exact congrArg Except.ok (q.mask_modifyTail _).symm
  | offset n => exact congrArg Except.ok (q.mask_modifyTail _).symm
  | page number perPage =>
    refine congrArg Except.ok ?_
    simp only [Statement.forPage, Statement.limit, Statement.offset, Statement.mask_modifyTail]
  | union all e => exact congrArg Except.ok (q.mask_union e all).symm
  | aggregate function columns => exact q.selectAggregate_mask function columns
  | merge other => exact congrArg Except.ok (q.mask_merge other).symm
  | addBinding value slot => exact congrArg Except.ok (q.mask_bind slot [value]).symm
  | setBindings values slot =>
    refine congrArg Except.ok ?_
    simp only [Statement.mask_eq, Statement.setBindings, Bindings.mask_set]
  | newQuery => exact congrArg Except.ok q.newQuery_mask
  | forGroup =>
    refine congrArg Except.ok ?_
    rw [Statement.forGroup, Statement.newQuery_mask]
    simp only [Statement.mask_eq, Statement.forGroup]
  -- the other calls touch no clause that holds values
  | _ =>
    refine congrArg Except.ok ?_
    simp only [Statement.mask_eq, Statement.select, Statement.addSelect, Statement.onlyDistinct,
      Statement.withTable, Statement.groupBy, Statement.withLock]

/-! ## Statements among the arguments -/

/-- Masking a part masks the statements that it embeds, those that it is supplied with among them. -/
structure MaskSupplies {α : Type} (embedded : α → List Statement)
    (supply : List Statement → α → α) (mask : α → α) : Prop where
  embedded_mask : ∀ x, embedded (mask x) = (embedded x).map Statement.mask
  mask_supply : ∀ x queries, mask (supply queries x) = supply (queries.map Statement.mask) (mask x)

theorem mask_headD (queries : List Statement) (q : Statement) :
    (queries.headD q).mask = (queries.map Statement.mask).headD q.mask := by
  cases queries <;> rfl

theorem MaskSupplies.each {α : Type} {embedded : α → List Statement}
    {supply : List Statement → α → α} {mask : α → α} (h : MaskSupplies embedded supply mask) :
    MaskSupplies (fun xs => xs.flatMap embedded) (supplyEach embedded supply) (List.map mask) where
  embedded_mask xs := by
    rw [List.flatMap_map, List.map_flatMap]
    exact List.flatMap_congr fun x _ => h.embedded_mask x
  mask_supply xs queries := by
    induction xs generalizing queries with
    | nil => rfl
    | cons x xs ih =>
      rw [supplyEach, List.map_cons, h.mask_supply, ih, List.map_cons, supplyEach, h.embedded_mask,
        List.length_map, List.map_drop]

theorem maskSupplies_operand : MaskSupplies Operand.embedded Operand.supply Operand.mask where
  embedded_mask operand := by cases operand <;> rfl
  mask_supply operand queries := by
    cases operand with
    | query q => exact congrArg Operand.query (mask_headD queries q)
    | _ => rfl

theorem maskSupplies_name : MaskSupplies Operand.embedded Operand.supply Operand.maskName where
  embedded_mask operand := by cases operand <;> rfl
  mask_supply operand queries := by
    cases operand with
    | query q => exact congrArg Operand.query (mask_headD queries q)
    | _ => rfl

theorem maskSupplies_operator :
    MaskSupplies Operand.embedded Operand.supply Operand.maskOperator where
  embedded_mask operand := by
    cases operand with
    | value v => cases v <;> rfl
    | _ => rfl
  mask_supply operand queries := by
    cases operand with
    | query q => exact congrArg Operand.query (mask_headD queries q)
    | value v => cases v <;> rfl
    | list values => rfl

theorem maskSupplies_entry : MaskSupplies embeddedInEntry supplyEntry maskEntry where
  embedded_mask entry := by
    match entry with
    | [column, operator, operand] =>
      simp only [embeddedInEntry, maskEntry, List.flatMap_cons, List.flatMap_nil, List.map_append,
        List.map_nil, maskSupplies_name.embedded_mask, maskSupplies_operator.embedded_mask,
        maskSupplies_operand.embedded_mask]
    | [] | [_] | [_, _] | _ :: _ :: _ :: _ :: _ => exact maskSupplies_operand.each.embedded_mask _
  mask_supply entry queries := by
    match entry with
    | [column, operator, operand] =>
      simp only [supplyEntry, supplyEach, maskEntry, maskSupplies_name.mask_supply,
        maskSupplies_name.embedded_mask, maskSupplies_operator.mask_supply,
        maskSupplies_operator.embedded_mask, maskSupplies_operand.mask_supply, List.length_map,
        List.map_drop]
    | [] => rfl
    | [a] => exact maskSupplies_operand.each.mask_supply [a] queries
    | [a, b] => exact maskSupplies_operand.each.mask_supply [a, b] queries
    | a :: b :: c :: d :: rest =>
      exact maskSupplies_operand.each.mask_supply (a :: b :: c :: d :: rest) queries

theorem maskSupplies_pair :
    MaskSupplies (fun pair : String × Operand => pair.2.embedded)
      (fun queries pair => (pair.1, pair.2.supply queries)) fun pair => (pair.1, pair.2.mask) where
  embedded_mask pair := maskSupplies_operand.embedded_mask pair.2
  mask_supply pair queries := congrArg (Prod.mk pair.1) (maskSupplies_operand.mask_supply pair.2 queries)

theorem maskSupplies_optionalOperand :
    MaskSupplies (fun operand : Option Operand => operand.toList.flatMap Operand.embedded)
      (fun queries operand => operand.map fun operand => operand.supply queries)
      (Option.map Operand.mask) where
  embedded_mask operand := by
    cases operand with
    | none => rfl
    | some operand => exact maskSupplies_operand.each.embedded_mask [operand]
  mask_supply operand queries := by
    cases operand with
    | none => rfl
    | some operand => exact congrArg some (maskSupplies_operand.mask_supply operand queries)

/-- Whether there is an operand does not depend on the statement in it. -/
theorem maskWord_map (operator : Option String) (operand : Option Operand) (f : Operand → Operand) :
    maskWord operator (operand.map f) = maskWord operator operand := by
  cases operator <;> cases operand <;> rfl

theorem maskSupplies_condition :
    MaskSupplies Condition.embedded Condition.supply Condition.mask where
  embedded_mask given := by
    cases given with
    | equalities pairs => exact maskSupplies_pair.each.embedded_mask pairs
    | group q => rfl
    | triples entries => exact maskSupplies_entry.each.embedded_mask entries
    | column name operator operand => exact maskSupplies_optionalOperand.embedded_mask operand
  mask_supply given queries := by
    cases given with
    | equalities pairs =>
      exact congrArg Condition.equalities (maskSupplies_pair.each.mask_supply pairs queries)
    | group q => exact congrArg Condition.group (mask_headD queries q)
    | triples entries =>
      exact congrArg Condition.triples (maskSupplies_entry.each.mask_supply entries queries)
    | column name operator operand =>
      simp only [Condition.supply, Condition.mask, maskWord_map,
        maskSupplies_optionalOperand.mask_supply]

theorem maskSupplies_membership :
    MaskSupplies Membership.embedded Membership.supply Membership.mask where
  embedded_mask source := by cases source <;> rfl
  mask_supply source queries := by
    cases source with
    | query q => exact congrArg Membership.query (mask_headD queries q)
    | values vs => rfl

theorem maskSupplies_subselect :
    MaskSupplies Subselect.embedded Subselect.supply Subselect.mask where
  embedded_mask source := by cases source <;> rfl
  mask_supply source queries := by
    cases source with
    | query q => exact congrArg Subselect.query (mask_headD queries q)
    | text sql => rfl

/-- **A call** with other statements among its arguments, masked, is the masked call with the masked
    ones. -/
theorem Call.maskSupplies : MaskSupplies Call.embedded Call.supply Call.mask where
  embedded_mask c := by
    cases c with
    | selectSub source label => exact maskSupplies_subselect.embedded_mask source
    | compare connector column operator operand =>
      exact maskSupplies_optionalOperand.embedded_mask operand
    | condition connector given => exact maskSupplies_condition.embedded_mask given
    | membership connector negated column source =>
      exact maskSupplies_membership.embedded_mask source
    | _ => rfl
  mask_supply c queries := by
    cases c with
    | selectSub source label =>
      exact congrArg (Call.selectSub · label) (maskSupplies_subselect.mask_supply source queries)
    | compare connector column operator operand =>
      simp only [Call.supply, Call.mask, maskWord_map, maskSupplies_optionalOperand.mask_supply]
    | condition connector given =>
      exact congrArg (Call.condition connector) (maskSupplies_condition.mask_supply given queries)
    | group connector q => exact congrArg (Call.group connector) (mask_headD queries q)
    | existence connector negated q =>
      exact congrArg (Call.existence connector negated) (mask_headD queries q)
    | membership connector negated column source =>
      exact congrArg (Call.membership connector negated column)
        (maskSupplies_membership.mask_supply source queries)
    | union all q => exact congrArg (Call.union all) (mask_headD queries q)
    | merge q => exact congrArg Call.merge (mask_headD queries q)
    | _ => rfl

/-! ## Chains -/

/-- Masking the results of several computations. -/
theorem mapM_map {α β : Type} (f : α → β) (xs : List (Except Error α)) :
    (xs.map (Except.map f)).mapM id = (xs.mapM id).map (List.map f) := by
  induction xs with
  | nil => rfl
  | cons x xs ih =>
    rw [List.map_cons, List.mapM_cons, List.mapM_cons, ih]
    cases x with
    | error e => rfl
    | ok a =>
      cases xs.mapM id <;> rfl

namespace Chain

/-- The statement of a call, masked, takes no more of the chain before it and of the statements among its
    arguments than their masked forms. -/
theorem map_mask_build_call (chain : Chain) (step : Call)
    (source : Fin step.embedded.length → Chain) :
    (Chain.call chain step source).build.map Statement.mask =
      chain.build.map Statement.mask >>= fun q =>
        (List.ofFn fun i => (source i).build.map Statement.mask).mapM id >>= fun queries =>
          (step.mask.supply queries).apply q := by
  have hsources : (List.ofFn fun i => (source i).build.map Statement.mask).mapM id =
      ((List.ofFn fun i => (source i).build).mapM id).map (List.map Statement.mask) := by
    rw [← mapM_map, List.map_ofFn]
    rfl
  rw [hsources, build, run]
  change (chain.build >>= _).map _ = _
  cases chain.build with
  | error e => rfl
  | ok q =>
    change ((List.ofFn fun i => (source i).build).mapM id >>= _).map _ = _
    cases (List.ofFn fun i => (source i).build).mapM id with
    | error e => rfl
    | ok queries =>
      change ((step.supply queries).apply q).map Statement.mask =
        (step.mask.supply (queries.map Statement.mask)).apply q.mask
      rw [← Call.maskSupplies.mask_supply, Call.apply_mask]

/-- Calls with the same masked form have equally many statements among their arguments. -/
theorem length_embedded_eq {step step' : Call} (h : step.mask = step'.mask) :
    step.embedded.length = step'.embedded.length := by
  have hlength : ∀ c : Call, c.mask.embedded.length = c.embedded.length := by
    intro c
    rw [Call.maskSupplies.embedded_mask, List.length_map]
  rw [← hlength step, h, hlength]

/-- **Chains of the same shape** fail with the same error, or build statements with the same masked
    form. -/
theorem map_mask_build {chain chain' : Chain} (h : chain.SameShape chain') :
    chain.build.map Statement.mask = chain'.build.map Statement.mask := by
  induction h with
  | fresh setting => rfl
  | @call chain chain' step step' source source' _ hstep _ ih ihs =>
    have hsources : (List.ofFn fun i => (source i).build.map Statement.mask) =
        List.ofFn fun i => (source' i).build.map Statement.mask := by
      rw [List.ofFn_congr (length_embedded_eq hstep)]
      exact congrArg List.ofFn (funext fun i => ihs _ i rfl)
    rw [map_mask_build_call, map_mask_build_call, ih, hstep, hsources]

/-- **Bound values do not influence the text.** Chains that make the same calls but for the values in
    them fail with the same error, or build statements that send the same texts, or fail to with the same
    error, with equally many values. -/
theorem sameText_build {chain chain' : Chain} (h : chain.SameShape chain') :
    (∃ e, chain.build = .error e ∧ chain'.build = .error e) ∨
      ∃ q q', chain.build = .ok q ∧ chain'.build = .ok q' ∧ q.SameText q' := by
  have hmask := map_mask_build h
  cases hq : chain.build with
  | error e =>
    cases hq' : chain'.build with
    | error e' =>
      rw [hq, hq'] at hmask
      obtain rfl : e = e' := Except.error.inj hmask
      exact .inl ⟨e, rfl, rfl⟩
    | ok q' =>
      rw [hq, hq'] at hmask
      cases hmask
  | ok q =>
    rw [hq] at hmask
    obtain ⟨q', hq', hmasked⟩ := map_eq_ok.mp hmask.symm
    exact .inr ⟨q, q', rfl, hq', Statement.sameText_of_mask_eq hmasked.symm⟩

end Chain

/-! ## A name with quotes in place of another one -/

/-- The goods that a customer has ordered at a price, of which there are some left. The customer stands
    where an operator is expected. -/
def orderedAt (customer : String) (price stock : Value) : Chain :=
  let orders := ((Chain.fresh {}).plain (.table (.named "orders"))).plain
    (.condition .and (.triples
      [[.value (.text "customer"), .value (.text customer), .value .null],
       [.value (.text "price"), .value (.text "<"), .value price]]))
  Chain.call ((Chain.fresh {}).plain (.table (.named "goods")))
    (.membership .and false (.named "id") (.query (.fresh {}))) (fun _ => orders)
    |>.plain (.having .or (.named "stock") ">" stock)

/-- A name with quotes is bound as any other one, and so is a null on groups. -/
theorem sameText_quotedCustomer :
    (orderedAt "ann" (.int 5) (.int 0)).SameShape (orderedAt "' OR 1 = 1" (.text "") .null) ∧
      ∃ q q', (orderedAt "ann" (.int 5) (.int 0)).build = .ok q ∧
        (orderedAt "' OR 1 = 1" (.text "") .null).build = .ok q' ∧
        q.bound = [.text "ann", .int 5, .int 0] ∧
        q'.bound = [.text "' OR 1 = 1", .text "", .null] ∧ q.SameText q' := by
  have hshape :
      (orderedAt "ann" (.int 5) (.int 0)).SameShape (orderedAt "' OR 1 = 1" (.text "") .null) := by
    refine .plain (.call (.plain (.fresh {}) rfl) rfl fun _ _ _ => ?_) rfl
    exact .plain (.plain (.fresh {}) rfl) rfl
  refine ⟨hshape, ?_⟩
  rcases Chain.sameText_build hshape with ⟨e, herror, _⟩ | ⟨q, q', hq, hq', htext⟩
  · cases herror
  · refine ⟨q, q', hq, hq', ?_, ?_, htext⟩
    · obtain rfl := Except.ok.inj hq
      rfl
    · obtain rfl := Except.ok.inj hq'
      rfl

end FluentSql
