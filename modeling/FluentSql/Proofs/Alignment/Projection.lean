import FluentSql.Proofs.Alignment.Simulation
import FluentSql.Proofs.Sending

/-!
# `Alignment.Projection` — other columns, or an aggregate, in place of a projection

Selecting other columns, or a function over columns, takes the text of a projection away and leaves its
values bound. The new statement has as many markers as values exactly if there were no such values.

## Contents
- `Built.Aligned`, as many markers as values.
- `Statement.Reprojected`, statements that differ in columns, aggregate and numbers alone, and
  `Statement.Reprojected.aligned_iff`.
- `Chain.reprojections_aligned_iff`, for all operations that replace the projection.
-/

namespace FluentSql

/-- There are as many markers as values. -/
def Built.Aligned (built : Built) : Prop :=
  Text.markers built.sql = built.bindings.length

/-! ## Counting markers -/

namespace Fills

/-- Every text is filled by as many values as it has markers. -/
theorem exists_values (lit : Literals) (s : String) : ∃ vs t, Fills lit vs s t := by
  have hlen : s.toList.count '?' =
      ((List.replicate (Text.markers s) Value.null).map fun v => (lit.text v).toList).length := by
    rw [List.length_map, List.length_replicate, Text.markers]
  obtain ⟨t, ht⟩ := Text.Filled.exists_of_count_eq hlen
  exact ⟨_, String.ofList t, by rw [Fills, String.toList_ofList]; exact ht⟩

end Fills

namespace Text

theorem markers_trim (s : String) : markers (trim s) = markers s := by
  obtain ⟨vs, t, h⟩ := Fills.exists_values default s
  rw [h.trim.markers_eq, h.markers_eq]

/-- Leaving out empty parts leaves out no marker. -/
theorem markers_joinParts (xs : List String) :
    markers (joinParts xs) = xs.foldr (fun x n => markers x + n) 0 := by
  have hfills : ∃ vs ys, InOrder (Fills default) vs xs ys ∧
      vs.length = xs.foldr (fun x n => markers x + n) 0 := by
    induction xs with
    | nil => exact ⟨[], [], .nil, rfl⟩
    | cons x xs ih =>
      obtain ⟨vs, y, hx⟩ := Fills.exists_values default x
      obtain ⟨ws, ys, hxs, hlen⟩ := ih
      refine ⟨vs ++ ws, y :: ys, .cons hx hxs, ?_⟩
      rw [List.length_append, hlen, ← hx.markers_eq, List.foldr_cons]
  obtain ⟨vs, ys, hxs, hlen⟩ := hfills
  rw [(Fills.joinParts hxs).markers_eq, hlen]

end Text

variable {d : Dialect} {q q' : Statement}

/-- The markers of columns and aggregate. -/
def Dialect.projectionMarkers (d : Dialect) (q : Statement) : Nat :=
  Text.markers (d.renderAggregate q.distinct q.aggregate) + Text.markers (d.renderColumns q)

namespace Statement

/-- **Another projection.** The statements share what follows the columns, but for the numbers of rows
    taken and skipped, and they bind the same. -/
structure Reprojected (q q' : Statement) : Prop where
  setting : q'.setting = q.setting
  bindings : q'.bindings = q.bindings
  table : q'.table = q.table
  joins : q'.joins = q.joins
  wheres : q'.wheres = q.wheres
  groups : q'.groups = q.groups
  havings : q'.havings = q.havings
  orders : q'.tail.orders = q.tail.orders
  unions : q'.unions = q.unions
  unionOrders : q'.unionTail.orders = q.unionTail.orders
  lock : q'.lock = q.lock

namespace Reprojected

theorem refl (q : Statement) : Reprojected q q :=
  ⟨rfl, rfl, rfl, rfl, rfl, rfl, rfl, rfl, rfl, rfl, rfl⟩

theorem select (q : Statement) (columns : List Reference) : Reprojected q (q.select columns) :=
  { refl q with }

theorem selectAggregate {function : String} {columns : List Reference}
    (h : q.selectAggregate function columns = .ok q') : Reprojected q q' := by
  obtain ⟨meant, _, h⟩ := bind_eq_ok.mp h
  obtain rfl := Except.ok.inj h
  exact { refl q with }

theorem limit (h : Reprojected q q') (n : Int64) : Reprojected q (q'.limit n) := by
  unfold Statement.limit Statement.modifyTail
  split <;> exact { h with }

/-- The texts of a union have the same markers, whatever the numbers in its tail. -/
theorem renderUnions {members : List String} {tail tail' : Tail} (horders : tail'.orders = tail.orders)
    {s : String} (h : d.renderUnions members tail = .ok s) :
    ∃ s', d.renderUnions members tail' = .ok s' ∧ Text.markers s' = Text.markers s := by
  unfold Dialect.renderUnions at h ⊢
  rw [horders]
  split at h
  · next hnil =>
    rw [if_pos hnil]
    exact ⟨s, h, rfl⟩
  · next hsome =>
    obtain ⟨orders, horders, h⟩ := bind_eq_ok.mp h
    obtain rfl := Except.ok.inj h
    rw [if_neg hsome]
    refine ⟨_, bind_eq_ok.mpr ⟨orders, horders, rfl⟩, ?_⟩
    have hzero : ∀ tail : Tail, Text.markers (Dialect.renderLimit tail.limit) = 0 ∧
        Text.markers (Dialect.renderOffset tail.offset) = 0 := fun tail =>
      ⟨Text.markers_eq_zero (unmarked_renderLimit _), Text.markers_eq_zero (unmarked_renderOffset _)⟩
    simp only [Text.markers_joinParts, List.foldr_append, List.foldr_cons, List.foldr_nil, hzero]

/-- **The text of a statement with another projection.** It is rendered as well, and its markers differ
    by those of the projections. -/
theorem renderSelect (h : Reprojected q q') {s : String} (hs : d.renderSelect q = .ok s) :
    ∃ s', d.renderSelect q' = .ok s' ∧
      Text.markers s' + d.projectionMarkers q = Text.markers s + d.projectionMarkers q' := by
  obtain ⟨wheres, havings, orders, members, unions, hwheres, hhavings, horders, hmembers, hunions,
    rfl⟩ := renderSelect_eq_ok.mp hs
  obtain ⟨unions', hunions', hmarkers⟩ := renderUnions h.unionOrders hunions
  refine ⟨_, renderSelect_eq_ok.mpr ⟨wheres, havings, orders, members, unions', h.wheres ▸ hwheres,
    h.havings ▸ hhavings, h.orders ▸ horders, h.unions ▸ hmembers, hunions', rfl⟩, ?_⟩
  -- the numbers may differ, but they hold no marker; everything else after the columns is shared
  have hlimit : ∀ n, Text.markers (Dialect.renderLimit n) = 0 := fun n =>
    Text.markers_eq_zero (unmarked_renderLimit n)
  have hoffset : ∀ n, Text.markers (Dialect.renderOffset n) = 0 := fun n =>
    Text.markers_eq_zero (unmarked_renderOffset n)
  simp only [Dialect.assemble, Text.markers_trim, Text.markers_joinParts, List.foldr_cons,
    List.foldr_nil, Dialect.projectionMarkers, hlimit, hoffset, hmarkers, h.table, h.joins,
    h.groups, h.lock]
  omega

end Reprojected

end Statement

/-! ## Alignment -/

/-- A statement whose projection is shown is aligned. -/
theorem Chain.WellMarked.aligned {chain : Chain} (hc : chain.WellMarked) (hk : chain.ShowsProjection)
    (h : chain.build = .ok q) {built : Built} (hbuilt : q.selectBuilt = .ok built) :
    built.Aligned := by
  obtain ⟨p, _, htwin⟩ := twin_run_exact default hc hk.1 h
  have hclean : q.Clean := clean_run hc h
  have hcompiled := htwin.compiled hclean (rawFree_run h) fun _ => hk.2 q h
  obtain ⟨sql, hsql, rfl⟩ := map_eq_ok.mp hbuilt
  obtain ⟨_, _, used, hused, hfills⟩ := hcompiled.text _ hclean.dialect sql hsql
  obtain rfl : used = q.bound := hused
  exact hfills.markers_eq

/-- The operation sends one statement, which is aligned just under this condition. -/
def SendsAlignedIff {α : Type} (operation : ExceptT Error Scripted α) (condition : Prop) : Prop :=
  ∃ built, Sends operation [built] ∧ (built.Aligned ↔ condition)

/-- Its aggregate, if it has one, is written without markers. -/
structure Statement.PlainAggregate (q : Statement) : Prop where
  dialect : q.setting.dialect.QuestionMarked
  columns : ∀ a ∈ q.aggregate, ∀ c ∈ a.columns, c.Unmarked

namespace Statement.PlainAggregate

theorem select (hq : q.PlainAggregate) (columns : List Reference) :
    (q.select columns).PlainAggregate :=
  ⟨hq.dialect, hq.columns⟩

theorem selectAggregate (hq : q.PlainAggregate) {function : String} {columns : List Reference}
    (hcolumns : ∀ c ∈ columns, c.Unmarked) (h : q.selectAggregate function columns = .ok q') :
    q'.PlainAggregate := by
  obtain ⟨meant, _, h⟩ := bind_eq_ok.mp h
  obtain rfl := Except.ok.inj h
  exact ⟨hq.dialect, fun _ ha => Option.some.inj ha ▸ hcolumns⟩

/-- The tail has no part in it. -/
theorem modifyTail (hq : q.PlainAggregate) (f : Tail → Tail) : (q.modifyTail f).PlainAggregate := by
  unfold Statement.modifyTail
  split <;> exact ⟨hq.dialect, hq.columns⟩

/-- **One call.** Values that are bound apart from a text do not matter. -/
theorem apply {c : Call} (hq : q.PlainAggregate) (hc : c.WellMarked ∨ c.BindsDirectly)
    (queries : List Statement) (h : (c.supply queries).apply q = .ok q') : q'.PlainAggregate := by
  -- only `aggregate` sets the aggregate, and only a new query takes it away
  by_cases hfilters : c.Filters
  · obtain ⟨criteria, values, rfl⟩ := Call.isFiltered_of_apply (Call.filters_supply hfilters queries) h
    exact ⟨hq.dialect, hq.columns⟩
  cases c <;> try exact absurd trivial hfilters
  case aggregate function columns =>
    exact hq.selectAggregate (hc.resolve_right fun h => h) h
  case selectSub source label =>
    obtain ⟨built, _, h⟩ := bind_eq_ok.mp h
    obtain rfl := Except.ok.inj h
    exact ⟨hq.dialect, hq.columns⟩
  case join kind joined first operator second =>
    simp only [Call.supply, Call.apply, Statement.join] at h
    split at h
    · cases h
    · obtain rfl := Except.ok.inj h
      exact ⟨hq.dialect, hq.columns⟩
  all_goals obtain rfl := Except.ok.inj h
  case newQuery => exact ⟨hq.dialect, fun _ ha => by cases ha⟩
  case forGroup => exact ⟨hq.dialect, fun _ ha => by cases ha⟩
  case orderBy column direction =>
    exact hq.modifyTail fun tail => { tail with orders := tail.orders ++ [.column column direction] }
  case orderByRaw sql values =>
    have horder := hq.modifyTail fun tail => { tail with orders := tail.orders ++ [.raw sql] }
    exact ⟨horder.dialect, horder.columns⟩
  case limit n => exact hq.modifyTail _
  case offset n => exact hq.modifyTail _
  case page number perPage =>
    have hoffset : (q.offset ((number - 1) * perPage)).PlainAggregate := hq.modifyTail _
    exact hoffset.modifyTail fun tail => { tail with limit := some perPage }
  all_goals exact ⟨hq.dialect, hq.columns⟩

end Statement.PlainAggregate

/-- **A chain.** -/
theorem Chain.plainAggregate_build {chain : Chain} (hc : chain.TextsMarked)
    (h : chain.build = .ok q) : q.PlainAggregate := by
  induction chain generalizing q with
  | fresh setting =>
    obtain rfl := Except.ok.inj h
    exact ⟨hc, fun _ ha => by cases ha⟩
  | call chain step source ih _ =>
    obtain ⟨q₀, queries, h₀, _, h⟩ := run_call_eq_ok.mp h
    exact (ih hc.1 h₀).apply hc.2.1 queries h

/-- **Another projection of an aligned statement.** Its columns take no values: it is aligned exactly if
    the columns that it does without took none. -/
theorem Statement.Reprojected.aligned_iff (hr : q.Reprojected q') (hq : q.PlainAggregate)
    (hq' : q'.PlainAggregate) (hcolumns : Text.Unmarked (q'.setting.dialect.renderColumns q'))
    {built : Built} (hbuilt : q.selectBuilt = .ok built) (haligned : built.Aligned) :
    ∃ built', q'.selectBuilt = .ok built' ∧
      (built'.Aligned ↔ Text.Unmarked (q.setting.dialect.renderColumns q)) := by
  obtain ⟨s, hs, rfl⟩ := map_eq_ok.mp hbuilt
  obtain ⟨s', hs', hcount⟩ := hr.renderSelect hs
  have hhead : q.setting.dialect.projectionMarkers q =
      Text.markers (q.setting.dialect.renderColumns q) := by
    rw [Dialect.projectionMarkers, Nat.add_eq_right]
    exact Text.markers_eq_zero (unmarked_renderAggregate hq.dialect hq.columns _)
  have hhead' : q.setting.dialect.projectionMarkers q' = 0 := by
    rw [← hr.setting, Dialect.projectionMarkers, Text.markers_eq_zero hcolumns,
      Text.markers_eq_zero (unmarked_renderAggregate hq'.dialect hq'.columns _)]
  refine ⟨⟨s', q'.bound⟩, map_eq_ok.mpr ⟨s', ?_, rfl⟩, ?_⟩
  · rw [Statement.selectSql, hr.setting]
    exact hs'
  · have hmarkers : Text.markers s = q.bound.length := haligned
    have hbound : q'.bound = q.bound := congrArg Bindings.flatten hr.bindings
    show Text.markers s' = q'.bound.length ↔ _
    rw [← Text.markers_eq_zero_iff, hbound]
    omega

/-- An aligned statement without values that are bound apart from a text uses all the values that it
    binds: those of its projection belong to the columns that it shows. -/
theorem Twin.unmarked_renderColumns_iff {lit : Literals} {p : Statement}
    (h : Twin .loose lit .whole q p) (hq : q.Clean) {built : Built}
    (hbuilt : q.selectBuilt = .ok built) (haligned : built.Aligned) :
    Text.Unmarked (q.setting.dialect.renderColumns q) ↔ q.bindings.projection = [] := by
  obtain ⟨s, hs, rfl⟩ := map_eq_ok.mp hbuilt
  obtain ⟨t, shown, rest, ht, hfills, hrest, hshown, hnone, hsome⟩ := h.renders hq hq.dialect hs
  -- no clause uses more values than it binds, and together they use as many as are bound
  have htotal : shown.length + rest.length =
      q.bindings.projection.length + q.bindings.afterProjection.length := by
    rw [← List.length_append, ← hfills.markers_eq, ← List.length_append]
    exact haligned
  have hshownLe : shown.length ≤ q.bindings.projection.length := by
    by_cases haggregate : q.aggregate = none
    · exact (hnone haggregate).length_le
    · rw [hsome haggregate]; exact Nat.zero_le _
  have hrestLe : rest.length ≤ q.bindings.afterProjection.length := hrest.length_le
  rw [← Text.markers_eq_zero_iff, hshown.markers_eq, ← List.length_eq_zero_iff]
  omega

/-- Columns without markers, or an aggregate in their place. -/
theorem unmarked_renderColumns (hd : d.QuestionMarked)
    (h : q.aggregate = none → ∀ c ∈ q.columns, c.Unmarked) : Text.Unmarked (d.renderColumns q) := by
  unfold Dialect.renderColumns
  cases haggregate : q.aggregate with
  | some a => exact Text.unmarked_empty
  | none =>
    refine .append ?_ ?_
    · split <;> decide
    · split
      · decide
      · exact hd.quoteColumns (h haggregate)

/-- The number of rows taken is no matter of columns. -/
theorem renderColumns_limit (n : Int64) : d.renderColumns (q.limit n) = d.renderColumns q := by
  unfold Statement.limit Statement.modifyTail
  split <;> rfl

/-- **All that replaces the projection** of a statement is aligned just under this condition: other
    columns, an aggregate, and what the operations that use these send to the engine. -/
structure Statement.ReprojectionsAlignedIff (q : Statement) (condition : Prop) : Prop where
  select : ∀ columns, (∀ c ∈ columns, c.Unmarked) →
    ∃ built, (q.select columns).selectBuilt = .ok built ∧ (built.Aligned ↔ condition)
  selectAggregate : ∀ function columns, (∀ c ∈ columns, c.Unmarked) →
    ∀ q', q.selectAggregate function columns = .ok q' →
      ∃ built, q'.selectBuilt = .ok built ∧ (built.Aligned ↔ condition)
  fetchColumns : ∀ columns, (∀ c ∈ columns, c.Unmarked) →
    SendsAlignedIff (q.fetchColumns columns) condition
  firstColumns : ∀ columns, (∀ c ∈ columns, c.Unmarked) →
    SendsAlignedIff (q.firstColumns columns) condition
  aggregateValue : ∀ function meant, AggregateFunction.ofName function = .ok meant →
    ∀ column, column.Unmarked → SendsAlignedIff (q.aggregateValue function column) condition
  count : SendsAlignedIff q.count condition

/-- The new projections of an aligned statement, one by one. -/
theorem Statement.PlainAggregate.reprojectionsAlignedIff (hq : q.PlainAggregate) {built : Built}
    (hbuilt : q.selectBuilt = .ok built) (haligned : built.Aligned) :
    q.ReprojectionsAlignedIff (Text.Unmarked (q.setting.dialect.renderColumns q)) := by
  have hiff : ∀ q', q.Reprojected q' → q'.PlainAggregate →
      Text.Unmarked (q'.setting.dialect.renderColumns q') → ∃ built', q'.selectBuilt = .ok built' ∧
        (built'.Aligned ↔ Text.Unmarked (q.setting.dialect.renderColumns q)) :=
    fun _ hr hq' hcolumns => hr.aligned_iff hq hq' hcolumns hbuilt haligned
  have hselect : ∀ columns, (∀ c ∈ columns, c.Unmarked) →
      Text.Unmarked (q.setting.dialect.renderColumns (q.select columns)) :=
    fun columns hcolumns => unmarked_renderColumns hq.dialect fun _ => hcolumns
  have haggregate : ∀ function columns, (∀ c ∈ columns, c.Unmarked) →
      ∀ q', q.selectAggregate function columns = .ok q' → ∃ built', q'.selectBuilt = .ok built' ∧
        (built'.Aligned ↔ Text.Unmarked (q.setting.dialect.renderColumns q)) := by
    intro function columns hcolumns q' hq'
    have hplain : q'.PlainAggregate := hq.selectAggregate hcolumns hq'
    refine hiff q' (.selectAggregate hq') hplain (unmarked_renderColumns hplain.dialect fun hnone => ?_)
    obtain ⟨meant, _, hq'⟩ := bind_eq_ok.mp hq'
    obtain rfl := Except.ok.inj hq'
    cases hnone
  refine ⟨?select, haggregate, ?fetch, ?first, ?value, ?count⟩
  case select =>
    intro columns hcolumns
    exact hiff _ (.select q columns) (hq.select columns) (hselect columns hcolumns)
  case fetch =>
    intro columns hcolumns
    obtain ⟨built', hbuilt', hiff⟩ :=
      hiff _ (.select q columns) (hq.select columns) (hselect columns hcolumns)
    exact ⟨built', (sends_fetch (q.select columns)).of_ok hbuilt', hiff⟩
  case first =>
    intro columns hcolumns
    have hreprojected := (Reprojected.select q columns).limit 1
    obtain ⟨built', hbuilt', hiff⟩ := hiff _ hreprojected ((hq.select columns).modifyTail _) <| by
      rw [hreprojected.setting, renderColumns_limit]
      exact hselect columns hcolumns
    exact ⟨built', (sends_first (q.select columns)).of_ok hbuilt', hiff⟩
  case value =>
    intro function meant hmeant column hcolumn
    have hq' : q.selectAggregate function [column] =
        .ok { q with aggregate := some ⟨meant, [column]⟩ } := bind_eq_ok.mpr ⟨meant, hmeant, rfl⟩
    obtain ⟨built', hbuilt', hiff⟩ := haggregate function [column]
      (fun c hmem => List.mem_singleton.mp hmem ▸ hcolumn) _ hq'
    exact ⟨built', (sends_aggregateValue hq').of_ok hbuilt', hiff⟩
  case count =>
    have hstar : (Reference.named "*").Unmarked := by decide
    -- counting goes over all columns, whose name has no marker
    have hq' : q.selectAggregate "count" [.named "*"] =
        .ok { q with aggregate := some ⟨.count, [.named "*"]⟩ } := rfl
    obtain ⟨built', hbuilt', hiff⟩ := haggregate "count" [.named "*"]
      (fun c hmem => List.mem_singleton.mp hmem ▸ hstar) _ hq'
    exact ⟨built', (sends_count hq').of_ok hbuilt', hiff⟩

/-- **Replacing the projection.** Of an aligned statement, whatever replaces the projection is aligned
    exactly if the columns that were shown took no values. If no value was bound apart from a text, these
    are all the values that the projection has bound. -/
theorem Chain.reprojections_aligned_iff {chain : Chain} (hc : chain.TextsMarked)
    (h : chain.build = .ok q) {built : Built} (hbuilt : q.selectBuilt = .ok built)
    (haligned : built.Aligned) :
    q.ReprojectionsAlignedIff (Text.Unmarked (q.setting.dialect.renderColumns q)) ∧
      (chain.WellMarked →
        (Text.Unmarked (q.setting.dialect.renderColumns q) ↔ q.bindings.projection = [])) := by
  refine ⟨(plainAggregate_build hc h).reprojectionsAlignedIff hbuilt haligned, fun hmarked => ?_⟩
  obtain ⟨p, _, htwin⟩ := twin_run_loose default hmarked h
  exact htwin.unmarked_renderColumns_iff (clean_run hmarked h) hbuilt haligned

/-! ## A projection with a value -/

/-- Prices in another currency. -/
def convertedPrices : Chain :=
  ((Chain.fresh {}).plain (.table (.named "goods"))).plain (.selectRaw "price * ?" [.int 3])

theorem convertedPrices_wellMarked : convertedPrices.WellMarked := by
  have htable : (Call.table (.named "goods")).WellMarked := show Reference.Unmarked _ by decide
  have hselect : (Call.selectRaw "price * ?" [.int 3]).WellMarked := show Balanced _ _ by decide
  exact (Chain.wellMarked_fresh.plain htable).plain hselect

theorem convertedPrices_showsProjection : convertedPrices.ShowsProjection := by
  have hfresh : (Chain.fresh {}).KeepsProjection .whole := trivial
  exact ⟨(hfresh.plain (by nofun)).plain (by nofun),
    fun _ => Chain.showsProjection_of_aggregate_eq_none rfl⟩

/-- The statement is aligned. In `SELECT id FROM goods` and `SELECT COUNT(*) AS aggregate FROM goods` the
    value of the old column is sent along, and there is no place for it. -/
theorem convertedPrices_misaligned :
    ∃ q built, convertedPrices.build = .ok q ∧ q.selectBuilt = .ok built ∧ built.Aligned ∧
      q.bound = [.int 3] ∧
      (∃ sent, Sends (q.fetchColumns [.named "id"]) [sent] ∧ ¬ sent.Aligned) ∧
      (∃ sent, Sends q.count [sent] ∧ ¬ sent.Aligned) := by
  obtain ⟨q, hq, hvalue, hbound⟩ : ∃ q, convertedPrices.build = .ok q ∧
      q.bindings.projection = [.int 3] ∧ q.bound = [.int 3] := ⟨_, rfl, rfl, rfl⟩
  obtain ⟨built, hbuilt⟩ : ∃ built, (convertedPrices.build >>= Statement.selectBuilt) = .ok built :=
    ⟨_, rfl⟩
  rw [hq] at hbuilt
  have haligned : built.Aligned :=
    convertedPrices_wellMarked.aligned convertedPrices_showsProjection hq hbuilt
  obtain ⟨hreprojections, hcolumns⟩ := Chain.reprojections_aligned_iff
    convertedPrices_wellMarked.textsMarked hq hbuilt haligned
  have hmarked : ¬ Text.Unmarked (q.setting.dialect.renderColumns q) := by
    rw [hcolumns convertedPrices_wellMarked, hvalue]
    exact List.cons_ne_nil _ _
  obtain ⟨sent, hsent, hiff⟩ := hreprojections.fetchColumns [.named "id"] fun c hc =>
    List.mem_singleton.mp hc ▸ show Reference.Unmarked _ by decide
  obtain ⟨counted, hcounted, hiff'⟩ := hreprojections.count
  exact ⟨q, built, hq, hbuilt, haligned, hbound, ⟨sent, hsent, mt hiff.mp hmarked⟩,
    ⟨counted, hcounted, mt hiff'.mp hmarked⟩⟩

end FluentSql
