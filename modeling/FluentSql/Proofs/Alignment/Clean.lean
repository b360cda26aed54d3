import FluentSql.Proofs.Alignment.Inlining
import FluentSql.Proofs.Filtered

/-!
# `Alignment.Clean` — clauses that take no values

Tables, groups, orders, numbers and locks are written without values. A statement built by well marked
calls has no markers there, and it binds nothing to these clauses; a raw order may bind values, but a
statement with such an order is not rendered.

## Contents
- `OrdersSettled`, an order list with what it binds, and `renderOrders_settled`.
- `Statement.Clean`, kept by well marked calls: `Call.clean_apply`, `Chain.clean_run`.
-/

namespace FluentSql

/-! ## Orders -/

/-- Either some order is raw, or the list binds nothing and holds no marker. -/
def OrdersSettled (orders : List Order) (values : List Value) : Prop :=
  (∃ sql, .raw sql ∈ orders) ∨
    (values = [] ∧ ∀ column direction, .column column direction ∈ orders → column.Unmarked)

namespace OrdersSettled

variable {orders orders' : List Order} {values values' : List Value}

theorem nil : OrdersSettled [] [] :=
  .inr ⟨rfl, fun _ _ h => absurd h List.not_mem_nil⟩

theorem append (h : OrdersSettled orders values) (h' : OrdersSettled orders' values') :
    OrdersSettled (orders ++ orders') (values ++ Value.withoutRaw values') := by
  -- a raw order on either side stays; only without any does the second list bind nothing either
  rcases h with ⟨sql, h⟩ | ⟨rfl, h⟩
  · exact .inl ⟨sql, List.mem_append_left _ h⟩
  rcases h' with ⟨sql, h'⟩ | ⟨rfl, h'⟩
  · exact .inl ⟨sql, List.mem_append_right _ h'⟩
  · refine .inr ⟨rfl, fun column direction hmem => ?_⟩
    exact (List.mem_append.mp hmem).elim (h column direction) (h' column direction)

theorem column (h : OrdersSettled orders values) {r : Reference} (hr : r.Unmarked)
    (direction : Direction) : OrdersSettled (orders ++ [.column r direction]) values := by
  have hone : OrdersSettled [.column r direction] [] := by
    refine .inr ⟨rfl, fun r' direction' hmem => ?_⟩
    obtain ⟨rfl, rfl⟩ := Order.column.inj (List.mem_singleton.mp hmem)
    exact hr
  have happend := h.append hone
  rwa [Value.withoutRaw, List.filter_nil, List.append_nil] at happend

theorem raw (orders : List Order) (sql : String) (values : List Value) :
    OrdersSettled (orders ++ [.raw sql]) values :=
  .inl ⟨sql, List.mem_append_right _ (List.mem_singleton.mpr rfl)⟩

end OrdersSettled

variable {d : Dialect}

/-- Orders that render are none of them raw, and their texts hold no marker if their columns do not. -/
theorem mapM_renderOrder (hd : d.QuestionMarked) {orders : List Order} {texts : List String}
    (h : orders.mapM d.renderOrder = .ok texts) :
    (∀ sql, .raw sql ∉ orders) ∧
      ((∀ column direction, .column column direction ∈ orders → column.Unmarked) →
        ∀ text ∈ texts, Text.Unmarked text) := by
  induction orders generalizing texts with
  | nil =>
    obtain rfl : [] = texts := Except.ok.inj h
    exact ⟨fun _ => List.not_mem_nil, fun _ _ h => absurd h List.not_mem_nil⟩
  | cons order orders ih =>
    rw [List.mapM_cons] at h
    obtain ⟨text, htext, h⟩ := bind_eq_ok.mp h
    obtain ⟨rest, hrest, h⟩ := bind_eq_ok.mp h
    obtain rfl : text :: rest = texts := Except.ok.inj h
    cases order with
    | raw sql => cases htext
    | column column direction =>
      obtain ⟨hraw, hunmarked⟩ := ih hrest
      refine ⟨fun sql hmem => ?_, fun hcolumns t ht => ?_⟩
      · rcases List.mem_cons.mp hmem with hmem | hmem
        · cases hmem
        · exact hraw sql hmem
      · rcases List.mem_cons.mp ht with rfl | ht
        · obtain rfl := Except.ok.inj htext
          refine Text.Unmarked.append (.append (hd.quoteColumn ?_) (by decide)) ?_
          · exact hcolumns column direction List.mem_cons_self
          · cases direction <;> decide
        · exact hunmarked (fun c dir hc => hcolumns c dir (List.mem_cons_of_mem _ hc)) t ht

/-- An order list that renders binds nothing, and its text holds no marker. -/
theorem renderOrders_settled (hd : d.QuestionMarked) {orders : List Order} {values : List Value}
    {text : String} (h : OrdersSettled orders values) (htext : d.renderOrders orders = .ok text) :
    values = [] ∧ Text.Unmarked text := by
  unfold Dialect.renderOrders at htext
  split at htext
  · next hnil =>
    obtain rfl : orders = [] := List.isEmpty_iff.mp hnil
    obtain rfl := Except.ok.inj htext
    rcases h with ⟨sql, h⟩ | ⟨rfl, _⟩
    · exact absurd h List.not_mem_nil
    · exact ⟨rfl, by decide⟩
  · obtain ⟨texts, htexts, htext⟩ := bind_eq_ok.mp htext
    obtain rfl := Except.ok.inj htext
    obtain ⟨hraw, hunmarked⟩ := mapM_renderOrder hd htexts
    rcases h with ⟨sql, h⟩ | ⟨rfl, hcolumns⟩
    · exact absurd h (hraw sql)
    · exact ⟨rfl, .append (by decide) (.intercalate (by decide) (hunmarked hcolumns))⟩

/-! ## Statements -/

/-- The clauses without values hold no marker and bind nothing. -/
structure Statement.Clean (q : Statement) : Prop where
  dialect : q.setting.dialect.QuestionMarked
  table : ∀ t ∈ q.table, t.Unmarked
  aggregate : ∀ a ∈ q.aggregate, ∀ c ∈ a.columns, c.Unmarked
  groups : ∀ c ∈ q.groups, c.Unmarked
  lock : ∀ l ∈ q.lock, l.Unmarked
  orders : OrdersSettled q.tail.orders q.bindings.order
  unionOrders : OrdersSettled q.unionTail.orders q.bindings.unionOrder
  /-- Only a statement with a union has a tail for it. -/
  unionTail : q.unions = [] → q.unionTail.orders = []
  tableBindings : q.bindings.table = []

namespace Statement

variable {q q' : Statement}

theorem clean_fresh {setting : Setting} (h : setting.dialect.QuestionMarked) : (fresh setting).Clean where
  dialect := h
  table _ ht := by cases ht
  aggregate _ ha := by cases ha
  groups _ hc := absurd hc List.not_mem_nil
  lock _ hl := by cases hl
  orders := .nil
  unionOrders := .nil
  unionTail _ := rfl
  tableBindings := rfl

theorem IsFiltered.clean (h : q.IsFiltered q') (hq : q.Clean) : q'.Clean := by
  obtain ⟨criteria, values, rfl⟩ := h
  exact { hq with }

/-- A change of the numbers in the tail in force. -/
theorem Clean.modifyTail (hq : q.Clean) {f : Tail → Tail}
    (hf : ∀ tail, (f tail).orders = tail.orders) : (q.modifyTail f).Clean := by
  unfold Statement.modifyTail
  split
  · exact { hq with orders := by rw [hf]; exact hq.orders }
  · exact { hq with
      unionOrders := by rw [hf]; exact hq.unionOrders
      unionTail := fun h => (hf _).trans (hq.unionTail h) }

/-- An order more, in the tail in force. -/
theorem Clean.orderBy (hq : q.Clean) {column : Reference} (hc : column.Unmarked)
    (direction : Direction) : (q.orderBy column direction).Clean := by
  simp only [Statement.orderBy, addOrder, Statement.modifyTail]
  split
  · exact { hq with orders := hq.orders.column hc direction }
  · next hne =>
    exact { hq with
      unionOrders := hq.unionOrders.column hc direction
      unionTail := fun h => absurd (List.isEmpty_iff.mpr h) hne }

/-- A raw order may bind values: the statement is not rendered any more. -/
theorem Clean.orderByRaw (hq : q.Clean) (sql : String) (values : List Value) :
    (q.orderByRaw sql values).Clean := by
  unfold Statement.orderByRaw addOrder Statement.modifyTail
  split
  · exact { hq with orders := .raw _ sql _ }
  · next hne =>
    exact { hq with
      unionOrders := .raw _ sql _
      unionTail := fun h => absurd (List.isEmpty_iff.mpr h) hne }

theorem Clean.merge (hq : q.Clean) {other : Statement} (ho : other.Clean) :
    (q.merge other).Clean where
  dialect := hq.dialect
  table := hq.table
  aggregate := hq.aggregate
  groups c hc := (List.mem_append.mp hc).elim (hq.groups c) (ho.groups c)
  lock := hq.lock
  orders := by
    have hget := Bindings.get_merge q.bindings other.bindings .order
    exact (show (q.merge other).bindings.order = _ from hget) ▸ hq.orders.append ho.orders
  unionOrders := by
    have hget := Bindings.get_merge q.bindings other.bindings .unionOrder
    exact (show (q.merge other).bindings.unionOrder = _ from hget) ▸
      hq.unionOrders.append ho.unionOrders
  unionTail h := by
    obtain ⟨hnil, honil⟩ := List.append_eq_nil_iff.mp h
    exact List.append_eq_nil_iff.mpr ⟨hq.unionTail hnil, ho.unionTail honil⟩
  tableBindings := by
    have hget := Bindings.get_merge q.bindings other.bindings .table
    refine (show (q.merge other).bindings.table = _ from hget).trans ?_
    rw [show q.bindings.get .table = [] from hq.tableBindings,
      show other.bindings.get .table = [] from ho.tableBindings]
    rfl

end Statement

/-! ## Calls and chains -/

theorem Call.filters_supply {c : Call} (h : c.Filters) (queries : List Statement) :
    (c.supply queries).Filters := by
  cases c <;> exact h

theorem headD_mem {queries : List Statement} (h : queries.length = 1) (q : Statement) :
    queries.headD q ∈ queries := by
  match queries, h with
  | [e], _ => exact List.mem_singleton.mpr rfl

/-- **One call.** A well marked call keeps the clauses without values clean. -/
theorem Call.clean_apply {q q' : Statement} {step : Call} {queries : List Statement}
    (hq : q.Clean) (hc : step.WellMarked) (hqueries : ∀ e ∈ queries, e.Clean)
    (hlen : queries.length = step.embedded.length) (h : (step.supply queries).apply q = .ok q') :
    q'.Clean := by
  -- conditions on rows and their values are none of these clauses, whatever their shape
  by_cases hfilters : step.Filters
  · exact (isFiltered_of_apply (filters_supply hfilters queries) h).clean hq
  cases step <;> try exact absurd trivial hfilters
  case selectSub source label =>
    obtain ⟨built, _, h⟩ := bind_eq_ok.mp h
    rw [← Except.ok.inj h]
    exact { hq with }
  case join kind joined first operator second =>
    simp only [supply, apply, Statement.join] at h
    split at h
    · cases h
    · rw [← Except.ok.inj h]; exact { hq with }
  case aggregate function columns =>
    obtain ⟨_, _, h⟩ := bind_eq_ok.mp h
    rw [← Except.ok.inj h]
    exact { hq with aggregate := fun _ ha => Option.some.inj ha ▸ hc }
  case addBinding => exact hc.elim
  case setBindings => exact hc.elim
  all_goals rw [← Except.ok.inj h]
  case table reference =>
    exact { hq with table := fun _ ht => Option.some.inj ht ▸ hc }
  case groupBy columns =>
    exact { hq with groups := fun c hmem => (List.mem_append.mp hmem).elim (hq.groups c) (hc c) }
  case lock mode =>
    exact { hq with lock := fun _ hl => Option.some.inj hl ▸ hc }
  case orderBy column direction => exact hq.orderBy hc direction
  case orderByRaw sql values => exact hq.orderByRaw sql values
  case limit n => exact hq.modifyTail fun _ => rfl
  case offset n => exact hq.modifyTail fun _ => rfl
  case page number perPage =>
    have hoffset : (q.offset ((number - 1) * perPage)).Clean := hq.modifyTail fun _ => rfl
    exact Statement.Clean.modifyTail (f := fun tail => { tail with limit := some perPage }) hoffset
      fun _ => rfl
  case union all query =>
    exact { hq with unionTail := fun h => absurd h (by simp [Statement.union]) }
  case merge other => exact hq.merge (hqueries _ (headD_mem hlen other))
  case newQuery => exact Statement.clean_fresh hq.dialect
  case forGroup => exact { Statement.clean_fresh hq.dialect with table := hq.table }
  -- columns, joins and conditions on groups are clauses with values
  all_goals exact { hq with }

/-- **A chain.** Well marked calls build clean statements. -/
theorem Chain.clean_run {chain : Chain} (hc : chain.WellMarked) {q : Statement}
    (h : chain.build = .ok q) : q.Clean := by
  induction chain generalizing q with
  | fresh setting =>
    rw [← Except.ok.inj h]
    exact Statement.clean_fresh hc
  | call chain step source ih ihs =>
    obtain ⟨hchain, hstep, hsource⟩ := hc
    obtain ⟨q₀, queries, h₀, hqueries, h⟩ := run_call_eq_ok.mp h
    refine Call.clean_apply (ih hchain h₀) hstep (fun e he => ?_) ?_ h
    · obtain ⟨i, hi⟩ := exists_source_eq_ok hqueries he
      exact ihs i (hsource i) hi
    · rw [length_of_mapM hqueries, List.length_ofFn]

end FluentSql
