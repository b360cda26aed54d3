import FluentSql.Proofs.RawFree
import FluentSql.Proofs.Trace

/-!
# `RawFree.Sent` — raw text is never sent as a value

A statement without raw values in its bindings can still be given some at the end: the entries of a
record, or the identifier of a row. Each compiled statement leaves them out of its values, just where
its text has them written out.

## Contents
- `Value.NoRaw`, and the values of the compiled forms of a statement.
- `Terminal.noRaw_statements`, every operation.
- `Chain.noRaw_build`, what calls build and what is sent of it.
-/

namespace FluentSql

/-! ## Lists without raw values -/

namespace Value

/-- No entry of the list is raw text. -/
def NoRaw (values : List Value) : Prop :=
  ∀ sql, raw sql ∉ values

variable {xs ys : List Value}

theorem noRaw_nil : NoRaw [] :=
  fun _ => List.not_mem_nil

theorem noRaw_withoutRaw (values : List Value) : NoRaw (withoutRaw values) := by
  intro sql hsql
  have hraw : (raw sql).isRaw = false := isRaw_of_mem_withoutRaw hsql
  cases hraw

theorem NoRaw.of_withoutRaw_eq (h : withoutRaw xs = xs) : NoRaw xs :=
  h ▸ noRaw_withoutRaw xs

theorem NoRaw.append (hx : NoRaw xs) (hy : NoRaw ys) : NoRaw (xs ++ ys) := by
  intro sql hsql
  rcases List.mem_append.mp hsql with h | h
  · exact hx sql h
  · exact hy sql h

end Value

open Value (NoRaw)

/-! ## Compiled statements -/

namespace Statement

variable {q q' : Statement} {built : Built}

theorem noRaw_selectBuilt (hq : q.bindings.RawFree) (h : q.selectBuilt = .ok built) :
    NoRaw built.bindings := by
  obtain ⟨sql, _, rfl⟩ := map_eq_ok.mp h
  exact .of_withoutRaw_eq hq.withoutRaw_flatten

theorem noRaw_deleteBuilt (hq : q.bindings.RawFree) (h : q.deleteBuilt = .ok built) :
    NoRaw built.bindings := by
  obtain ⟨sql, _, h⟩ := bind_eq_ok.mp h
  rw [← Except.ok.inj h]
  exact .of_withoutRaw_eq (hq .filter)

/-- The values of the record are filtered on their way between those of the joins and the conditions. -/
theorem noRaw_updateBuilt {record : Record} (hq : q.bindings.RawFree)
    (h : q.updateBuilt record = .ok built) : NoRaw built.bindings := by
  unfold updateBuilt at h
  split at h
  · cases h
  · obtain ⟨sql, _, h⟩ := bind_eq_ok.mp h
    rw [← Except.ok.inj h]
    have hjoin : NoRaw q.bindings.join := .of_withoutRaw_eq (hq .join)
    have hfilter : NoRaw q.bindings.filter := .of_withoutRaw_eq (hq .filter)
    exact (hjoin.append (Value.noRaw_withoutRaw _)).append hfilter

/-- An insert has the values of its records alone. -/
theorem noRaw_insertBuilt? {records : List Record} (h : q.insertBuilt? records = .ok (some built)) :
    NoRaw built.bindings := by
  cases records with
  | nil => cases h
  | cons first rest =>
    rw [insertBuilt?] at h
    split at h
    · cases h
    · split at h
      · cases h
      · obtain ⟨sql, _, h⟩ := bind_eq_ok.mp h
        rw [← Option.some.inj (Except.ok.inj h)]
        exact Value.noRaw_withoutRaw _

/-- The name of a counter is sent as text, even where raw text stands for the table. -/
theorem isRaw_counterName (d : Dialect) (table : Option Reference) :
    (d.counterName table).isRaw = false := by
  rcases table with _ | ⟨_ | _⟩ <;> rfl

theorem noRaw_truncateBuilt {statements : List Built} (h : q.truncateBuilt = .ok statements)
    (hbuilt : built ∈ statements) : NoRaw built.bindings := by
  obtain ⟨table, _, h⟩ := bind_eq_ok.mp h
  split at h
  · obtain rfl : [_] = statements := Except.ok.inj h
    rw [List.mem_singleton.mp hbuilt]
    exact Value.noRaw_nil
  · obtain rfl : [_, _] = statements := Except.ok.inj h
    rcases List.mem_cons.mp hbuilt with rfl | hbuilt
    · intro sql hsql
      have hname := isRaw_counterName q.setting.dialect q.table
      rw [← List.mem_singleton.mp hsql] at hname
      cases hname
    · rw [List.mem_singleton.mp hbuilt]
      exact Value.noRaw_nil

/-! ### Preparations -/

theorem rawFree_limit (hq : q.bindings.RawFree) (n : Int64) : (q.limit n).bindings.RawFree := by
  rw [limit, bindings_modifyTail]
  exact hq

theorem rawFree_selectAggregate {function : String} {columns : List Reference}
    (hq : q.bindings.RawFree) (h : q.selectAggregate function columns = .ok q') :
    q'.bindings.RawFree :=
  Call.rawFree_apply (c := .aggregate function columns) hq h

theorem rawFree_withId {id : Value} (hq : q.bindings.RawFree) (h : q.withId id = .ok q') :
    q'.bindings.RawFree :=
  (isFiltered_compare h).rawFree hq

end Statement

/-! ## Operations -/

/-- A statement that is executed alone. -/
theorem mem_of_map_singleton {compiled : Except Error Built} {statements : List Built} {built : Built}
    (h : compiled.map ([·]) = .ok statements) (hbuilt : built ∈ statements) :
    compiled = .ok built := by
  obtain ⟨only, honly, rfl⟩ := map_eq_ok.mp h
  rw [honly, List.mem_singleton.mp hbuilt]

/-- **Every operation** sends values without raw ones, whatever its arguments are. -/
theorem Terminal.noRaw_statements {α : Type} (op : Terminal α) {q : Statement}
    (hq : q.bindings.RawFree) {statements : List Built} (h : op.statements q = .ok statements)
    {built : Built} (hbuilt : built ∈ statements) : NoRaw built.bindings := by
  cases op with
  | fetch | fetchAs _ => exact Statement.noRaw_selectBuilt hq (mem_of_map_singleton h hbuilt)
  | fetchColumns columns =>
    have hselect : (q.select columns).bindings.RawFree := hq
    exact Statement.noRaw_selectBuilt hselect (mem_of_map_singleton h hbuilt)
  | first | firstAs _ =>
    exact Statement.noRaw_selectBuilt (Statement.rawFree_limit hq 1) (mem_of_map_singleton h hbuilt)
  | firstColumns columns =>
    have hselect : (q.select columns).bindings.RawFree := hq
    exact Statement.noRaw_selectBuilt (Statement.rawFree_limit hselect 1)
      (mem_of_map_singleton h hbuilt)
  | find id =>
    obtain ⟨q', hq', h⟩ := bind_eq_ok.mp h
    have hid : q'.bindings.RawFree := Statement.rawFree_withId hq hq'
    exact Statement.noRaw_selectBuilt (Statement.rawFree_limit hid 1) (mem_of_map_singleton h hbuilt)
  | count | aggregateValue function column =>
    obtain ⟨q', hq', h⟩ := bind_eq_ok.mp h
    exact Statement.noRaw_selectBuilt (Statement.rawFree_selectAggregate hq hq')
      (mem_of_map_singleton h hbuilt)
  | insert records =>
    obtain ⟨compiled, hcompiled, rfl⟩ := map_eq_ok.mp h
    cases compiled with
    | none => exact absurd hbuilt List.not_mem_nil
    | some only =>
      rw [List.mem_singleton.mp hbuilt]
      exact Statement.noRaw_insertBuilt? hcompiled
  | update record => exact Statement.noRaw_updateBuilt hq (mem_of_map_singleton h hbuilt)
  | delete => exact Statement.noRaw_deleteBuilt hq (mem_of_map_singleton h hbuilt)
  | deleteById id =>
    obtain ⟨q', hq', h⟩ := bind_eq_ok.mp h
    exact Statement.noRaw_deleteBuilt (Statement.rawFree_withId hq hq')
      (mem_of_map_singleton h hbuilt)
  | truncate => exact Statement.noRaw_truncateBuilt h hbuilt

/-- What the engine is given is among the statements that the operation compiled. -/
theorem Terminal.exists_statements_of_mem_calls {α : Type} {op : Terminal α} {q : Statement}
    {answers : List (Except Error Execution)} {built : Built}
    (h : built ∈ (runScripted (op.perform q) answers).2.calls) :
    ∃ statements, op.statements q = .ok statements ∧ built ∈ statements := by
  have htrace := op.submits_perform q ⟨answers, [], []⟩
  cases hstatements : op.statements q with
  | error e =>
    rw [hstatements] at htrace
    rw [runScripted, htrace] at h
    exact absurd h List.not_mem_nil
  | ok statements =>
    rw [hstatements] at htrace
    rw [runScripted, htrace.1] at h
    obtain ⟨x, hx, rfl⟩ := List.mem_map.mp h
    exact ⟨statements, rfl, mem_of_mem_upToFailure_answered hx⟩

/-- **Raw text is never bound and never sent.** In a statement that calls build, neither a clause nor a
    join binds a raw value; and whatever operation is performed on it, with whatever arguments and
    answers, no statement that reaches the engine has a raw value among its values. -/
theorem Chain.noRaw_build {chain : Chain} {q : Statement} (h : chain.build = .ok q) :
    (∀ slot, NoRaw (q.bindings.get slot)) ∧ (∀ j ∈ q.joins, NoRaw j.bindings) ∧
      ∀ {α : Type} (op : Terminal α) (answers : List (Except Error Execution)),
        ∀ built ∈ (runScripted (op.perform q) answers).2.calls, NoRaw built.bindings := by
  have hq : q.bindings.RawFree := Chain.rawFree_run h
  refine ⟨fun slot => .of_withoutRaw_eq (hq slot), fun j _ => Value.noRaw_withoutRaw _, ?_⟩
  intro α op answers built hbuilt
  obtain ⟨statements, hstatements, hmem⟩ := Terminal.exists_statements_of_mem_calls hbuilt
  exact op.noRaw_statements hq hstatements hmem

/-! ## Raw text at every door -/

/-- Orders with their customers of today. Raw values come with a join, a condition, and bindings that are
    set by hand. -/
def ordersOfToday : Chain :=
  let ofCustomer := (Join.on ⟨.named "customers", .inner, []⟩ .and (.named "customers.id") "="
    (.named "orders.customer")).compare .and (.named "customers.since") "<" (.raw "CURRENT_DATE")
  (((Chain.fresh {}).plain (.table (.named "orders"))).plain
    (.addJoin (ofCustomer.compare .and (.named "customers.kind") "=" (.text "shop")))).plain
      (.between .and false (.named "placed") (.raw "DATE('now')") (.text "2030-01-01"))
    |>.plain (.setBindings [.raw "1", .int 2] .order)

/-- An update of the price and the note, with raw text for the price. -/
def halvedPrice : Record :=
  .ofList [("price", .raw "price / 2"), ("note", .text "sale")]

/-- Of the values of the join, the update and the condition, one each is raw, and only the others are
    sent. -/
theorem noRaw_ordersOfToday :
    ∃ q j built, ordersOfToday.build = .ok q ∧ j ∈ q.joins ∧ j.bindings = [.text "shop"] ∧
      NoRaw j.bindings ∧ q.bindings.get .order = [.int 2] ∧ NoRaw (q.bindings.get .order) ∧
      (runScripted (Terminal.perform q (.update halvedPrice)) []).2.calls = [built] ∧
      built.bindings = [.text "shop", .text "sale", .text "2030-01-01"] ∧ NoRaw built.bindings := by
  obtain ⟨q, j, built, hq, hj, hjoin, horder, hcalls, hvalues⟩ :
      ∃ q j built, ordersOfToday.build = .ok q ∧ q.joins = [j] ∧ j.bindings = [.text "shop"] ∧
        q.bindings.get .order = [.int 2] ∧
        (runScripted (Terminal.perform q (.update halvedPrice)) []).2.calls = [built] ∧
        built.bindings = [.text "shop", .text "sale", .text "2030-01-01"] :=
    ⟨_, _, _, rfl, rfl, rfl, rfl, rfl, rfl⟩
  obtain ⟨hslots, hjoins, hsent⟩ := Chain.noRaw_build hq
  have hmem : j ∈ q.joins := hj ▸ List.mem_singleton.mpr rfl
  have hbuilt : built ∈ (runScripted (Terminal.perform q (.update halvedPrice)) []).2.calls :=
    hcalls ▸ List.mem_singleton.mpr rfl
  exact ⟨q, j, built, hq, hmem, hjoin, hjoins j hmem, horder, hslots .order, hcalls, hvalues,
    hsent _ [] built hbuilt⟩

end FluentSql
