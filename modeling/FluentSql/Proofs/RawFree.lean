import FluentSql.Proofs.Filtered

/-!
# `RawFree` — raw text is never bound

Raw text is written into the statement and owns no placeholder, so that it must not be among the values
sent along. Every operation on bindings leaves raw values out, and therefore every statement that calls
build has none.

## Contents
- `Bindings.RawFree`, and the operations that keep it.
- `Call.rawFree_apply`, one call, and `Chain.rawFree_run`, a chain of them.
-/

namespace FluentSql

namespace Bindings

/-- No clause binds a raw value. -/
def RawFree (b : Bindings) : Prop :=
  ∀ slot, Value.withoutRaw (b.get slot) = b.get slot

theorem rawFree_empty : empty.RawFree := by
  intro slot
  rw [get_empty]
  rfl

variable {b other : Bindings}

/-- What is added is added without its raw values, whatever it is. -/
theorem RawFree.extend (h : b.RawFree) (slot : BindingSlot) (values : List Value) :
    (b.extend slot values).RawFree := by
  intro k
  rw [get_extend]
  split
  · rw [Value.withoutRaw_append, Value.withoutRaw_withoutRaw, h k]
  · exact h k

theorem RawFree.set (h : b.RawFree) (slot : BindingSlot) (values : List Value) :
    (b.set slot values).RawFree := by
  intro k
  rw [get_set]
  split
  · exact Value.withoutRaw_withoutRaw values
  · exact h k

theorem RawFree.merge (h : b.RawFree) (other : Bindings) : (b.merge other).RawFree := by
  intro k
  rw [get_merge, Value.withoutRaw_append, Value.withoutRaw_withoutRaw, h k]

theorem RawFree.withoutRaw_flatten (h : b.RawFree) : Value.withoutRaw b.flatten = b.flatten := by
  have hlists : ∀ slots : List BindingSlot,
      Value.withoutRaw (slots.flatMap b.get) = slots.flatMap b.get := by
    intro slots
    induction slots with
    | nil => rfl
    | cons slot slots ih => rw [List.flatMap_cons, Value.withoutRaw_append, h slot, ih]
  exact hlists BindingSlot.all

end Bindings

/-- A filtered statement binds further values in one clause only. -/
theorem Statement.IsFiltered.rawFree {q q' : Statement} (h : q.IsFiltered q')
    (hq : q.bindings.RawFree) : q'.bindings.RawFree := by
  obtain ⟨criteria, values, rfl⟩ := h
  exact hq.extend .filter values

/-- **One call.** Whatever it is given, what it binds has no raw value. -/
theorem Call.rawFree_apply {q q' : Statement} {c : Call} (hq : q.bindings.RawFree)
    (h : c.apply q = .ok q') : q'.bindings.RawFree := by
  by_cases hc : c.Filters
  · exact (Call.isFiltered_of_apply hc h).rawFree hq
  -- of the other calls, three can be refused
  cases c <;> try exact absurd trivial hc
  case selectSub source label =>
    obtain ⟨built, _, h⟩ := bind_eq_ok.mp h
    rw [← Except.ok.inj h]
    exact hq.extend .projection built.bindings
  case join kind joined first operator second =>
    simp only [apply, Statement.join] at h
    split at h
    · cases h
    · rw [← Except.ok.inj h]; exact hq.extend .join _
  case aggregate function columns =>
    obtain ⟨_, _, h⟩ := bind_eq_ok.mp h
    rw [← Except.ok.inj h]; exact hq
  all_goals rw [← Except.ok.inj h]
  case selectRaw sql values => exact hq.extend .projection values
  case addJoin clause => exact hq.extend .join clause.bindings
  case addJoinAs kind clause => exact hq.extend .join _
  case having => exact hq.extend .having _
  case havingRaw => exact hq.extend .having _
  case union all query => exact hq.extend .union query.bound
  case merge other => exact hq.merge other.bindings
  case addBinding value slot => exact hq.extend slot [value]
  case setBindings values slot => exact hq.set slot values
  case newQuery => exact Bindings.rawFree_empty
  case forGroup => exact Bindings.rawFree_empty
  case orderBy | limit | offset | page =>
    simpa only [Statement.orderBy, Statement.addOrder, Statement.limit, Statement.offset,
      Statement.forPage, Statement.bindings_modifyTail] using hq
  case orderByRaw sql values =>
    -- the clause that takes the values depends on the unions; the order before them binds nothing
    have hbase : (q.addOrder (.raw sql)).bindings.RawFree := by
      rw [Statement.addOrder, Statement.bindings_modifyTail]; exact hq
    exact hbase.extend _ values
  all_goals exact hq

/-- **A chain.** Nothing that calls build binds a raw value, however the calls are changed. -/
theorem Chain.rawFree_run {change : Call → Call} {chain : Chain} {q : Statement}
    (h : chain.run change = .ok q) : q.bindings.RawFree :=
  Chain.run_invariant (fun _ => Bindings.rawFree_empty)
    (fun _ _ _ hq _ h => Call.rawFree_apply hq h) h

end FluentSql
