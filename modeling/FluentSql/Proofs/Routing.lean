import FluentSql.Proofs.Merging
import FluentSql.Proofs.Reordering
import FluentSql.Proofs.Unions
import Mathlib.Data.List.Induction

/-!
# `Routing` — whose order and paging a call sets

The same calls order and page a statement and the whole of its union: what counts is whether the union
has a member by then. So a chain falls into two parts, at its first call of `union`. What the first part
asks for is the statement's, what the second part asks for is the union's, and nothing is lost, since a
union without members asks for nothing.

## Contents
- `Call.paging` and `issued`, what calls ask for; `beforeUnion`, `fromUnion` and `sinceStart`, the parts
  of a chain.
- `Call.Routes` and `Call.routes_apply`, one call.
- `Statement.applyAll_invariant`, what a chain keeps; `Routed` and `Statement.routed_applyAll`, where its
  calls go.
- `Chain.unionTail_build`, a union without members.
- `Statement.union_routing`, all of it, with the text.
-/

namespace FluentSql

/-! ## What calls ask for -/

/-- The number, or zero if it is negative. -/
def notNegative (n : Int64) : Int64 :=
  if n < 0 then 0 else n

namespace Call

/-- What a call asks for: an entry of the order, a limit, an offset. -/
def paging : Call → Tail
  | .orderBy column direction => { orders := [.column column direction] }
  | .orderByRaw sql _ => { orders := [.raw sql] }
  | .limit n => { limit := some n }
  | .offset n => { offset := some (notNegative n) }
  | .page number perPage =>
    { limit := some perPage, offset := some (notNegative ((number - 1) * perPage)) }
  | _ => {}

/-- The member that a call adds to the union. -/
def member? : Call → Option UnionMember
  | .union all query => some ⟨all, query⟩
  | _ => none

/-- Whether a call leaves the statement and goes on with one without clauses. -/
def startsOver : Call → Bool
  | .newQuery | .forGroup => true
  | _ => false

end Call

/-- All entries that the calls add to the order, and the last limit and offset, if there are any. -/
def issued (calls : List Call) : Tail where
  orders := calls.flatMap (·.paging.orders)
  limit := (calls.filterMap (·.paging.limit)).getLast?
  offset := (calls.filterMap (·.paging.offset)).getLast?

/-- The calls before the first member of the union. -/
def beforeUnion (calls : List Call) : List Call :=
  calls.takeWhile (·.member?.isNone)

/-- The calls from the first member of the union on. -/
def fromUnion (calls : List Call) : List Call :=
  calls.dropWhile (·.member?.isNone)

/-- The calls after the last one that starts over. -/
def sinceStart (calls : List Call) : List Call :=
  (calls.reverse.takeWhile fun c => !c.startsOver).reverse

/-- Of more calls, the orders are added and the later numbers count. -/
theorem issued_append (calls more : List Call) :
    issued (calls ++ more) = (issued calls).merge (issued more) := by
  simp only [issued, Tail.merge, List.flatMap_append, List.filterMap_append, List.getLast?_append]

theorem issued_singleton (c : Call) : issued [c] = c.paging := by
  simp only [issued, List.flatMap_singleton, List.filterMap_cons, List.filterMap_nil]
  cases c.paging with
  | mk orders limit offset => cases limit <;> cases offset <;> rfl

theorem sinceStart_concat (calls : List Call) (c : Call) :
    sinceStart (calls ++ [c]) = if c.startsOver then [] else sinceStart calls ++ [c] := by
  unfold sinceStart
  rw [List.reverse_append, List.reverse_singleton, List.singleton_append, List.takeWhile_cons]
  cases c.startsOver with
  | false => exact List.reverse_cons
  | true => rfl

/-! ## One call -/

namespace Statement

variable (q : Statement) (f g : Tail → Tail)

@[simp] theorem unions_modifyTail : (q.modifyTail f).unions = q.unions := by
  unfold modifyTail
  split <;> rfl

theorem tail_modifyTail :
    (q.modifyTail f).tail = if q.unions = [] then f q.tail else q.tail := by
  simp only [modifyTail, List.isEmpty_iff]
  split <;> rfl

theorem unionTail_modifyTail :
    (q.modifyTail f).unionTail = if q.unions = [] then q.unionTail else f q.unionTail := by
  simp only [modifyTail, List.isEmpty_iff]
  split <;> rfl

/-- Two changes go to the same tail. -/
theorem modifyTail_modifyTail :
    (q.modifyTail f).modifyTail g = q.modifyTail fun tail => g (f tail) := by
  have hunions := q.unions_modifyTail f
  unfold modifyTail at hunions ⊢
  rw [hunions]
  split <;> rfl

end Statement

namespace Call

variable {q q' : Statement} {c : Call}

/-- What the call asks for goes to the union if that has a member already, and else to the statement. -/
structure Routes (q : Statement) (c : Call) (q' : Statement) : Prop where
  unions : q'.unions = q.unions ++ c.member?.toList
  tail : q'.tail = if q.unions = [] then q.tail.merge c.paging else q.tail
  unionTail : q'.unionTail = if q.unions = [] then q.unionTail else q.unionTail.merge c.paging

/-- A change of the tail that is in force. -/
theorem routes_modifyTail {f : Tail → Tail} (hmember : c.member? = none)
    (hf : ∀ tail, f tail = tail.merge c.paging) : Routes q c (q.modifyTail f) where
  unions := by rw [q.unions_modifyTail, hmember]; exact (List.append_nil _).symm
  tail := by rw [q.tail_modifyTail, hf]
  unionTail := by rw [q.unionTail_modifyTail, hf]

theorem routes_addOrder {order : Order} (hmember : c.member? = none)
    (hpaging : c.paging = { orders := [order] }) : Routes q c (q.addOrder order) := by
  refine routes_modifyTail hmember fun tail => ?_
  simp [hpaging, Tail.merge]

/-- A call that asks for nothing. -/
theorem routes_of_eq (hmember : c.member? = none) (hpaging : c.paging = {})
    (hunions : q'.unions = q.unions) (htail : q'.tail = q.tail) (hunionTail : q'.unionTail = q.unionTail) :
    Routes q c q' where
  unions := by rw [hunions, hmember]; exact (List.append_nil _).symm
  tail := by rw [htail, hpaging, Tail.merge_empty, ite_self]
  unionTail := by rw [hunionTail, hpaging, Tail.merge_empty, ite_self]

/-- Only the calls of one facet ask for anything. -/
theorem paging_of_facet?_ne (hc : c.facet? ≠ some .paging) : c.member? = none ∧ c.paging = {} := by
  cases c <;> first | exact ⟨rfl, rfl⟩ | exact absurd rfl hc

/-- A call on order, paging or unions. -/
theorem routes_paging (hc : c.facet? = some .paging) (h : c.apply q = .ok q') : Routes q c q' := by
  cases c with
  | orderBy column direction =>
    obtain rfl := Except.ok.inj h
    exact routes_addOrder rfl rfl
  | orderByRaw sql values =>
    obtain rfl := Except.ok.inj h
    have hroutes : Routes q (.orderByRaw sql values) (q.addOrder (.raw sql)) := routes_addOrder rfl rfl
    exact ⟨hroutes.unions, hroutes.tail, hroutes.unionTail⟩
  | limit n =>
    obtain rfl := Except.ok.inj h
    exact routes_modifyTail rfl fun tail => by simp [paging, Tail.merge]
  | offset n =>
    obtain rfl := Except.ok.inj h
    exact routes_modifyTail rfl fun tail => by simp [paging, Tail.merge, notNegative]
  | page number perPage =>
    obtain rfl := Except.ok.inj h
    rw [Statement.forPage, Statement.offset, Statement.limit, Statement.modifyTail_modifyTail]
    exact routes_modifyTail rfl fun tail => by simp [paging, Tail.merge, notNegative]
  | union all query =>
    obtain rfl := Except.ok.inj h
    exact ⟨rfl, by simp [paging, Statement.union, Statement.bind],
      by simp [paging, Statement.union, Statement.bind]⟩
  | _ => cases hc

/-- **One call**, be it of any kind, but for folding in a statement and starting over. -/
theorem routes_apply (hmerge : ∀ other, c ≠ .merge other) (hstart : c.startsOver = false)
    (h : c.apply q = .ok q') : Routes q c q' := by
  by_cases hpaging : c.facet? = some .paging
  · exact routes_paging hpaging h
  · obtain ⟨hmember, hnothing⟩ := paging_of_facet?_ne hpaging
    cases hfacet : c.facet? with
    | some f =>
      -- what a call of another clause leaves alone
      have hne : Facet.paging ≠ f := fun heq => hpaging (heq ▸ hfacet)
      have hsame := facet_apply_of_ne hfacet hne h
      exact routes_of_eq hmember hnothing (congrArg (·.unions) hsame) (congrArg (·.tail) hsame)
        (congrArg (·.unionTail) hsame)
    | none =>
      cases c with
      | merge other => exact absurd rfl (hmerge other)
      | newQuery | forGroup => cases hstart
      | addBinding value slot | setBindings values slot =>
        obtain rfl := Except.ok.inj h
        exact routes_of_eq rfl rfl rfl rfl rfl
      | _ => cases hfacet

/-- A call that starts over leaves the setting and at most the table. -/
theorem apply_of_startsOver (hstart : c.startsOver = true) (h : c.apply q = .ok q') :
    ∃ table, q' = { Statement.fresh q.setting with table := table } := by
  cases c with
  | newQuery => exact ⟨none, (Except.ok.inj h).symm⟩
  | forGroup => exact ⟨q.table, (Except.ok.inj h).symm⟩
  | _ => cases hstart

/-- A union without members asks for nothing, and what a call makes of it does not either. -/
theorem unionTail_apply (hq : q.unions = [] → q.unionTail = {})
    (hembedded : ∀ e ∈ c.embedded, e.unions = [] → e.unionTail = {}) (h : c.apply q = .ok q') :
    q'.unions = [] → q'.unionTail = {} := by
  intro hunions
  by_cases hmerge : ∃ other, c = .merge other
  · -- there is no member on either side
    obtain ⟨other, rfl⟩ := hmerge
    obtain rfl := Except.ok.inj h
    obtain ⟨hown, hother⟩ := List.append_eq_nil_iff.mp hunions
    have htail := hembedded other (List.mem_singleton.mpr rfl) hother
    rw [Statement.merge, hq hown, htail]
    rfl
  · cases hstart : c.startsOver with
    | true =>
      obtain ⟨table, rfl⟩ := apply_of_startsOver hstart h
      rfl
    | false =>
      have hroutes := routes_apply (fun other hother => hmerge ⟨other, hother⟩) hstart h
      obtain ⟨hown, _⟩ := List.append_eq_nil_iff.mp (hroutes.unions.symm.trans hunions)
      rw [hroutes.unionTail, if_pos hown, hq hown]

end Call

/-! ## Chains -/

/-- **A union without members** asks for nothing, in every statement that calls build. -/
theorem Chain.unionTail_build {chain : Chain} {q : Statement} (h : chain.build = .ok q)
    (hunions : q.unions = []) : q.unionTail = {} :=
  Chain.run_invariant (P := fun q => q.unions = [] → q.unionTail = {}) (fun _ _ => rfl)
    (fun _ _ _ hq hembedded h => Call.unionTail_apply hq hembedded h) h hunions

/-- A call that adds a member asks for nothing else. -/
theorem Call.paging_of_member? {c : Call} (h : c.member?.isNone = false) : c.paging = {} := by
  cases c <;> first | rfl | cases h

theorem filterMap_member?_eq_nil_iff {calls : List Call} :
    calls.filterMap Call.member? = [] ↔ ∀ c ∈ calls, c.member?.isNone = true := by
  simp only [List.filterMap_eq_nil_iff, Option.isNone_iff_eq_none]

/-- One call more belongs to the first part as long as there is no member. -/
theorem issued_beforeUnion_concat (calls : List Call) (c : Call) :
    issued (beforeUnion (calls ++ [c])) =
      if calls.filterMap Call.member? = [] then (issued (beforeUnion calls)).merge c.paging
      else issued (beforeUnion calls) := by
  split
  · next hnone =>
    rw [filterMap_member?_eq_nil_iff] at hnone
    have hself : beforeUnion calls = calls := List.takeWhile_eq_self_iff.mpr hnone
    rw [hself, beforeUnion, List.takeWhile_append_of_pos hnone, List.takeWhile_cons,
      List.takeWhile_nil]
    cases hmember : c.member?.isNone with
    | true => rw [if_pos rfl, issued_append, issued_singleton]
    | false => rw [if_neg nofun, List.append_nil, Call.paging_of_member? hmember, Tail.merge_empty]
  · next hsome =>
    have hlength : (calls.takeWhile (·.member?.isNone)).length ≠ calls.length := by
      intro hlength
      have hself := (List.takeWhile_prefix fun c : Call => c.member?.isNone).eq_of_length hlength
      exact hsome (filterMap_member?_eq_nil_iff.mpr (List.takeWhile_eq_self_iff.mp hself))
    rw [beforeUnion, List.takeWhile_append, if_neg hlength, beforeUnion]

/-- It belongs to the second part from the first member on. -/
theorem issued_fromUnion_concat (calls : List Call) (c : Call) :
    issued (fromUnion (calls ++ [c])) =
      if calls.filterMap Call.member? = [] then issued (fromUnion calls)
      else (issued (fromUnion calls)).merge c.paging := by
  have hempty : (calls.dropWhile (·.member?.isNone)).isEmpty = true ↔
      calls.filterMap Call.member? = [] := by
    rw [List.isEmpty_iff, List.dropWhile_eq_nil_iff, filterMap_member?_eq_nil_iff]
  rw [fromUnion, List.dropWhile_append]
  simp only [hempty]
  split
  · next hnone =>
    have hnil : fromUnion calls = [] :=
      List.dropWhile_eq_nil_iff.mpr (filterMap_member?_eq_nil_iff.mp hnone)
    rw [hnil]
    cases hmember : c.member?.isNone with
    | true => simp [hmember]
    | false =>
      rw [List.dropWhile_cons, hmember, if_neg nofun, issued_singleton, Call.paging_of_member? hmember]
      rfl
  · rw [issued_append, issued_singleton, fromUnion]

/-- Order, paging and unions of a statement after the calls since its start. -/
structure Routed (calls : List Call) (q : Statement) : Prop where
  tail : q.tail = issued (beforeUnion calls)
  unionTail : q.unionTail = issued (fromUnion calls)
  unions : q.unions = calls.filterMap Call.member?

/-- **One call more** goes where the calls before it say. -/
theorem Routed.concat {calls : List Call} {q q' : Statement} {c : Call} (hq : Routed calls q)
    (hc : c.Routes q q') : Routed (calls ++ [c]) q' where
  tail := by rw [issued_beforeUnion_concat, hc.tail, hq.tail, hq.unions]
  unionTail := by rw [issued_fromUnion_concat, hc.unionTail, hq.unionTail, hq.unions]
  unions := by
    rw [hc.unions, hq.unions, List.filterMap_append]
    cases hmember : c.member? <;> simp [hmember]

namespace Statement

/-- **What a chain keeps.** If it holds after no calls, of the statements without clauses, and of each call
    more, then it holds of the statement that a chain makes of a fresh one, after the calls since its
    start. -/
theorem applyAll_invariant {P : List Call → Statement → Prop} {calls : List Call} {q : Statement}
    (hstart : ∀ setting table, P [] { fresh setting with table := table })
    (hcall : ∀ seen c q q', c ∈ calls → c.startsOver = false → P seen q → c.apply q = .ok q' →
      P (seen ++ [c]) q')
    {setting : Setting} (h : (fresh setting).applyAll calls = .ok q) : P (sinceStart calls) q := by
  induction calls using List.reverseRecOn generalizing q with
  | nil =>
    obtain rfl := Except.ok.inj h
    exact hstart setting none
  | append_singleton calls c ih =>
    rw [applyAll, List.foldlM_append] at h
    obtain ⟨q₁, h₁, h⟩ := bind_eq_ok.mp h
    rw [List.foldlM_cons] at h
    obtain ⟨q₂, h₂, h⟩ := bind_eq_ok.mp h
    obtain rfl : q₂ = q := Except.ok.inj h
    rw [sinceStart_concat]
    cases hc : c.startsOver with
    | true =>
      obtain ⟨table, rfl⟩ := Call.apply_of_startsOver hc h₂
      exact hstart q₁.setting table
    | false =>
      have hq₁ : P (sinceStart calls) q₁ :=
        ih (fun seen c q q' hmem => hcall seen c q q' (List.mem_append_left _ hmem)) h₁
      exact hcall _ c q₁ q₂ (by simp) hc hq₁ h₂

/-- **A chain** on a fresh statement, as long as no statement is folded in. -/
theorem routed_applyAll {setting : Setting} {calls : List Call} {q : Statement}
    (hmerge : ∀ other, .merge other ∉ calls) (h : (fresh setting).applyAll calls = .ok q) :
    Routed (sinceStart calls) q := by
  refine applyAll_invariant (fun _ _ => ⟨rfl, rfl, rfl⟩) (fun seen c q q' hmem hstart hq h => ?_) h
  exact hq.concat (Call.routes_apply (fun other heq => hmerge other (heq ▸ hmem)) hstart h)

/-- **Where order and paging go.** (1) In every statement that calls build, a union that orders, limits or
    skips rows has a member. (2) A chain on a fresh statement that folds in no other falls into two parts,
    at its first member of the union: what it asks for in the first part is the statement's, what it asks
    for from the member on is the union's. (3) The text of a statement with a union is that of the
    statement alone, with the blanks at its end that were cut off, and then the members, order, limit and
    offset of the union and the lock, whose text is without blanks at its end. -/
theorem union_routing :
    (∀ (chain : Chain) (q : Statement), chain.build = .ok q →
      q.unionTail.orders ≠ [] ∨ q.unionTail.limit ≠ none ∨ q.unionTail.offset ≠ none →
      q.unions ≠ []) ∧
    (∀ (setting : Setting) (calls : List Call) (q : Statement), (∀ other, .merge other ∉ calls) →
      (fresh setting).applyAll calls = .ok q →
      q.tail = issued (beforeUnion (sinceStart calls)) ∧
      q.unionTail = issued (fromUnion (sinceStart calls)) ∧
      q.unions = (sinceStart calls).filterMap Call.member?) ∧
    ∀ (d : Dialect) (q : Statement) (s : String), q.unions ≠ [] →
      (d.renderSelect q = .ok s ↔
        ∃ own blanks sqls orders, d.renderSelect q.alone = .ok own ∧
          d.clausesInRow q.alone = .ok (own ++ blanks) ∧ Text.allBlank blanks = true ∧
          d.MemberSqls q.unions sqls ∧ d.renderOrders q.unionTail.orders = .ok orders ∧
          s = own ++ blanks ++ membersText q.unions sqls ++ Dialect.tailText orders q.unionTail ++
            Text.trimEnd (Text.spaced (d.lockText q.lock))) := by
  refine ⟨fun chain q h hset hunions => ?_, fun setting calls q hmerge h => ?_, fun d q s hq => ?_⟩
  · rw [Chain.unionTail_build h hunions] at hset
    rcases hset with horders | hlimit | hoffset
    · exact horders rfl
    · exact hlimit rfl
    · exact hoffset rfl
  · have hrouted := routed_applyAll hmerge h
    exact ⟨hrouted.tail, hrouted.unionTail, hrouted.unions⟩
  · exact Dialect.renderSelect_of_union hq

end Statement

/-! ## Goods together with old ones -/

/-- The old goods. -/
def oldGoods : Chain :=
  (Chain.fresh {}).plain (.table (.named "old"))

/-- The goods that meet a condition, together with the old ones. The condition is raw text with a blank at
    its end. -/
def dearGoodsInUnion : Chain :=
  .call (((Chain.fresh {}).plain (.table (.named "goods"))).plain (.whereRaw .and "price > cost " []))
    (.union false (.fresh {})) fun _ => oldGoods

/-- The blank stays before the union: `SELECT * FROM goods WHERE price > cost  UNION SELECT * FROM old`. -/
theorem dearGoodsInUnion_text :
    ∃ q own sql, dearGoodsInUnion.build = .ok q ∧ q.unions.length = 1 ∧ q.unionTail = {} ∧
      q.lock = none ∧ q.alone.selectSql = .ok own ∧
      q.setting.dialect.MemberSqls q.unions [sql] ∧
      q.selectSql = .ok (own ++ " " ++ membersText q.unions [sql]) ∧
      q.selectSql ≠ .ok (own ++ membersText q.unions [sql]) := by
  refine ⟨_, "SELECT * FROM \x60goods\x60 WHERE price > cost", "SELECT * FROM \x60old\x60", rfl, rfl, rfl,
    rfl, ?_, ?_, ?_, ?_⟩
  · decide +kernel
  · exact .cons (by decide +kernel) .nil
  · decide +kernel
  · decide +kernel

/-- A statement into which five old goods of two lists are folded. -/
def foldedUnion : Chain :=
  .call (.fresh {}) (.merge (.fresh {})) fun _ =>
    Chain.plain (.call oldGoods (.union true (.fresh {})) fun _ => oldGoods) (.limit 5)

/-- The second page of goods by name, together with old ones. What is asked for before the new statement
    is dropped; what is asked for after the union is for all of it. -/
def pagedUnion : List Call :=
  [.limit 3, .newQuery, .table (.named "goods"), .limit 99, .orderBy (.named "name") .ascending,
    .page 2 10, .union true ((Statement.fresh {}).withTable (.named "old")), .limit 7,
    .orderBy (.named "id") .descending, .offset (-4), .limit 20, .lock (.raw "FOR UPDATE ")]

/-- The limit of the folded statement comes with its members, and each limit of the other stands where it
    was set: `SELECT * FROM goods ORDER BY name ASC LIMIT 10 OFFSET 10 UNION ALL SELECT * FROM old
    ORDER BY id DESC LIMIT 20 FOR UPDATE`. -/
theorem union_routing_pagedUnion :
    (∃ q, foldedUnion.build = .ok q ∧ q.unionTail.limit ≠ none ∧ q.unions ≠ []) ∧
    ∃ q, (∀ other, .merge other ∉ pagedUnion) ∧ (Statement.fresh {}).applyAll pagedUnion = .ok q ∧
      q.tail =
        { orders := [.column (.named "name") .ascending], limit := some 10, offset := some 10 } ∧
      q.unionTail =
        { orders := [.column (.named "id") .descending], limit := some 20, offset := some 0 } ∧
      q.unions ≠ [] ∧
      q.selectSql = .ok
        ("SELECT * FROM \x60goods\x60 ORDER BY \x60name\x60 ASC LIMIT 10 OFFSET 10" ++
          " UNION ALL SELECT * FROM \x60old\x60" ++ " ORDER BY \x60id\x60 DESC LIMIT 20" ++
          " FOR UPDATE") := by
  obtain ⟨hfolded, hchain, htext⟩ := Statement.union_routing
  constructor
  · obtain ⟨q, hq, hlimit⟩ : ∃ q, foldedUnion.build = .ok q ∧ q.unionTail.limit ≠ none :=
      ⟨_, rfl, by decide⟩
    exact ⟨q, hq, hlimit, hfolded foldedUnion q hq (.inr (.inl hlimit))⟩
  · have hmerge : ∀ other, .merge other ∉ pagedUnion := by
      intro other
      simp [pagedUnion]
    obtain ⟨q, hq, hsetting, hlock, halone⟩ : ∃ q, (Statement.fresh {}).applyAll pagedUnion = .ok q ∧
        q.setting = {} ∧ q.lock = some (.raw "FOR UPDATE ") ∧
        q.alone = { Statement.fresh {} with
          table := some (.named "goods")
          tail :=
            { orders := [.column (.named "name") .ascending], limit := some 10, offset := some 10 } } :=
      ⟨_, rfl, rfl, rfl, rfl⟩
    obtain ⟨htail, hunionTail, hunions⟩ := hchain {} pagedUnion q hmerge hq
    have hmembers : q.unions = [⟨true, (Statement.fresh {}).withTable (.named "old")⟩] := hunions
    have hne : q.unions ≠ [] := hmembers ▸ List.cons_ne_nil _ _
    refine ⟨q, hmerge, hq, htail, hunionTail, hne, ?_⟩
    rw [Statement.selectSql, hsetting, htext {} q _ hne]
    refine ⟨"SELECT * FROM \x60goods\x60 ORDER BY \x60name\x60 ASC LIMIT 10 OFFSET 10", "",
      ["SELECT * FROM \x60old\x60"], "ORDER BY \x60id\x60 DESC", ?_, ?_, rfl, ?_, ?_, ?_⟩
    · rw [halone]
      decide +kernel
    · rw [halone]
      decide +kernel
    · rw [hmembers]
      exact .cons (by decide +kernel) .nil
    · rw [hunionTail]
      decide +kernel
    · rw [hmembers, hunionTail, hlock]
      decide +kernel

end FluentSql
