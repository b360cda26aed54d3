import FluentSql.Proofs.Alignment.Clauses
import FluentSql.Proofs.Depth
import FluentSql.Proofs.Embedded.Revision
import FluentSql.Statement.Writing

/-!
# `Refusal` — which statements have no text

No dialect writes raw text into an ORDER BY list. A statement has no text exactly if the text would come
to such an entry: in its own order, in that of a subquery, of a member of its union or of the union as a
whole. The order of a group is never written, and neither is that of a union without members. The first
entry that the text would come to decides the error. A DELETE or an UPDATE needs a table before anything
else, and of the orders it comes only to those inside its conditions.

## Contents
- `Statement.rawOrders`, the raw entries in the order of the text.
- `FailsAtFirst`, a computation that fails at the first of a list of entries, with its rule `bind`.
- `Dialect.renderSelect_failsAtFirst`, one recursion over the statement and what it embeds.
- `Dialect.renderDelete_eq_error_iff`, `renderUpdate_eq_error_iff`, and `Dialect.refused_iff` with all
  three texts.
-/

namespace FluentSql

/-! ## Raw entries -/

/-- The text of a raw entry. -/
def Order.raw? : Order → Option String
  | .column _ _ => none
  | .raw sql => some sql

mutual

/-- The raw entries of the orders that the text of a statement comes to, in the order of the text. -/
def Statement.rawOrders : Statement → List String
  | { wheres, tail, unions, unionTail, .. } =>
    rawInCriteria wheres ++ tail.orders.filterMap Order.raw? ++ rawInMembers unions
      ++ if unions.isEmpty then [] else unionTail.orders.filterMap Order.raw?

/-- The raw entries that the text of conditions comes to. -/
def rawInCriteria : List Criterion → List String
  | [] => []
  | { predicate, .. } :: criteria => predicate.rawOrders ++ rawInCriteria criteria

/-- The raw entries that the text of a condition comes to: of a group, only those in its conditions. -/
def Predicate.rawOrders : Predicate → List String
  | .group query => query.rawInGroup
  | .subquery _ _ query => query.rawOrders
  | .existence query _ => query.rawOrders
  | .memberOf _ query _ => query.rawOrders
  | .comparison .. | .raw _ | .between .. | .member .. | .nullCheck .. => []

def Statement.rawInGroup : Statement → List String
  | { wheres, .. } => rawInCriteria wheres

def rawInMembers : List UnionMember → List String
  | [] => []
  | { query, .. } :: members => query.rawOrders ++ rawInMembers members

end

/-! ## Failing at the first entry -/

/-- The error names the first of the entries, as not supported. -/
def NamesFirst (raws : List String) (e : Error) : Prop :=
  ∃ sql, raws.head? = some sql ∧ e = .rawOrder sql ∧ e.kind = .unsupported

/-- The error of a statement that lacks the table that it needs. -/
def MissesTable (q : Statement) (statement : String) (e : Error) : Prop :=
  q.table = none ∧ e = .missingTable statement ∧ e.kind = .compilation

/-- Without raw entries there is a result, and else the error of the first of them. -/
inductive FailsAtFirst {α : Type} : List String → Except Error α → Prop where
  | pass (a : α) : FailsAtFirst [] (.ok a)
  | fail (sql : String) (rest : List String) : FailsAtFirst (sql :: rest) (.error (.rawOrder sql))

namespace FailsAtFirst

variable {α β : Type} {raws raws' : List String} {x : Except Error α}

/-- One step after the other: the entries of the first come first. -/
theorem bind {f : α → Except Error β} (h : FailsAtFirst raws x)
    (h' : ∀ a, x = .ok a → FailsAtFirst raws' (f a)) : FailsAtFirst (raws ++ raws') (x >>= f) := by
  cases h with
  | pass a => exact h' a rfl
  | fail sql rest => exact .fail sql (rest ++ raws')

/-- What is made of a result adds no entries. -/
theorem map (h : FailsAtFirst raws x) (f : α → β) : FailsAtFirst raws (x >>= fun a => .ok (f a)) := by
  cases h with
  | pass a => exact .pass (f a)
  | fail sql rest => exact .fail sql rest

/-- The only error is that of the first entry. -/
theorem eq_error_iff (h : FailsAtFirst raws x) {e : Error} : x = .error e ↔ NamesFirst raws e := by
  cases h with
  | pass a =>
    constructor
    · nofun
    · rintro ⟨_, hnone, _⟩
      cases hnone
  | fail sql rest =>
    constructor
    · intro h
      obtain rfl := Except.error.inj h
      exact ⟨sql, rfl, rfl, rfl⟩
    · rintro ⟨_, hsome, rfl, _⟩
      obtain rfl := Option.some.inj hsome
      rfl

end FailsAtFirst

namespace Dialect

variable (d : Dialect)

/-! ## Orders -/

theorem renderOrders_failsAtFirst (orders : List Order) :
    FailsAtFirst (orders.filterMap Order.raw?) (d.renderOrders orders) := by
  have hentries : FailsAtFirst (orders.filterMap Order.raw?) (orders.mapM d.renderOrder) := by
    induction orders with
    | nil => exact .pass []
    | cons order orders ih =>
      rw [List.mapM_cons]
      cases order with
      | column column direction => exact ih.map _
      | raw sql => exact .fail sql _
  unfold renderOrders
  split
  · next hnil =>
    obtain rfl := List.isEmpty_iff.mp hnil
    exact .pass ""
  · exact hentries.map _

/-! ## Statements -/

/-- A condition without a statement in it has a text. -/
theorem predicateText_of_query?_eq_none {p : Predicate} (h : p.query? = none) :
    ∃ text, d.predicateText p = .ok text := by
  cases p with
  | group | subquery | existence | memberOf => cases h
  | _ => exact ⟨_, rfl⟩

theorem criterionTexts_of_bare {criteria : List Criterion}
    (h : ∀ c ∈ criteria, c.predicate.query? = none) :
    ∃ texts, d.criterionTexts criteria = .ok texts := by
  induction criteria with
  | nil => exact ⟨[], rfl⟩
  | cons c criteria ih =>
    cases c with
    | mk connector predicate =>
      obtain ⟨text, htext⟩ := d.predicateText_of_query?_eq_none (h _ List.mem_cons_self)
      obtain ⟨texts, htexts⟩ := ih fun c hc => h c (List.mem_cons_of_mem _ hc)
      exact ⟨_, by rw [criterionTexts, criterionText, htext, htexts]; rfl⟩

theorem renderUnions_failsAtFirst (members : List String) (tail : Tail) :
    FailsAtFirst (if members.isEmpty then [] else tail.orders.filterMap Order.raw?)
      (d.renderUnions members tail) := by
  unfold renderUnions
  split
  · exact .pass ""
  · exact (d.renderOrders_failsAtFirst tail.orders).map _

mutual

/-- **The text of a statement** fails at the first raw entry that it comes to. -/
theorem renderSelect_failsAtFirst : (q : Statement) → q.Everywhere Statement.BareHavings →
    FailsAtFirst q.rawOrders (d.renderSelect q)
  | .mk setting bindings aggregate columns distinct table joins wheres groups havings tail unions
      unionTail lock, hq => by
    obtain ⟨hbare, hwheres, hunions⟩ := Statement.everywhere_iff.mp hq
    -- conditions on groups embed nothing, so that the text comes to no order in them
    obtain ⟨texts, htexts⟩ := d.criterionTexts_of_bare hbare
    rw [Statement.rawOrders, renderSelect, htexts]
    simp only [List.append_assoc]
    refine (criterionTexts_failsAtFirst wheres hwheres).bind fun _ _ => ?_
    refine (d.renderOrders_failsAtFirst tail.orders).bind fun _ _ => ?_
    refine (memberTexts_failsAtFirst unions hunions).bind fun members hmembers => ?_
    rw [← memberTexts_isEmpty hmembers]
    exact (d.renderUnions_failsAtFirst members unionTail).map _

theorem criterionTexts_failsAtFirst : (criteria : List Criterion) →
    (∀ c ∈ criteria, c.predicate.Inside Statement.BareHavings) →
    FailsAtFirst (rawInCriteria criteria) (d.criterionTexts criteria)
  | [], _ => .pass []
  | { connector, predicate } :: criteria, h => by
    have hhead := predicateText_failsAtFirst predicate (h _ List.mem_cons_self)
    have htail := criterionTexts_failsAtFirst criteria fun c hc => h c (List.mem_cons_of_mem _ hc)
    rw [rawInCriteria, criterionTexts, criterionText]
    exact (hhead.map _).bind fun _ _ => htail.map _

theorem predicateText_failsAtFirst : (p : Predicate) → p.Inside Statement.BareHavings →
    FailsAtFirst p.rawOrders (d.predicateText p)
  | .group query, h => by
    rw [Predicate.rawOrders, predicateText]
    exact (groupTexts_failsAtFirst query (h query rfl)).map _
  | .subquery column operator query, h => by
    rw [Predicate.rawOrders, predicateText]
    exact (renderSelect_failsAtFirst query (h query rfl)).map _
  | .existence query negated, h => by
    rw [Predicate.rawOrders, predicateText]
    exact (renderSelect_failsAtFirst query (h query rfl)).map _
  | .memberOf column query negated, h => by
    rw [Predicate.rawOrders, predicateText]
    exact (renderSelect_failsAtFirst query (h query rfl)).map _
  | .comparison .., _ | .raw _, _ | .between .., _ | .member .., _ | .nullCheck .., _ => .pass _

theorem groupTexts_failsAtFirst : (q : Statement) → q.Everywhere Statement.BareHavings →
    FailsAtFirst q.rawInGroup (d.groupTexts q)
  | .mk setting bindings aggregate columns distinct table joins wheres groups havings tail unions
      unionTail lock, hq => by
    obtain ⟨_, hwheres, _⟩ := Statement.everywhere_iff.mp hq
    exact criterionTexts_failsAtFirst wheres hwheres

theorem memberTexts_failsAtFirst : (members : List UnionMember) →
    (∀ u ∈ members, u.query.Everywhere Statement.BareHavings) →
    FailsAtFirst (rawInMembers members) (d.memberTexts members)
  | [], _ => .pass []
  | { all, query } :: members, h => by
    have hhead := renderSelect_failsAtFirst query (h _ List.mem_cons_self)
    have htail := memberTexts_failsAtFirst members fun u hu => h u (List.mem_cons_of_mem _ hu)
    rw [rawInMembers, memberTexts]
    exact hhead.bind fun _ _ => htail.map _

end

/-! ## Statements that need a table -/

/-- The table is looked for first, and what is made of it fails at the first entry. -/
theorem tableFor_bind_eq_error_iff {α : Type} {f : String → Except Error α} {raws : List String}
    (hf : ∀ table, FailsAtFirst raws (f table)) (q : Statement) (statement : String) {e : Error} :
    (d.tableFor q statement >>= f) = .error e ↔
      MissesTable q statement e ∨ (q.table ≠ none ∧ NamesFirst raws e) := by
  unfold tableFor
  cases htable : q.table with
  | none =>
    constructor
    · intro h
      obtain rfl := Except.error.inj h
      exact .inl ⟨htable, rfl, rfl⟩
    · rintro (⟨_, rfl, _⟩ | ⟨hsome, _⟩)
      · rfl
      · exact absurd rfl hsome
  | some table =>
    have hfirst : f (d.quoteTable table) = .error e ↔ NamesFirst raws e :=
      (hf (d.quoteTable table)).eq_error_iff
    constructor
    · exact fun h => .inr ⟨Option.some_ne_none table, hfirst.mp h⟩
    · rintro (⟨hnone, _⟩ | ⟨_, h⟩)
      · exact absurd (htable.symm.trans hnone) (Option.some_ne_none table)
      · exact hfirst.mpr h

variable {q : Statement} (hq : q.Everywhere Statement.BareHavings) {e : Error}

include hq

theorem renderWheres_failsAtFirst : FailsAtFirst (rawInCriteria q.wheres) (d.renderWheres q) :=
  (d.criterionTexts_failsAtFirst q.wheres (Statement.everywhere_iff.mp hq).2.1).map _

theorem renderDelete_eq_error_iff :
    d.renderDelete q = .error e ↔
      MissesTable q "delete" e ∨ (q.table ≠ none ∧ NamesFirst (rawInCriteria q.wheres) e) :=
  d.tableFor_bind_eq_error_iff (fun _ => (d.renderWheres_failsAtFirst hq).map _) q "delete"

theorem renderUpdate_eq_error_iff (record : Record) :
    d.renderUpdate q record = .error e ↔
      MissesTable q "update" e ∨ (q.table ≠ none ∧ NamesFirst (rawInCriteria q.wheres) e) :=
  d.tableFor_bind_eq_error_iff (fun _ => (d.renderWheres_failsAtFirst hq).map _) q "update"

omit hq in
/-- **Statements without a text.** A SELECT is refused exactly if its text comes to a raw entry of an
    order, and for the first one. A DELETE and an UPDATE are refused exactly if they lack a table, which
    is looked for first, or if their conditions come to a raw entry. This is so for every statement that
    calls build, and whenever conditions on groups embed no statement, at any depth. -/
theorem refused_iff :
    (∀ (chain : Chain) (q : Statement), chain.build = .ok q → q.Everywhere Statement.BareHavings) ∧
    ∀ q : Statement, q.Everywhere Statement.BareHavings → ∀ e : Error,
      (d.renderSelect q = .error e ↔ NamesFirst q.rawOrders e) ∧
      (d.renderDelete q = .error e ↔
        MissesTable q "delete" e ∨ (q.table ≠ none ∧ NamesFirst (rawInCriteria q.wheres) e)) ∧
      ∀ record : Record, d.renderUpdate q record = .error e ↔
        MissesTable q "update" e ∨ (q.table ≠ none ∧ NamesFirst (rawInCriteria q.wheres) e) := by
  refine ⟨fun _ _ => Chain.everywhere_bareHavings, fun q hq e => ⟨?_, ?_, fun record => ?_⟩⟩
  · exact (d.renderSelect_failsAtFirst q hq).eq_error_iff
  · exact d.renderDelete_eq_error_iff hq
  · exact d.renderUpdate_eq_error_iff hq record

end Dialect

/-! ## Raw orders at four places -/

/-- Goods of some orders, in a union with others. A raw entry stands in the order of a group, of the
    subquery, of the member and of the union. -/
def shuffledGoods : Chain :=
  let goods := (Chain.fresh {}).plain (.table (.named "goods"))
  let group := ((Chain.fresh {}).plain (.whereRaw .and "price > cost" [])).plain (.orderByRaw "margin" [])
  let orders := (Chain.fresh {}).plain (.orderByRaw "placed + 1" [])
  let others := (Chain.fresh {}).plain (.orderByRaw "RANDOM()" [])
  let grouped := Chain.call goods (.group .and (.fresh {})) fun _ => group
  let ordered := Chain.call grouped (.membership .and false (.named "id") (.query (.fresh {})))
    fun _ => orders
  (Chain.call ordered (.union false (.fresh {})) fun _ => others).plain (.orderByRaw "LENGTH(name)" [])

/-- The text comes to the order of the subquery first, and never to that of the group; a new statement
    lacks a table. -/
theorem refused_iff_shuffledGoods :
    ∃ q q', shuffledGoods.build = .ok q ∧ (shuffledGoods.plain .newQuery).build = .ok q' ∧
      q.rawOrders = ["placed + 1", "RANDOM()", "LENGTH(name)"] ∧
      ∀ d : Dialect, d.renderSelect q = .error (.rawOrder "placed + 1") ∧
        d.renderDelete q = .error (.rawOrder "placed + 1") ∧
        ∀ record, d.renderUpdate q' record = .error (.missingTable "update") := by
  obtain ⟨q, q', hq, hq', hraws, hwheres, htable, htable'⟩ : ∃ q q', shuffledGoods.build = .ok q ∧
      (shuffledGoods.plain .newQuery).build = .ok q' ∧
      q.rawOrders = ["placed + 1", "RANDOM()", "LENGTH(name)"] ∧
      rawInCriteria q.wheres = ["placed + 1"] ∧ q.table = some (.named "goods") ∧ q'.table = none :=
    ⟨_, _, rfl, rfl, rfl, rfl, rfl, rfl⟩
  refine ⟨q, q', hq, hq', hraws, fun d => ?_⟩
  obtain ⟨hbuilt, hrefused⟩ := d.refused_iff
  obtain ⟨hselect, hdelete, _⟩ := hrefused q (hbuilt shuffledGoods q hq) (.rawOrder "placed + 1")
  obtain ⟨_, _, hupdate⟩ := hrefused q' (hbuilt _ q' hq') (.missingTable "update")
  refine ⟨hselect.mpr ?_, hdelete.mpr (.inr ⟨?_, ?_⟩), fun record => (hupdate record).mpr (.inl ?_)⟩
  · exact ⟨_, by rw [hraws]; rfl, rfl, rfl⟩
  · rw [htable]; exact Option.some_ne_none _
  · exact ⟨_, by rw [hwheres]; rfl, rfl, rfl⟩
  · exact ⟨htable', rfl, rfl⟩

end FluentSql
