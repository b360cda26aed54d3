import FluentSql.Statement.Call
import Mathlib.Data.List.Forall2
import Mathlib.Data.List.OfFn

/-!
# `Chain` — statements by the chain of calls that builds them

A statement forgets how it was built: the values of a raw condition, say, are in its bindings and the
text in its conditions. A chain keeps the calls. It starts with a fresh statement; where a call takes
statements as arguments, the chains of those are part of it.

## Contents
- `Call.embedded` and `Call.supply`, the statements among the arguments of a call.
- `Call.supplies`: supplying a call with statements puts them in place of those that it embeds.
- `Chain`, with `build`, and `run`, which changes every call before it is applied.
- `Chain.run_call_eq_ok`, what a call makes of what was built so far, and `Chain.run_invariant`, what
  holds of every statement that calls build.
-/

namespace FluentSql

/-! ## Statements among the arguments of a call -/

/-- The statement of an operand. -/
def Operand.embedded : Operand → List Statement
  | .query q => [q]
  | _ => []

/-- The operand with another statement. -/
def Operand.supply (queries : List Statement) : Operand → Operand
  | .query q => .query (queries.headD q)
  | operand => operand

/-- The parts of a list, each with as many of the statements as it embeds. -/
def supplyEach {α : Type} (embedded : α → List Statement) (supply : List Statement → α → α) :
    List Statement → List α → List α
  | _, [] => []
  | queries, x :: xs =>
    supply queries x :: supplyEach embedded supply (queries.drop (embedded x).length) xs

/-- The statements of an entry of column, operator and operand. -/
def embeddedInEntry (entry : List Operand) : List Statement :=
  entry.flatMap Operand.embedded

/-- The entry with other statements. -/
def supplyEntry (queries : List Statement) (entry : List Operand) : List Operand :=
  supplyEach Operand.embedded Operand.supply queries entry

/-- The statements of a condition, in the order in which they are given. -/
def Condition.embedded : Condition → List Statement
  | .equalities pairs => pairs.flatMap fun pair => pair.2.embedded
  | .group q => [q]
  | .triples entries => entries.flatMap embeddedInEntry
  | .column _ _ operand => operand.toList.flatMap Operand.embedded

/-- The condition with other statements. -/
def Condition.supply (queries : List Statement) : Condition → Condition
  | .equalities pairs =>
    .equalities (supplyEach (fun pair => pair.2.embedded)
      (fun queries pair => (pair.1, pair.2.supply queries)) queries pairs)
  | .group q => .group (queries.headD q)
  | .triples entries => .triples (supplyEach embeddedInEntry supplyEntry queries entries)
  | .column name operator operand =>
    .column name operator (operand.map fun operand => operand.supply queries)

/-- The statement in which a column is looked up. -/
def Membership.embedded : Membership → List Statement
  | .query q => [q]
  | .values _ => []

def Membership.supply (queries : List Statement) : Membership → Membership
  | .query q => .query (queries.headD q)
  | source => source

/-- The statement of a subselect. -/
def Subselect.embedded : Subselect → List Statement
  | .query q => [q]
  | .text _ => []

def Subselect.supply (queries : List Statement) : Subselect → Subselect
  | .query q => .query (queries.headD q)
  | source => source

namespace Call

/-- The statements among the arguments of a call. -/
def embedded : Call → List Statement
  | .selectSub source _ => source.embedded
  | .compare _ _ _ operand => operand.toList.flatMap Operand.embedded
  | .condition _ given => given.embedded
  | .group _ query | .existence _ _ query | .union _ query | .merge query => [query]
  | .membership _ _ _ source => source.embedded
  | _ => []

/-- The call with other statements among its arguments. -/
def supply (queries : List Statement) : Call → Call
  | .selectSub source label => .selectSub (source.supply queries) label
  | .compare connector column operator operand =>
    .compare connector column operator (operand.map fun operand => operand.supply queries)
  | .condition connector given => .condition connector (given.supply queries)
  | .group connector query => .group connector (queries.headD query)
  | .existence connector negated query => .existence connector negated (queries.headD query)
  | .membership connector negated column source =>
    .membership connector negated column (source.supply queries)
  | .union all query => .union all (queries.headD query)
  | .merge query => .merge (queries.headD query)
  | call => call

end Call

/-! ### Supplying replaces what is embedded -/

/-- Supplying a part with enough statements makes the first of them those that it embeds. -/
def Supplies {α : Type} (embedded : α → List Statement) (supply : List Statement → α → α) : Prop :=
  ∀ x queries, (embedded x).length ≤ queries.length →
    embedded (supply queries x) = queries.take (embedded x).length

theorem take_one_eq {queries : List Statement} {q : Statement} (h : 1 ≤ queries.length) :
    [queries.headD q] = queries.take 1 := by
  cases queries with
  | nil => simp at h
  | cons e es => rfl

/-- The parts of a list take the statements one part after the other. -/
theorem Supplies.each {α : Type} {embedded : α → List Statement}
    {supply : List Statement → α → α} (h : Supplies embedded supply) :
    Supplies (fun xs => xs.flatMap embedded) (supplyEach embedded supply) := by
  intro xs queries hlen
  induction xs generalizing queries with
  | nil => rfl
  | cons x xs ih =>
    -- the first part takes its share from the front, and the others go on with what is left
    simp only [List.flatMap_cons, List.length_append] at hlen ih ⊢
    rw [supplyEach, List.flatMap_cons, List.take_add, h x queries (by omega),
      ih _ (by rw [List.length_drop]; omega)]

theorem supplies_operand : Supplies Operand.embedded Operand.supply := by
  intro operand queries hlen
  cases operand with
  | query q => exact take_one_eq hlen
  | _ => rfl

theorem supplies_entry : Supplies embeddedInEntry supplyEntry :=
  supplies_operand.each

theorem supplies_pair :
    Supplies (fun pair : String × Operand => pair.2.embedded)
      fun queries pair => (pair.1, pair.2.supply queries) :=
  fun pair queries hlen => supplies_operand pair.2 queries hlen

theorem supplies_optionalOperand :
    Supplies (fun operand : Option Operand => operand.toList.flatMap Operand.embedded)
      fun queries operand => operand.map fun operand => operand.supply queries := by
  intro operand queries hlen
  cases operand with
  | none => rfl
  | some operand =>
    simp only [Option.map_some, Option.toList_some, List.flatMap_singleton] at hlen ⊢
    exact supplies_operand operand queries hlen

theorem supplies_condition : Supplies Condition.embedded Condition.supply := by
  intro given queries hlen
  cases given with
  | equalities pairs => exact supplies_pair.each pairs queries hlen
  | group q => exact take_one_eq hlen
  | triples entries => exact supplies_entry.each entries queries hlen
  | column name operator operand => exact supplies_optionalOperand operand queries hlen

/-- **A call** with other statements among its arguments embeds these. -/
theorem Call.supplies : Supplies Call.embedded Call.supply := by
  intro c queries hlen
  cases c with
  | selectSub source label =>
    cases source with
    | query q => exact take_one_eq hlen
    | text sql => rfl
  | compare connector column operator operand =>
    exact supplies_optionalOperand operand queries hlen
  | condition connector given => exact supplies_condition given queries hlen
  | group connector q => exact take_one_eq hlen
  | existence connector negated q => exact take_one_eq hlen
  | membership connector negated column source =>
    cases source with
    | query q => exact take_one_eq hlen
    | values values => rfl
  | union all q => exact take_one_eq hlen
  | merge q => exact take_one_eq hlen
  | _ => rfl

/-- Given as many statements as it embeds, a call embeds just these. -/
theorem Call.embedded_supply {c : Call} {queries : List Statement}
    (h : queries.length = c.embedded.length) : (c.supply queries).embedded = queries := by
  rw [Call.supplies c queries (Nat.le_of_eq h.symm), ← h, List.take_length]

/-! ## Chains -/

/-- A chain of calls. In place of the statements among the arguments of `step` come those that the
    chains of `source` build, in the same order. -/
inductive Chain where
  | fresh (setting : Setting)
  | call (chain : Chain) (step : Call) (source : Fin step.embedded.length → Chain)

namespace Chain

/-- One call more; where it takes statements, they are fresh. -/
def plain (chain : Chain) (step : Call) : Chain :=
  .call chain step fun _ => .fresh {}

/-- The statement of a chain when every call is changed before it is applied, in the chains of
    embedded statements as well. -/
def run (change : Call → Call) : Chain → Except Error Statement
  | .fresh setting => .ok (.fresh setting)
  | .call chain step source => do
    let q ← chain.run change
    let queries ← (List.ofFn fun i => (source i).run change).mapM id
    (change (step.supply queries)).apply q

/-- The statement that a chain builds. -/
def build (chain : Chain) : Except Error Statement :=
  chain.run id

end Chain

/-! ## Results of steps -/

/-- A computation in two steps gives a result when both do. -/
theorem bind_eq_ok {α β : Type} {x : Except Error α} {f : α → Except Error β} {b : β} :
    (x >>= f) = .ok b ↔ ∃ a, x = .ok a ∧ f a = .ok b := by
  cases x with
  | error e => exact ⟨fun h => (nomatch h), fun ⟨_, h, _⟩ => (nomatch h)⟩
  | ok a => exact ⟨fun h => ⟨a, rfl, h⟩, fun ⟨_, ha, hf⟩ => (Except.ok.inj ha) ▸ hf⟩

theorem map_eq_ok {α β : Type} {x : Except Error α} {f : α → β} {b : β} :
    x.map f = .ok b ↔ ∃ a, x = .ok a ∧ f a = b := by
  cases x with
  | error e => exact ⟨fun h => (nomatch h), fun ⟨_, h, _⟩ => (nomatch h)⟩
  | ok a => simp [Except.map]

theorem length_of_mapM {α : Type} {xs : List (Except Error α)} {as : List α}
    (h : xs.mapM id = .ok as) : as.length = xs.length := by
  induction xs generalizing as with
  | nil => rw [← Except.ok.inj h]; rfl
  | cons x xs ih =>
    rw [List.mapM_cons] at h
    obtain ⟨a, _, h⟩ := bind_eq_ok.mp h
    obtain ⟨rest, hrest, h⟩ := bind_eq_ok.mp h
    rw [← Except.ok.inj h, List.length_cons, List.length_cons, ih hrest]

/-- Every result is that of one of the computations. -/
theorem mem_of_mapM {α : Type} {xs : List (Except Error α)} {as : List α}
    (h : xs.mapM id = .ok as) {a : α} (ha : a ∈ as) : .ok a ∈ xs := by
  induction xs generalizing as with
  | nil =>
    obtain rfl : [] = as := Except.ok.inj h
    exact absurd ha List.not_mem_nil
  | cons x xs ih =>
    rw [List.mapM_cons] at h
    obtain ⟨b, hb, h⟩ := bind_eq_ok.mp h
    obtain ⟨rest, hrest, h⟩ := bind_eq_ok.mp h
    obtain rfl : b :: rest = as := Except.ok.inj h
    rcases List.mem_cons.mp ha with rfl | ha
    · exact List.mem_cons.mpr (.inl hb.symm)
    · exact List.mem_cons_of_mem _ (ih hrest ha)

/-- Computations whose results are related one by one have related lists of results. -/
theorem mapM_related {α β : Type} {R : α → β → Prop} {xs : List (Except Error α)}
    {ys : List (Except Error β)} {as : List α} (h : xs.mapM id = .ok as)
    (hxy : List.Forall₂ (fun x y => ∀ a, x = .ok a → ∃ b, y = .ok b ∧ R a b) xs ys) :
    ∃ bs, ys.mapM id = .ok bs ∧ List.Forall₂ R as bs := by
  induction hxy generalizing as with
  | nil =>
    obtain rfl : [] = as := Except.ok.inj h
    exact ⟨[], rfl, .nil⟩
  | @cons x y xs ys hhead _ ih =>
    rw [List.mapM_cons] at h
    obtain ⟨a, ha, h⟩ := bind_eq_ok.mp h
    obtain ⟨rest, hrest, h⟩ := bind_eq_ok.mp h
    obtain rfl : a :: rest = as := Except.ok.inj h
    obtain ⟨b, hb, hab⟩ := hhead a ha
    obtain ⟨bs, hbs, htail⟩ := ih hrest
    refine ⟨b :: bs, ?_, .cons hab htail⟩
    have hy : id y = .ok b := hb
    rw [List.mapM_cons, hy, hbs]
    rfl

theorem forall₂_ofFn {α β : Type} {R : α → β → Prop} {n : Nat} {f : Fin n → α} {g : Fin n → β}
    (h : ∀ i, R (f i) (g i)) : List.Forall₂ R (List.ofFn f) (List.ofFn g) := by
  rw [List.forall₂_iff_get]
  refine ⟨by simp, fun i hi hi' => ?_⟩
  simpa using h ⟨i, by simpa using hi⟩

namespace Chain

/-- What a call gives: the chain before it, the embedded statements and the call itself succeed. -/
theorem run_call_eq_ok {change : Call → Call} {chain : Chain} {step : Call}
    {source : Fin step.embedded.length → Chain} {q : Statement} :
    (Chain.call chain step source).run change = .ok q ↔
      ∃ q₀ queries, chain.run change = .ok q₀ ∧
        (List.ofFn fun i => (source i).run change).mapM id = .ok queries ∧
        (change (step.supply queries)).apply q₀ = .ok q := by
  rw [run, bind_eq_ok]
  simp only [bind_eq_ok]
  exact ⟨fun ⟨q₀, h₀, es, hes, h⟩ => ⟨q₀, es, h₀, hes, h⟩,
    fun ⟨q₀, es, h₀, hes, h⟩ => ⟨q₀, h₀, es, hes, h⟩⟩

/-- A statement that is given to a call is built by one of the chains in its place. -/
theorem exists_source_eq_ok {change : Call → Call} {step : Call}
    {source : Fin step.embedded.length → Chain} {queries : List Statement}
    (h : (List.ofFn fun i => (source i).run change).mapM id = .ok queries) {e : Statement}
    (he : e ∈ queries) : ∃ i, (source i).run change = .ok e :=
  List.mem_ofFn.mp (mem_of_mapM h he)

/-- **Invariants.** Fresh statements have the property, and what a call makes of statements that have it
    has it: so has every statement that calls build, however they are changed. -/
theorem run_invariant {P : Statement → Prop} {change : Call → Call}
    (hfresh : ∀ setting, P (.fresh setting))
    (hcall : ∀ (c : Call) (q q' : Statement), P q → (∀ e ∈ c.embedded, P e) →
      (change c).apply q = .ok q' → P q')
    {chain : Chain} {q : Statement} (h : chain.run change = .ok q) : P q := by
  induction chain generalizing q with
  | fresh setting =>
    rw [← Except.ok.inj h]
    exact hfresh setting
  | call chain step source ih ihs =>
    obtain ⟨q₀, queries, h₀, hqueries, h⟩ := run_call_eq_ok.mp h
    have hlen : queries.length = step.embedded.length := by
      rw [length_of_mapM hqueries, List.length_ofFn]
    refine hcall (step.supply queries) q₀ q (ih h₀) (fun e he => ?_) h
    -- the statements among the arguments are those that the chains in their place build
    rw [Call.embedded_supply hlen] at he
    obtain ⟨i, hi⟩ := exists_source_eq_ok hqueries he
    exact ihs i hi

end Chain

end FluentSql
