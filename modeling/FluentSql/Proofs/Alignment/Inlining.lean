import FluentSql.Proofs.Chain
import FluentSql.Proofs.Unmarked

/-!
# `Alignment.Inlining` — a chain with literals in place of bound values

What a statement says is plain when no value is bound: every value then stands in the text, at the
place where its call puts it. `Call.inline` gives that form of a call. Where the call has a value to
bind, the inlined call has the raw text of the value's literal; where it has a raw fragment with
values, the inlined call has the fragment with the literals in place of its markers.

## Contents
- `Call.inline`, and `Chain.inlined`, the statement of a chain whose calls are inlined.
- `Chain.WellMarked`: raw fragments have as many markers as values, no other text has a marker, and no
  value is bound apart from a text. `Chain.TextsMarked` goes without the last.
- `Chain.KeepsProjection`: no call drops a projection whose values stay bound.
-/

namespace FluentSql

/-! ## Literals among the arguments -/

/-- A bound value becomes the raw text of its literal. -/
def Value.inline (lit : Literals) (v : Value) : Value :=
  if v.isRaw then v else .raw (lit.text v)

/-- A raw fragment with the literals of its values in place of its markers. -/
def inlineFragment (lit : Literals) (sql : String) (values : List Value) : String :=
  (Text.fill ((Value.withoutRaw values).map lit.text) sql).getD sql

def JoinTarget.inline (lit : Literals) : JoinTarget → JoinTarget
  | .column reference => .column reference
  | .value v => .value (v.inline lit)

def JoinConstraint.inline (lit : Literals) (c : JoinConstraint) : JoinConstraint :=
  { c with second := c.second.inline lit }

def Join.inline (lit : Literals) (j : Join) : Join :=
  { j with constraints := j.constraints.map fun c => c.inline lit }

/-- Null stays null: it is compared by a null check and never bound. -/
def Operand.inline (lit : Literals) : Operand → Operand
  | .value v => .value (if v.isNull then v else v.inline lit)
  | operand => operand

/-- The raw text of a literal as an operand. -/
def literalOperand (lit : Literals) (text : String) : Operand :=
  .value (.raw (lit.text (.text text)))

/-- Operator and operand; a text that is no operator is the value of an equality. -/
def inlineComparison (lit : Literals) :
    Option String → Option Operand → Option String × Option Operand
  | none, operand => (none, operand.map fun operand => operand.inline lit)
  | some text, none => (none, some (literalOperand lit text))
  | some text, some operand =>
    if isOperator text then (some text, some (operand.inline lit))
    else (none, some (literalOperand lit text))

/-- An entry of column, operator and operand. -/
def inlineEntry (lit : Literals) : List Operand → List Operand
  | [column, operator, operand] =>
    match operator.text? with
    | none => [column, operator, operand]
    | some text =>
      if isOperator text then [column, operator, operand.inline lit]
      else [column, .value (.text "="), literalOperand lit text]
  | entry => entry

def Condition.inline (lit : Literals) : Condition → Condition
  | .equalities pairs => .equalities (pairs.map fun pair => (pair.1, pair.2.inline lit))
  | .group query => .group query
  | .triples entries => .triples (entries.map (inlineEntry lit))
  | .column name operator operand =>
    .column name (inlineComparison lit operator operand).1 (inlineComparison lit operator operand).2

def Membership.inline (lit : Literals) : Membership → Membership
  | .values vs => .values (vs.map fun v => v.inline lit)
  | source => source

/-- The call with literals in place of the values that it binds. Statements among its arguments are left
    alone: their own calls are inlined. A raw order is never rendered and just loses its values. -/
def Call.inline (lit : Literals) : Call → Call
  | .selectRaw sql values => .selectRaw (inlineFragment lit sql values) []
  | .join kind joined first operator second =>
    .join kind joined first operator (second.inline lit)
  | .addJoin clause => .addJoin (clause.inline lit)
  | .addJoinAs kind clause => .addJoinAs kind (clause.inline lit)
  | .compare connector column operator operand =>
    .compare connector column (inlineComparison lit operator operand).1
      (inlineComparison lit operator operand).2
  | .condition connector given => .condition connector (given.inline lit)
  | .whereRaw connector sql values => .whereRaw connector (inlineFragment lit sql values) []
  | .between connector negated column low high =>
    .between connector negated column (low.inline lit) (high.inline lit)
  | .membership connector negated column source =>
    .membership connector negated column (source.inline lit)
  | .having connector column operator value =>
    .having connector column operator (value.inline lit)
  | .havingRaw connector sql values => .havingRaw connector (inlineFragment lit sql values) []
  | .orderByRaw sql _ => .orderByRaw sql []
  | call => call

/-- The statement of the chain with literals in place of all values. -/
def Chain.inlined (chain : Chain) (lit : Literals) : Except Error Statement :=
  chain.run (Call.inline lit)

/-! ## Markers where values are bound, and nowhere else -/

/-- A raw fragment has as many markers as it binds values. -/
def Balanced (sql : String) (values : List Value) : Prop :=
  Text.markers sql = (Value.withoutRaw values).length

instance (sql : String) (values : List Value) : Decidable (Balanced sql values) :=
  inferInstanceAs (Decidable (Text.markers sql = (Value.withoutRaw values).length))

def JoinTarget.Unmarked : JoinTarget → Prop
  | .column reference => reference.Unmarked
  | .value v => v.Unmarked

/-- The join's names, operators and raw texts hold no marker. -/
def Join.Unmarked (j : Join) : Prop :=
  j.table.Unmarked ∧ ∀ c ∈ j.constraints,
    c.first.Unmarked ∧ Text.Unmarked c.operator ∧ c.second.Unmarked

def Operand.Unmarked : Operand → Prop
  | .value v => v.Unmarked
  | _ => True

/-- The entry's column and raw operand hold no marker. -/
def UnmarkedEntry : List Operand → Prop
  | [column, _, operand] => (∀ text ∈ column.text?, Text.Unmarked text) ∧ operand.Unmarked
  | _ => True

def Condition.Unmarked : Condition → Prop
  | .equalities pairs => ∀ pair ∈ pairs, Text.Unmarked pair.1 ∧ pair.2.Unmarked
  | .group _ => True
  | .triples entries => ∀ entry ∈ entries, UnmarkedEntry entry
  | .column name _ operand => name.Unmarked ∧ ∀ o ∈ operand, o.Unmarked

def Membership.Unmarked : Membership → Prop
  | .values vs => ∀ v ∈ vs, v.Unmarked
  | .query _ => True

def Subselect.Unmarked : Subselect → Prop
  | .query _ => True
  | .text sql => Text.Unmarked sql

def Lock.Unmarked : Lock → Prop
  | .raw sql => Text.Unmarked sql
  | _ => True

/-- Raw fragments of the call have as many markers as values, and its other texts have none. Values are
    not bound apart from a text. An operator of a condition on rows needs no care: it is one of the
    recognised ones, or a value. Raw orders need none either, since they are not rendered. -/
def Call.WellMarked : Call → Prop
  | .select columns | .groupBy columns => ∀ c ∈ columns, c.Unmarked
  | .addSelect column | .nullCheck _ _ column | .orderBy column _ => column.Unmarked
  | .selectRaw sql values | .whereRaw _ sql values | .havingRaw _ sql values =>
    Balanced sql values
  | .selectSub source label => source.Unmarked ∧ Text.Unmarked label
  | .table reference => reference.Unmarked
  | .join _ joined first operator second =>
    joined.Unmarked ∧ first.Unmarked ∧ Text.Unmarked operator ∧ second.Unmarked
  | .addJoin clause | .addJoinAs _ clause => clause.Unmarked
  | .compare _ column _ operand => column.Unmarked ∧ ∀ o ∈ operand, o.Unmarked
  | .condition _ given => given.Unmarked
  | .between _ _ column low high => column.Unmarked ∧ low.Unmarked ∧ high.Unmarked
  | .membership _ _ column source => column.Unmarked ∧ source.Unmarked
  | .having _ column operator value => column.Unmarked ∧ Text.Unmarked operator ∧ value.Unmarked
  | .aggregate _ columns => ∀ c ∈ columns, c.Unmarked
  | .lock mode => mode.Unmarked
  | .addBinding .. | .setBindings .. => False
  | .distinct | .group .. | .existence .. | .orderByRaw .. | .limit _ | .offset _ | .page ..
  | .union .. | .merge _ | .newQuery | .forGroup => True

/-- The calls of a chain and of the chains in it are well marked, and so are the dialects. -/
def Chain.WellMarked : Chain → Prop
  | .fresh setting => setting.dialect.QuestionMarked
  | .call chain step source =>
    chain.WellMarked ∧ step.WellMarked ∧ ∀ i, (source i).WellMarked

/-- The call binds values apart from a text. -/
def Call.BindsDirectly : Call → Prop
  | .addBinding .. | .setBindings .. => True
  | _ => False

/-- As `Chain.WellMarked`, but values may be bound apart from a text. -/
def Chain.TextsMarked : Chain → Prop
  | .fresh setting => setting.dialect.QuestionMarked
  | .call chain step source =>
    chain.TextsMarked ∧ (step.WellMarked ∨ step.BindsDirectly) ∧ ∀ i, (source i).TextsMarked

theorem Chain.WellMarked.textsMarked {chain : Chain} (h : chain.WellMarked) : chain.TextsMarked := by
  induction chain with
  | fresh setting => exact h
  | call chain step source ih ihs => exact ⟨ih h.1, .inl h.2.1, fun i => ihs i (h.2.2 i)⟩

/-! ## Projections whose values stay bound -/

/-- What is taken over from a statement: its text as a whole, or its conditions on rows alone. -/
inductive Part where
  | whole
  | conditions
  deriving DecidableEq

/-- What becomes of a statement that is given to a call. -/
inductive Role where
  /-- It is compiled as a SELECT. -/
  | compiled
  /-- Its conditions on rows become those of a group. -/
  | group
  /-- Its clauses become clauses of the receiver. -/
  | merged
  /-- The part in question has nothing of it. -/
  | unused
  deriving DecidableEq

/-- What becomes of the statements given to a call, as far as a part of the receiver shows it. -/
def Call.role (part : Part) : Call → Role
  | .selectSub .. | .union .. => if part = .whole then .compiled else .unused
  | .condition _ (.group _) | .group .. => .group
  | .compare .. | .condition .. | .existence .. | .membership .. => .compiled
  | .merge _ => .merged
  | _ => .unused

/-- The values that the projection binds belong to columns that are rendered: no aggregate takes their
    place. -/
def Statement.ShowsProjection (q : Statement) : Prop :=
  q.aggregate = none ∨ q.bindings.projection = []

/-- No call replaces columns that have bound values, and no statement that is compiled has an aggregate
    in place of such columns; only what the part shows counts. -/
def Chain.KeepsProjection : Part → Chain → Prop
  | _, .fresh _ => True
  | part, .call chain step source =>
    chain.KeepsProjection part ∧
    (part = .whole → ∀ columns, step = .select columns →
      ∀ q, chain.build = .ok q → q.bindings.projection = []) ∧
    -- a compiled statement counts as a whole, whatever part of the receiver shows it
    ∀ i, match step.role part with
      | .compiled =>
        (source i).KeepsProjection .whole ∧ ∀ q, (source i).build = .ok q → q.ShowsProjection
      | .group => (source i).KeepsProjection .conditions
      | .merged => (source i).KeepsProjection part
      | .unused => True

/-- The chain keeps its projection up to the statement that it builds. -/
def Chain.ShowsProjection (chain : Chain) : Prop :=
  chain.KeepsProjection .whole ∧ ∀ q, chain.build = .ok q → q.ShowsProjection

/-! ## Chains of plain calls -/

namespace Chain

variable {chain : Chain} {step : Call}

theorem wellMarked_fresh : (Chain.fresh {}).WellMarked :=
  Dialect.questionMarked_default

theorem WellMarked.plain (hc : chain.WellMarked) (hstep : step.WellMarked) :
    (chain.plain step).WellMarked :=
  ⟨hc, hstep, fun _ => wellMarked_fresh⟩

/-- A chain that builds no aggregate shows its projection. -/
theorem showsProjection_of_aggregate_eq_none
    (h : chain.build.map Statement.aggregate = .ok none) {q : Statement}
    (hq : chain.build = .ok q) : q.ShowsProjection := by
  rw [hq] at h
  exact .inl (Except.ok.inj h)

theorem KeepsProjection.plain {part : Part} (hk : chain.KeepsProjection part)
    (hstep : ∀ columns, step ≠ .select columns) : (chain.plain step).KeepsProjection part := by
  refine ⟨hk, fun _ columns heq => absurd heq (hstep columns), fun _ => ?_⟩
  cases step.role part with
  | compiled => exact ⟨trivial, fun _ => showsProjection_of_aggregate_eq_none rfl⟩
  | group => exact trivial
  | merged => cases part <;> exact trivial
  | unused => exact trivial

end Chain

end FluentSql
