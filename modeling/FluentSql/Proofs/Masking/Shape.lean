import FluentSql.Proofs.Chain
import FluentSql.Statement.Writing

/-!
# `Masking.Shape` — what is left of calls and statements without their bound values

Two calls have the same shape if they differ in values alone: in place of a bound value stands another
one. Masking makes this a matter of equality, by putting one and the same text in the place of every
bound value. Raw text is no bound value and is kept. So is a null that is compared, since it is never
bound; and a word that stands for an operator is kept if it is one, while any other word is a value.

## Contents
- `Value.mask`, `Value.maskCompared` and `maskToken`, and what may differ under them.
- `Statement.mask`, a statement with masked values.
- `Call.mask`, a call with masked values, and `Chain.SameShape`.
-/

namespace FluentSql

/-! ## Values -/

/-- The empty text in place of a bound value; raw text is kept. -/
def Value.mask : Value → Value
  | .raw sql => .raw sql
  | _ => .text ""

/-- The same for a value that is compared; null is kept too. -/
def Value.maskCompared : Value → Value
  | .null => .null
  | v => v.mask

/-- A word where an operator is expected; if it is none, the empty one in its place. -/
def maskToken (token : String) : String :=
  if isOperator token then token else ""

/-- Any two bound values are the same when masked. -/
theorem Value.mask_eq_mask_iff {v w : Value} :
    v.mask = w.mask ↔ v = w ∨ (v.isRaw = false ∧ w.isRaw = false) := by
  cases v <;> cases w <;> simp [mask, isRaw]

/-- Of compared values, any two that are bound. -/
theorem Value.maskCompared_eq_iff {v w : Value} :
    v.maskCompared = w.maskCompared ↔
      v = w ∨ ((v.isRaw = false ∧ v.isNull = false) ∧ (w.isRaw = false ∧ w.isNull = false)) := by
  cases v <;> cases w <;> simp [maskCompared, mask, isRaw, isNull]

/-- Of words, any two that are no operators. -/
theorem maskToken_eq_iff {s t : String} :
    maskToken s = maskToken t ↔ s = t ∨ (isOperator s = false ∧ isOperator t = false) := by
  have hempty : isOperator "" = false := by decide
  unfold maskToken
  split <;> split <;> grind

/-! ## Statements -/

/-- Every list of values masked. -/
def Bindings.mask (b : Bindings) : Bindings where
  projection := b.projection.map Value.mask
  table := b.table.map Value.mask
  join := b.join.map Value.mask
  filter := b.filter.map Value.mask
  having := b.having.map Value.mask
  order := b.order.map Value.mask
  union := b.union.map Value.mask
  unionOrder := b.unionOrder.map Value.mask

def JoinTarget.mask : JoinTarget → JoinTarget
  | .column reference => .column reference
  | .value v => .value v.mask

def JoinConstraint.mask (c : JoinConstraint) : JoinConstraint :=
  { c with second := c.second.mask }

def Join.mask (j : Join) : Join :=
  { j with constraints := j.constraints.map JoinConstraint.mask }

mutual

/-- A condition with masked values, those of the statement inside it among them. -/
def Predicate.mask : Predicate → Predicate
  | .comparison column operator value => .comparison column operator value.mask
  | .raw sql => .raw sql
  | .between column low high negated => .between column low.mask high.mask negated
  | .group query => .group query.mask
  | .subquery column operator query => .subquery column operator query.mask
  | .existence query negated => .existence query.mask negated
  | .member column values negated => .member column (values.map Value.mask) negated
  | .memberOf column query negated => .memberOf column query.mask negated
  | .nullCheck column negated => .nullCheck column negated

/-- A statement with masked values, in its clauses as well as in its bindings. -/
def Statement.mask : Statement → Statement
  | { setting, bindings, aggregate, columns, distinct, table, joins, wheres, groups, havings, tail,
      unions, unionTail, lock } =>
    { setting, bindings := bindings.mask, aggregate, columns, distinct, table,
      joins := joins.map Join.mask, wheres := maskCriteria wheres, groups,
      havings := maskCriteria havings, tail, unions := maskMembers unions, unionTail, lock }

def maskCriteria : List Criterion → List Criterion
  | [] => []
  | { connector, predicate } :: criteria => ⟨connector, predicate.mask⟩ :: maskCriteria criteria

def maskMembers : List UnionMember → List UnionMember
  | [] => []
  | { all, query } :: members => ⟨all, query.mask⟩ :: maskMembers members

end

def Criterion.mask (c : Criterion) : Criterion :=
  { c with predicate := c.predicate.mask }

def UnionMember.mask (u : UnionMember) : UnionMember :=
  { u with query := u.query.mask }

theorem maskCriteria_eq_map (criteria : List Criterion) :
    maskCriteria criteria = criteria.map Criterion.mask := by
  induction criteria with
  | nil => rfl
  | cons c criteria ih =>
    cases c
    rw [maskCriteria, ih]
    rfl

theorem maskMembers_eq_map (members : List UnionMember) :
    maskMembers members = members.map UnionMember.mask := by
  induction members with
  | nil => rfl
  | cons u members ih =>
    cases u
    rw [maskMembers, ih]
    rfl

/-- Masking changes the bindings and the clauses that hold values. -/
theorem Statement.mask_eq (q : Statement) :
    q.mask = { q with
      bindings := q.bindings.mask
      joins := q.joins.map Join.mask
      wheres := q.wheres.map Criterion.mask
      havings := q.havings.map Criterion.mask
      unions := q.unions.map UnionMember.mask } := by
  cases q
  rw [Statement.mask, maskCriteria_eq_map, maskCriteria_eq_map, maskMembers_eq_map]

/-! ## Calls -/

/-- An operand that is compared. -/
def Operand.mask : Operand → Operand
  | .value v => .value v.maskCompared
  | .list values => .list (values.map Value.mask)
  | .query q => .query q.mask

/-- The word before an operand; without an operand it is a value itself. -/
def maskWord : Option String → Option Operand → Option String
  | none, _ => none
  | some _, none => some ""
  | some token, some _ => some (maskToken token)

/-- An operand that is not compared: it names a column, or is refused. -/
def Operand.maskName : Operand → Operand
  | .query q => .query q.mask
  | operand => operand

/-- An operand that names an operator. -/
def Operand.maskOperator : Operand → Operand
  | .value (.text token) => .value (.text (maskToken token))
  | operand => operand.maskName

/-- An entry of column, operator and operand. Another entry is refused, whatever is in it. -/
def maskEntry : List Operand → List Operand
  | [column, operator, operand] => [column.maskName, operator.maskOperator, operand.mask]
  | entry => entry.map Operand.mask

def Condition.mask : Condition → Condition
  | .equalities pairs => .equalities (pairs.map fun pair => (pair.1, pair.2.mask))
  | .group query => .group query.mask
  | .triples entries => .triples (entries.map maskEntry)
  | .column name operator operand =>
    .column name (maskWord operator operand) (operand.map Operand.mask)

def Membership.mask : Membership → Membership
  | .values vs => .values (vs.map Value.mask)
  | .query q => .query q.mask

def Subselect.mask : Subselect → Subselect
  | .query q => .query q.mask
  | .text sql => .text sql

/-- The call with masked values. Names, raw texts and numbers of rows are kept. -/
def Call.mask : Call → Call
  | .selectRaw sql values => .selectRaw sql (values.map Value.mask)
  | .selectSub source label => .selectSub source.mask label
  | .join kind joined first operator second => .join kind joined first operator second.mask
  | .addJoin clause => .addJoin clause.mask
  | .addJoinAs kind clause => .addJoinAs kind clause.mask
  | .compare connector column operator operand =>
    .compare connector column (maskWord operator operand) (operand.map Operand.mask)
  | .condition connector given => .condition connector given.mask
  | .group connector query => .group connector query.mask
  | .whereRaw connector sql values => .whereRaw connector sql (values.map Value.mask)
  | .between connector negated column low high => .between connector negated column low.mask high.mask
  | .existence connector negated query => .existence connector negated query.mask
  | .membership connector negated column source => .membership connector negated column source.mask
  | .having connector column operator value => .having connector column operator value.mask
  | .havingRaw connector sql values => .havingRaw connector sql (values.map Value.mask)
  | .orderByRaw sql values => .orderByRaw sql (values.map Value.mask)
  | .union all query => .union all query.mask
  | .merge other => .merge other.mask
  | .addBinding value slot => .addBinding value.mask slot
  | .setBindings values slot => .setBindings (values.map Value.mask) slot
  | call => call

/-- The chains make the same calls but for the values in them, in the chains of embedded statements as
    well. -/
inductive Chain.SameShape : Chain → Chain → Prop where
  | fresh (setting : Setting) : SameShape (.fresh setting) (.fresh setting)
  | call {chain chain' : Chain} {step step' : Call} {source : Fin step.embedded.length → Chain}
      {source' : Fin step'.embedded.length → Chain} (hchain : SameShape chain chain')
      (hstep : step.mask = step'.mask)
      (hsource : ∀ i i', i.val = i'.val → SameShape (source i) (source' i')) :
      SameShape (.call chain step source) (.call chain' step' source')

/-- Calls without statements among their arguments. -/
theorem Chain.SameShape.plain {chain chain' : Chain} {step step' : Call} (h : chain.SameShape chain')
    (hstep : step.mask = step'.mask) : (chain.plain step).SameShape (chain'.plain step') :=
  .call h hstep fun _ _ _ => .fresh {}

end FluentSql
