import FluentSql.Proofs.Alignment.Clauses
import FluentSql.Proofs.RawFree

/-!
# `Alignment.Embedding` — embedded statements, and the arguments that carry them

A call that embeds a statement writes its text and binds its values. The same call with another
statement among its arguments writes another text; how the two texts compare depends only on how the
two statements do.

## Contents
- `CompiledTwin` and `GroupTwin`, what a comparison of the embedded statements has to say.
- `OperandTwin`, operands that differ in their statements.
- `Lifts`: arguments supplied with twins are twins.
-/

namespace FluentSql

/-- Two statements to be compiled. The second tracks the first in every dialect, and it binds nothing. -/
structure CompiledTwin (usage : Usage) (lit : Literals) (e e' : Statement) : Prop where
  rawFree : e.bindings.RawFree
  bound : e'.bound = []
  text : ∀ d : Dialect, d.QuestionMarked →
    Tracks usage lit e.bound (d.renderSelect e) (d.renderSelect e')

/-- Two statements whose conditions make a group. -/
structure GroupTwin (usage : Usage) (lit : Literals) (e e' : Statement) : Prop where
  rawFree : e.bindings.RawFree
  bound : e'.bindings.filter = []
  wheres : InOrder (CriterionTwin usage lit) e.bindings.filter e.wheres e'.wheres

/-- Two operands, the same but for their statements. -/
inductive OperandTwin (usage : Usage) (lit : Literals) : Operand → Operand → Prop where
  | value (v : Value) : OperandTwin usage lit (.value v) (.value v)
  | list (values : List Value) : OperandTwin usage lit (.list values) (.list values)
  | query {e e' : Statement} (h : CompiledTwin usage lit e e') :
      OperandTwin usage lit (.query e) (.query e')

variable {usage : Usage} {lit : Literals}

theorem OperandTwin.text?_eq {operand operand' : Operand} (h : OperandTwin usage lit operand operand') :
    operand'.text? = operand.text? := by
  cases h <;> rfl

/-! ## Supplying twins -/

/-- A part, supplied with two related lists of statements, gives two related parts. -/
def Lifts {α : Type} (good : α → Prop) (embedded : α → List Statement)
    (supply : List Statement → α → α) (R : Statement → Statement → Prop) (T : α → α → Prop) : Prop :=
  ∀ x, good x → ∀ es es', (embedded x).length ≤ es.length → List.Forall₂ R es es' →
    T (supply es x) (supply es' x)

theorem forall₂_headD {R : Statement → Statement → Prop} {es es' : List Statement}
    (h : List.Forall₂ R es es') (hlen : 1 ≤ es.length) (q : Statement) :
    R (es.headD q) (es'.headD q) := by
  cases h with
  | nil => simp at hlen
  | cons hhead _ => exact hhead

/-- Part by part through a list. -/
theorem Lifts.each {α : Type} {good : α → Prop} {embedded : α → List Statement}
    {supply : List Statement → α → α} {R : Statement → Statement → Prop} {T : α → α → Prop}
    (h : Lifts good embedded supply R T) :
    Lifts (fun xs => ∀ x ∈ xs, good x) (fun xs => xs.flatMap embedded) (supplyEach embedded supply) R
      (List.Forall₂ T) := by
  intro xs hgood es es' hlen hes
  induction xs generalizing es es' with
  | nil => exact .nil
  | cons x xs ih =>
    simp only [List.flatMap_cons, List.length_append] at hlen ih
    refine .cons (h x (hgood x List.mem_cons_self) es es' (by omega) hes) ?_
    -- as many statements are taken from both lists, so that the rest are twins again
    refine ih (fun y hy => hgood y (List.mem_cons_of_mem _ hy)) _ _ ?_ (List.forall₂_drop _ hes)
    rw [List.length_drop]
    omega

theorem lifts_operand :
    Lifts (fun _ => True) Operand.embedded Operand.supply (CompiledTwin usage lit)
      (OperandTwin usage lit) := by
  intro operand _ es es' hlen hes
  cases operand with
  | value v => exact .value v
  | list vs => exact .list vs
  | query q => exact .query (forall₂_headD hes hlen q)

theorem Operand.text?_supply (operand : Operand) (es : List Statement) :
    (operand.supply es).text? = operand.text? := by
  cases operand <;> rfl

theorem Operand.Unmarked.supply {operand : Operand} (h : operand.Unmarked) (es : List Statement) :
    (operand.supply es).Unmarked := by
  cases operand <;> exact h

theorem lifts_optionalOperand :
    Lifts (fun operand : Option Operand => ∀ o ∈ operand, o.Unmarked)
      (fun operand => operand.toList.flatMap Operand.embedded)
      (fun es operand => operand.map fun o => o.supply es) (CompiledTwin usage lit)
      (Option.Rel fun o o' => OperandTwin usage lit o o' ∧ o.Unmarked) := by
  intro operand hgood es es' hlen hes
  cases operand with
  | none => exact .none
  | some o =>
    simp only [Option.toList_some, List.flatMap_singleton] at hlen
    exact .some ⟨lifts_operand o trivial es es' hlen hes, (hgood o rfl).supply es⟩

theorem lifts_pair :
    Lifts (fun pair : String × Operand => Text.Unmarked pair.1 ∧ pair.2.Unmarked)
      (fun pair => pair.2.embedded) (fun es pair => (pair.1, pair.2.supply es))
      (CompiledTwin usage lit)
      fun pair pair' => pair'.1 = pair.1 ∧ Text.Unmarked pair.1 ∧
        OperandTwin usage lit pair.2 pair'.2 ∧ pair.2.Unmarked :=
  fun pair hgood es es' hlen hes =>
    ⟨rfl, hgood.1, lifts_operand pair.2 trivial es es' hlen hes, hgood.2.supply es⟩

/-- What an entry asks of its parts does not depend on their statements. -/
theorem unmarkedEntry_supply {entry : List Operand} (h : UnmarkedEntry entry)
    (es : List Statement) : UnmarkedEntry (supplyEntry es entry) := by
  match entry, h with
  | [], _ => exact trivial
  | [_], _ => exact trivial
  | [_, _], _ => exact trivial
  | [column, _, operand], ⟨hcolumn, hoperand⟩ =>
    exact ⟨fun text ht => hcolumn text (column.text?_supply es ▸ ht), hoperand.supply _⟩
  | _ :: _ :: _ :: _ :: _, _ => exact trivial

theorem lifts_entry :
    Lifts UnmarkedEntry embeddedInEntry supplyEntry (CompiledTwin usage lit)
      fun entry entry' => List.Forall₂ (OperandTwin usage lit) entry entry' ∧ UnmarkedEntry entry := by
  intro entry hgood es es' hlen hes
  exact ⟨lifts_operand.each entry (fun _ _ => trivial) es es' hlen hes, unmarkedEntry_supply hgood es⟩

end FluentSql
