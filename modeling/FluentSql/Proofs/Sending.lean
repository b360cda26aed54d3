import FluentSql.Proofs.Submission

/-!
# `Sending` — which statements an operation hands to the engine

An operation that executes one statement sends it to the engine, whatever is made of the answer. A
scripted engine keeps what it was sent, whatever it answers.

## Contents
- `Sends`, an operation with the statements that it sends, and `Submits.sends`, where they come from.
- `sends_fetch` and `sends_delete`: the statement's own text, if it has one, and nothing else.
-/

namespace FluentSql

/-- Whatever state the engine is in and whatever it answers, the operation sends these statements. -/
def Sends {α : Type} (operation : ExceptT Error Scripted α) (sent : List Built) : Prop :=
  ∀ s : Script, (StateT.run (m := Id) operation.run s).2.calls = s.calls ++ sent

/-- What is sent of a statement that is compiled first: nothing, if that fails. -/
def sentOf : Except Error Built → List Built
  | .ok built => [built]
  | .error _ => []

variable {α β : Type} {operation : ExceptT Error Scripted α} {sent : List Built}
  {compiled : Except Error Built}

/-- One statement is sent, whether it fails or not. -/
theorem Submits.sends {policy : LogPolicy} {kind : StatementKind}
    (h : Submits operation policy kind (compiled.map ([·]))) : Sends operation (sentOf compiled) := by
  intro s
  have hs := h s
  cases compiled with
  | error e =>
    have hrun : StateT.run (m := Id) operation.run s = (.error e, s) := hs
    rw [hrun]
    exact (List.append_nil _).symm
  | ok built =>
    obtain ⟨hengine, -⟩ := hs
    rw [hengine, answered_singleton, upToFailure_singleton]
    rfl

theorem Sends.of_ok (h : Sends operation (sentOf compiled)) {built : Built}
    (hbuilt : compiled = .ok built) : Sends operation [built] := by
  subst hbuilt
  exact h

/-- After a computation with a result. -/
theorem Sends.lift_bind {x : Except Error β} {b : β} (hx : x = .ok b)
    {f : β → ExceptT Error Scripted α} (h : Sends (f b) sent) : Sends (liftM x >>= f) sent := by
  subst hx
  exact h

namespace Statement

variable {q q' : Statement}

/-- Reading the rows of a statement sends its SELECT. -/
theorem sends_fetch (q : Statement) :
    Sends (q.fetch : ExceptT Error Scripted (List Record)) (sentOf q.selectBuilt) :=
  (submits_fetch rfl).sends

/-- Reading the first row sends the SELECT of one row. -/
theorem sends_first (q : Statement) :
    Sends (q.first : ExceptT Error Scripted (Option Record)) (sentOf (q.limit 1).selectBuilt) :=
  (submits_first rfl).sends

theorem sends_aggregateValue {function : String} {column : Reference}
    (hq : q.selectAggregate function [column] = .ok q') :
    Sends (q.aggregateValue function column : ExceptT Error Scripted Value)
      (sentOf q'.selectBuilt) := by
  have hsubmits := submits_aggregateValue (q := q) function column
  rw [hq] at hsubmits
  exact hsubmits.sends

theorem sends_count (hq : q.selectAggregate "count" [.named "*"] = .ok q') :
    Sends (q.count : ExceptT Error Scripted Int64) (sentOf q'.selectBuilt) := by
  have hsubmits := submits_count (q := q)
  rw [hq] at hsubmits
  exact hsubmits.sends

/-- Deleting the rows of a statement sends its DELETE. -/
theorem sends_delete (q : Statement) :
    Sends (q.delete : ExceptT Error Scripted Nat) (sentOf q.deleteBuilt) :=
  (submits_delete rfl).sends

end Statement

end FluentSql
