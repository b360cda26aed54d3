import FluentSql.Proofs.Filtered
import FluentSql.Proofs.Submission
import FluentSql.Statement.Terminal

/-!
# `Trace` — what an operation leaves behind at the engine and in the log

Operations differ in how they prepare their statements and in what they make of the answers. What they
do to the engine is the same for all of them: a statement that cannot be compiled ends the operation
before anything is executed; otherwise the statements are executed in order, up to the first failure.

## Contents
- `Terminal.statements`, what an operation is about to send.
- `Terminal.submits_perform`, one case for each operation, and `Terminal.run_perform`, its trace in full.
-/

namespace FluentSql

/-! ## Preparations -/

namespace Statement

variable {q q' : Statement}

/-- Without entries there is nothing to insert. -/
theorem insertBuilt?_of_isEmpty (q : Statement) {records : List Record}
    (h : ∀ r ∈ records, r.isEmpty) : q.insertBuilt? records = .ok none := by
  cases records with
  | nil => rfl
  | cons first rest =>
    have hall : (first :: rest).all Record.isEmpty = true := List.all_eq_true.mpr h
    rw [insertBuilt?, if_pos hall]

/-- A condition on the identifier leaves the log policy alone. -/
theorem log_withId {id : Value} (h : q.withId id = .ok q') : q'.setting.log = q.setting.log := by
  obtain ⟨criteria, values, rfl⟩ := isFiltered_compare h
  rfl

end Statement

/-! ## The trace of every operation -/

namespace Terminal

variable {α : Type}

/-- The statements that an operation is about to execute. There are two of them at most when a table is
    emptied, none when there is nothing to insert, and one otherwise. -/
def statements (q : Statement) : Terminal α → Except Error (List Built)
  | .fetch | .fetchAs _ => q.selectBuilt.map ([·])
  | .fetchColumns columns => (q.select columns).selectBuilt.map ([·])
  | .first | .firstAs _ => (q.limit 1).selectBuilt.map ([·])
  | .firstColumns columns => ((q.select columns).limit 1).selectBuilt.map ([·])
  | .find id => do ((← q.withId id).limit 1).selectBuilt.map ([·])
  | .count => do (← q.selectAggregate "count" [.named "*"]).selectBuilt.map ([·])
  | .aggregateValue function column => do
    (← q.selectAggregate function [column]).selectBuilt.map ([·])
  | .insert records => (q.insertBuilt? records).map Option.toList
  | .update record => (q.updateBuilt record).map ([·])
  | .delete => q.deleteBuilt.map ([·])
  | .deleteById id => do (← q.withId id).deleteBuilt.map ([·])
  | .truncate => q.truncateBuilt

/-- **Every operation** submits its statements. -/
theorem submits_perform (op : Terminal α) (q : Statement) :
    Submits (op.perform q) q.setting.log op.kind (op.statements q) := by
  cases op with
  | fetch => exact Statement.submits_fetch rfl
  | fetchColumns columns => exact Statement.submits_fetch rfl
  | fetchAs ofRecord => exact (Statement.submits_fetch rfl).bind fun _ => .lift _
  | first => exact Statement.submits_first rfl
  | firstColumns columns => exact Statement.submits_first rfl
  | firstAs ofRecord => exact (Statement.submits_first rfl).bind fun _ => .lift _
  | find id => exact .lift_bind fun q' hq' => Statement.submits_first (Statement.log_withId hq')
  | count => exact Statement.submits_count
  | aggregateValue function column => exact Statement.submits_aggregateValue function column
  | insert records =>
    have hinsert : (q.insertBuilt? records).map Option.toList =
        q.insertBuilt? records >>= fun built => .ok built.toList := by
      cases q.insertBuilt? records <;> rfl
    rw [statements, hinsert]
    refine .lift_bind fun built _ => ?_
    cases built with
    | none => exact .pure none
    | some built => exact (Submits.submit q .insert built).bind fun _ => .pure _
  | update record => exact .compiled_submit rfl
  | delete => exact Statement.submits_delete rfl
  | deleteById id => exact .lift_bind fun q' hq' => Statement.submits_delete (Statement.log_withId hq')
  | truncate =>
    have htruncate : q.truncateBuilt = q.truncateBuilt >>= .ok := by
      cases q.truncateBuilt <;> rfl
    rw [statements, htruncate]
    exact .lift_bind fun statements _ => .submitAll q .truncate statements

/-- **The trace of an operation.** If its statements cannot be built, it fails with the reason, and
    nothing is executed or logged. Otherwise the engine is given the statements in order, up to and
    including the first whose answer is a failure; that failure is the result; and the log has the events
    of these exchanges, unless it is disabled. If all records to insert are empty, the answer is none, and
    nothing is executed or logged. -/
theorem run_perform (op : Terminal α) (q : Statement) (answers : List (Except Error Execution)) :
    (match op.statements q with
      | .error e => runScripted (op.perform q) answers = (.error e, ⟨answers, [], []⟩)
      | .ok statements =>
        let exchanges := upToFailure (answered statements answers)
        let (result, engine) := runScripted (op.perform q) answers
        engine.calls = exchanges.map Prod.fst ∧
          (∀ built e, (built, .error e) ∈ exchanges → result = .error e) ∧
          engine.events =
            if q.setting.log.enabled then exchanges.flatMap (q.setting.log.eventsOf op.kind)
            else []) ∧
      ∀ records : List Record, (∀ r ∈ records, r.isEmpty) →
        runScripted (perform q (.insert records)) answers = (.ok none, ⟨answers, [], []⟩) := by
  have h := submits_perform op q ⟨answers, [], []⟩
  refine ⟨?_, fun records hempty => ?_⟩
  · cases hstatements : op.statements q with
    | error e =>
      rw [hstatements] at h
      exact h
    | ok statements =>
      rw [hstatements] at h
      obtain ⟨hengine, hfails⟩ := h
      have hcalls := congrArg Script.calls hengine
      have hevents := congrArg Script.events hengine
      exact ⟨hcalls, hfails, hevents⟩
  · rw [perform, Statement.insert, Statement.insertBuilt?_of_isEmpty q hempty]
    rfl

end Terminal

/-- A table of goods in the dialect without `TRUNCATE`, with eleven characters of each text in the log. -/
def loggedGoods : Statement :=
  (Statement.fresh { dialect := { family := .sqlite }, log := { maxLength := some 11 } }).withTable
    (.named "goods")

/-- The first of the two statements fails, and the second is not executed; nothing at all is executed for
    a record without columns. -/
theorem run_perform_loggedGoods :
    let locked := Error.reported .execution "locked"
    let reset : Built := ⟨"DELETE FROM sqlite_sequence WHERE name = ?", [.text "goods"]⟩
    let (result, engine) := runScripted (Terminal.perform loggedGoods .truncate) [.error locked]
    Terminal.truncate.statements loggedGoods = .ok [reset, ⟨"DELETE FROM \x60goods\x60", []⟩] ∧
      (reset, .error locked) ∈ upToFailure [(reset, .error locked)] ∧
      engine.calls = [reset] ∧ result = .error locked ∧
      engine.events = [.executing .truncate 1 "DELETE FROM...",
        .failed .truncate "DELETE FROM..." "Execution error: locked"] ∧
      runScripted (Terminal.perform loggedGoods (.insert [.empty])) [.error locked] =
        (.ok none, ⟨[.error locked], [], []⟩) := by
  obtain ⟨⟨hcalls, hfails, hevents⟩, hinsert⟩ :=
    Terminal.run_perform .truncate loggedGoods [.error (.reported .execution "locked")]
  refine ⟨rfl, List.mem_singleton.mpr rfl, hcalls, hfails _ _ (List.mem_singleton.mpr rfl), hevents,
    hinsert [.empty] fun r hr => ?_⟩
  cases List.mem_singleton.mp hr
  rfl

end FluentSql
