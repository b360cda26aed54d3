import FluentSql.Statement.Running
import FluentSql.Storage.Script

/-!
# `Submission` — statements handed to the engine

The engine is asked once for each statement, and its answer is passed on as it is. What the log gets
depends on the policy and on the answer: the statement before it is executed, and the failure if there is
one. After a failure nothing more is executed.

## Contents
- `Exchange`, a statement with the answer to it, and `LogPolicy.eventsOf`, what the log gets of it.
- `Script.after`, a scripted engine after some exchanges, and `Statement.run_submit`, one execution.
- `answered` and `upToFailure`, the exchanges that a list of statements leads to.
- `Submits`, the operations that execute compiled statements, and how it goes with sequences.
-/

namespace FluentSql

/-- A statement with the answer to it. -/
abbrev Exchange :=
  Built × Except Error Execution

namespace LogPolicy

/-- The events of an exchange: the statement with the number of its values, and right after it the
    failure, if there is one. -/
def eventsOf (policy : LogPolicy) (kind : StatementKind) : Exchange → List LogEvent
  | (built, .ok _) => [.executing kind built.bindings.length (policy.shorten built.sql)]
  | (built, .error e) =>
    [.executing kind built.bindings.length (policy.shorten built.sql),
      .failed kind (policy.shorten built.sql) e.message]

/-- What the log gets of exchanges: their events in order, or nothing if the log is disabled. -/
def logged (policy : LogPolicy) (kind : StatementKind) (exchanges : List Exchange) :
    List LogEvent :=
  if policy.enabled then exchanges.flatMap (policy.eventsOf kind) else []

@[simp] theorem logged_nil (policy : LogPolicy) (kind : StatementKind) :
    policy.logged kind [] = [] :=
  ite_self _

theorem logged_append (policy : LogPolicy) (kind : StatementKind) (xs ys : List Exchange) :
    policy.logged kind (xs ++ ys) = policy.logged kind xs ++ policy.logged kind ys := by
  unfold logged
  split
  · exact List.flatMap_append
  · rfl

end LogPolicy

namespace Script

/-- The engine after some exchanges: their answers are given out, their statements and events kept. -/
def after (s : Script) (policy : LogPolicy) (kind : StatementKind) (exchanges : List Exchange) :
    Script where
  answers := s.answers.drop exchanges.length
  calls := s.calls ++ exchanges.map Prod.fst
  events := s.events ++ policy.logged kind exchanges

variable {policy : LogPolicy} {kind : StatementKind}

@[simp] theorem after_nil (s : Script) : s.after policy kind [] = s := by
  simp [after]

theorem after_after (s : Script) (xs ys : List Exchange) :
    (s.after policy kind xs).after policy kind ys = s.after policy kind (xs ++ ys) := by
  simp [after, LogPolicy.logged_append]

end Script

/-! ## One execution -/

/-- Recording an event asks nothing of the engine. -/
theorem LogPolicy.run_record (policy : LogPolicy) (event : LogEvent) (s : Script) :
    StateT.run (m := Id) (policy.record event : Scripted Unit) s =
      ((), { s with events := s.events ++ if policy.enabled then [event] else [] }) := by
  unfold LogPolicy.record
  split
  · rfl
  · rw [List.append_nil]
    rfl

namespace Statement

/-- What follows an execution: a failure is logged. -/
def concluded (q : Statement) (kind : StatementKind) (built : Built)
    (answer : Except Error Execution) : Scripted (Except Error Execution) := do
  match answer with
  | .ok _ => pure ()
  | .error e => q.setting.log.record (.failed kind (q.setting.log.shorten built.sql) e.message)
  return answer

/-- **One logged execution** is one exchange with the engine; its result is the answer. -/
theorem run_submit (q : Statement) (kind : StatementKind) (built : Built) (s : Script) :
    StateT.run (m := Id) (q.submit kind built).run s =
      (s.nextAnswer, s.after q.setting.log kind [(built, s.nextAnswer)]) := by
  let shown := q.setting.log.shorten built.sql
  -- the engine in which the statement is executed
  let before := (StateT.run (m := Id)
    (q.setting.log.record (.executing kind built.bindings.length shown) : Scripted Unit) s).2
  have hbefore : before = { s with
      events := s.events ++ if q.setting.log.enabled then
        [.executing kind built.bindings.length shown] else [] } :=
    congrArg Prod.snd (LogPolicy.run_record _ _ s)
  have hrun : StateT.run (m := Id) (q.submit kind built).run s =
      StateT.run (m := Id) (concluded q kind built before.nextAnswer) (before.execute built).2 := rfl
  have hanswer : before.nextAnswer = s.nextAnswer := by
    rw [hbefore]
    rfl
  rw [hrun, hanswer, hbefore]
  cases s.nextAnswer with
  | ok execution =>
    simp only [Script.after, LogPolicy.logged, List.flatMap_singleton, LogPolicy.eventsOf,
      List.length_singleton, List.drop_one]
    rfl
  | error e =>
    have hfailed : ∀ t, StateT.run (m := Id) (concluded q kind built (.error e)) t =
        (.error e, (StateT.run (m := Id)
          (q.setting.log.record (.failed kind shown e.message) : Scripted Unit) t).2) := fun _ => rfl
    rw [hfailed, LogPolicy.run_record]
    simp only [Script.after, Script.execute, LogPolicy.logged, List.flatMap_singleton,
      LogPolicy.eventsOf, List.length_singleton, List.drop_one]
    split
    · rw [List.append_assoc]
      rfl
    · rw [List.append_nil]
      rfl

end Statement

/-! ## Sequences of exchanges -/

/-- Each statement with its answer, in order; when the answers are used up, the empty one. -/
def answered (statements : List Built) (answers : List (Except Error Execution)) : List Exchange :=
  statements.mapIdx fun i built => (built, answers.getD i (.ok {}))

/-- The exchanges up to and including the first failure. -/
def upToFailure (exchanges : List Exchange) : List Exchange :=
  exchanges.takeWhile (fun x => x.2.isOk) ++ (exchanges.dropWhile fun x => x.2.isOk).take 1

theorem answered_cons (built : Built) (statements : List Built)
    (answers : List (Except Error Execution)) :
    answered (built :: statements) answers =
      (built, answers.head?.getD (.ok {})) :: answered statements answers.tail := by
  rw [answered, List.mapIdx_cons, answered]
  cases answers with
  | nil => rfl
  | cons answer answers => rfl

theorem answered_singleton (built : Built) (s : Script) :
    answered [built] s.answers = [(built, s.nextAnswer)] :=
  answered_cons ..

variable {built : Built} {execution : Execution} {e : Error} {exchanges : List Exchange}

theorem upToFailure_ok :
    upToFailure ((built, .ok execution) :: exchanges) =
      (built, .ok execution) :: upToFailure exchanges :=
  rfl

theorem upToFailure_error :
    upToFailure ((built, .error e) :: exchanges) = [(built, .error e)] :=
  rfl

theorem upToFailure_singleton (x : Exchange) : upToFailure [x] = [x] := by
  obtain ⟨built, answer⟩ := x
  cases answer with
  | ok execution => exact upToFailure_ok
  | error e => exact upToFailure_error

/-- What is executed is one of the statements. -/
theorem mem_of_mem_upToFailure_answered {statements : List Built}
    {answers : List (Except Error Execution)} {x : Exchange}
    (h : x ∈ upToFailure (answered statements answers)) : x.1 ∈ statements := by
  have hx : x ∈ answered statements answers := by
    rcases List.mem_append.mp h with h | h
    · exact (List.takeWhile_sublist _).subset h
    · exact (List.dropWhile_sublist _).subset (List.mem_of_mem_take h)
  obtain ⟨i, hi, rfl⟩ := List.mem_mapIdx.mp hx
  exact List.getElem_mem hi

/-! ## Operations that submit statements -/

/-- Whatever state the engine is in: if the statements cannot be compiled, the operation fails and the
    engine is left alone; otherwise they are executed up to the first failure, which is then that of the
    operation. -/
def Submits {α : Type} (operation : ExceptT Error Scripted α) (policy : LogPolicy)
    (kind : StatementKind) (compiled : Except Error (List Built)) : Prop :=
  ∀ s : Script, match compiled with
    | .error e => StateT.run (m := Id) operation.run s = (.error e, s)
    | .ok statements =>
      (StateT.run (m := Id) operation.run s).2 =
          s.after policy kind (upToFailure (answered statements s.answers)) ∧
        ∀ built e, (built, .error e) ∈ upToFailure (answered statements s.answers) →
          (StateT.run (m := Id) operation.run s).1 = .error e

/-- The operation leaves the engine alone, whatever its result. -/
def Silent {α : Type} (operation : ExceptT Error Scripted α) : Prop :=
  ∀ s : Script, (StateT.run (m := Id) operation.run s).2 = s

theorem Silent.pure {α : Type} (a : α) : Silent (Pure.pure a : ExceptT Error Scripted α) :=
  fun _ => rfl

theorem Silent.lift {α : Type} (x : Except Error α) : Silent (liftM x : ExceptT Error Scripted α) :=
  fun _ => rfl

/-- After the first step of an operation, its result decides how the second goes on. -/
theorem run_bind {α β : Type} (operation : ExceptT Error Scripted α)
    (f : α → ExceptT Error Scripted β) (s : Script) :
    StateT.run (m := Id) (operation >>= f).run s =
      StateT.run (m := Id) (ExceptT.bindCont f (StateT.run (m := Id) operation.run s).1)
        (StateT.run (m := Id) operation.run s).2 :=
  rfl

namespace Submits

variable {α β : Type} {operation : ExceptT Error Scripted α} {policy : LogPolicy}
  {kind : StatementKind} {compiled : Except Error (List Built)}

/-- Without statements nothing is executed. -/
theorem pure (a : α) : Submits (Pure.pure a : ExceptT Error Scripted α) policy kind (.ok []) := by
  intro s
  exact ⟨s.after_nil.symm, fun built e h => absurd h List.not_mem_nil⟩

/-- One statement is one exchange. -/
theorem submit (q : Statement) (kind : StatementKind) (built : Built) :
    Submits (q.submit kind built) q.setting.log kind (.ok [built]) := by
  intro s
  dsimp only
  rw [answered_singleton, upToFailure_singleton, q.run_submit kind built s]
  exact ⟨rfl, fun built' e h => (congrArg Prod.snd (List.mem_singleton.mp h)).symm⟩

/-- **A sequence of statements.** Each execution is an exchange, and a failure ends the sequence. -/
theorem submitAll (q : Statement) (kind : StatementKind) (statements : List Built) :
    Submits (q.submitAll kind statements) q.setting.log kind (.ok statements) := by
  induction statements with
  | nil => exact .pure ()
  | cons built statements ih =>
    intro s
    have hanswered : answered (built :: statements) s.answers =
        (built, s.nextAnswer) :: answered statements s.answers.tail := answered_cons ..
    dsimp only
    rw [Statement.submitAll, run_bind, q.run_submit kind built s, hanswered]
    cases s.nextAnswer with
    | ok execution =>
      -- the other statements meet an engine that has given out one answer
      obtain ⟨hstate, hfails⟩ := ih (s.after q.setting.log kind [(built, .ok execution)])
      have hrest : (s.after q.setting.log kind [(built, .ok execution)]).answers = s.answers.tail :=
        List.drop_one
      rw [hrest] at hstate hfails
      rw [Script.after_after] at hstate
      rw [upToFailure_ok]
      refine ⟨hstate, fun built' e h => ?_⟩
      rcases List.mem_cons.mp h with h | h
      · cases h
      · exact hfails built' e h
    | error e =>
      rw [upToFailure_error]
      refine ⟨rfl, fun built' e' h => ?_⟩
      cases List.mem_singleton.mp h
      rfl

/-- What is made of the answers leaves the trace as it is. -/
theorem bind {f : α → ExceptT Error Scripted β} (h : Submits operation policy kind compiled)
    (hf : ∀ a, Silent (f a)) : Submits (operation >>= f) policy kind compiled := by
  intro s
  have hs := h s
  rw [run_bind]
  cases compiled with
  | error e =>
    dsimp only at hs ⊢
    rw [hs]
    rfl
  | ok statements =>
    dsimp only at hs ⊢
    generalize StateT.run (m := Id) operation.run s = result at hs
    obtain ⟨answer, s'⟩ := result
    obtain ⟨rfl, hfails⟩ := hs
    cases answer with
    | ok a =>
      -- an operation that gave an answer met no failure
      refine ⟨hf a _, fun built e he => ?_⟩
      cases hfails built e he
    | error e =>
      refine ⟨rfl, fun built e' he => ?_⟩
      cases hfails built e' he
      rfl

/-- Statements that are compiled from the result of a computation. -/
theorem lift_bind {x : Except Error α} {f : α → ExceptT Error Scripted β}
    {compile : α → Except Error (List Built)}
    (h : ∀ a, x = .ok a → Submits (f a) policy kind (compile a)) :
    Submits (liftM x >>= f) policy kind (x >>= compile) := by
  cases x with
  | error e => exact fun s => rfl
  | ok a => exact h a rfl

/-- One statement that is compiled, executed, and answered. -/
theorem compiled_submit {q : Statement} {x : Except Error Built} {f : Execution → β}
    (hpolicy : q.setting.log = policy) :
    Submits (do let built ← liftM x; let execution ← q.submit kind built; return f execution)
      policy kind (x.map ([·])) := by
  subst hpolicy
  exact .lift_bind fun built _ => (Submits.submit q kind built).bind fun _ => .pure _

end Submits

/-! ## Operations with one statement -/

namespace Statement

variable {q : Statement} {policy : LogPolicy}

theorem submits_fetch (h : q.setting.log = policy) :
    Submits (q.fetch : ExceptT Error Scripted (List Record)) policy .select
      (q.selectBuilt.map ([·])) :=
  .compiled_submit h

theorem submits_first (h : q.setting.log = policy) :
    Submits (q.first : ExceptT Error Scripted (Option Record)) policy .select
      ((q.limit 1).selectBuilt.map ([·])) := by
  have hlog : (q.limit 1).setting.log = policy := by
    rw [limit, modifyTail]
    split <;> exact h
  exact (submits_fetch hlog).bind fun _ => .pure _

theorem submits_aggregateValue (function : String) (column : Reference) :
    Submits (q.aggregateValue function column : ExceptT Error Scripted Value) q.setting.log .select
      (do (← q.selectAggregate function [column]).selectBuilt.map ([·])) := by
  refine .lift_bind fun q' hq' => (submits_fetch ?_).bind fun _ => .pure _
  rw [selectAggregate] at hq'
  cases hf : AggregateFunction.ofName function with
  | error e =>
    rw [hf] at hq'
    cases hq'
  | ok f =>
    rw [hf] at hq'
    rw [← Except.ok.inj hq']

theorem submits_count :
    Submits (q.count : ExceptT Error Scripted Int64) q.setting.log .select
      (do (← q.selectAggregate "count" [.named "*"]).selectBuilt.map ([·])) :=
  (submits_aggregateValue "count" (.named "*")).bind fun _ => .pure _

theorem submits_delete (h : q.setting.log = policy) :
    Submits (q.delete : ExceptT Error Scripted Nat) policy .delete (q.deleteBuilt.map ([·])) :=
  .compiled_submit h

end Statement

end FluentSql
