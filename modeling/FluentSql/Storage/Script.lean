import FluentSql.Storage

/-!
# `Storage.Script` — an engine that answers from a list

The scripted engine gives out its answers in order, one a statement, and the empty answer when there
is none left. It keeps the statements it was given and the events that were logged.
-/

namespace FluentSql

/-- The state of a scripted engine. -/
structure Script where
  answers : List (Except Error Execution)
  calls : List Built := []
  events : List LogEvent := []

namespace Script

/-- The answer to the next statement. -/
def nextAnswer (s : Script) : Except Error Execution :=
  s.answers.head?.getD (.ok {})

/-- Execute a statement by the next answer. -/
def execute (built : Built) (s : Script) : Except Error Execution × Script :=
  (s.nextAnswer, { s with answers := s.answers.tail, calls := s.calls ++ [built] })

/-- Keep a logged event. -/
def record (event : LogEvent) (s : Script) : Unit × Script :=
  ((), { s with events := s.events ++ [event] })

end Script

/-- The monad of a scripted engine. -/
abbrev Scripted :=
  StateM Script

instance : Storage Scripted where
  execute built := fun s => Script.execute built s
  record event := fun s => Script.record event s

/-- Run an operation against a list of answers. -/
def runScripted {α : Type} (operation : ExceptT Error Scripted α)
    (answers : List (Except Error Execution)) : Except Error α × Script :=
  StateT.run (m := Id) operation.run ⟨answers, [], []⟩

end FluentSql
