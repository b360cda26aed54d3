import FluentSql.Statement.Render

/-!
# `Storage` — handing statements to a storage engine

A storage engine executes one compiled statement at a time and takes the records of the log. Around
each execution at most two records are written: one before it, and one after it if it failed.

## Contents
- `Storage`, the engine as operations of a monad.
- `Statement.submit`, one logged execution.
-/

namespace FluentSql

/-- A storage engine with a log, as operations of a monad. -/
class Storage (m : Type → Type) where
  /-- Execute one statement; the n-th value fills the n-th placeholder. -/
  execute : Built → m (Except Error Execution)
  /-- Record an event in the log. -/
  record : LogEvent → m Unit

/-- Record an event if the policy has the log enabled. -/
def LogPolicy.record {m : Type → Type} [Monad m] [Storage m] (policy : LogPolicy)
    (event : LogEvent) : m Unit :=
  if policy.enabled then Storage.record event else pure ()

/-- Execute one statement and log it. A failure is logged and passed on unchanged. -/
def Statement.submit {m : Type → Type} [Monad m] [Storage m] (q : Statement) (kind : StatementKind)
    (built : Built) : ExceptT Error m Execution :=
  ExceptT.mk do
    let policy := q.setting.log
    let shown := policy.shorten built.sql
    policy.record (.executing kind built.bindings.length shown)
    let answer ← Storage.execute built
    match answer with
    | .ok _ => pure ()
    | .error e => policy.record (.failed kind shown e.message)
    return answer

end FluentSql
