/-
Transactions on a database. Work inside a transaction is committed if it
succeeds and rolled back if it fails, and the transaction is closed either way.
The work's own error is the one that is reported, unless undoing it failed too.
-/
import SqlBind.Db.Changes

namespace SqlBind

/-- A database that can open transactions. -/
structure Database (m : Type → Type) where
  connection : Connection m
  config : Config := {}
  log : Event → m Unit

/-- The statements of a database, outside any transaction. -/
def Database.db {m : Type → Type} (database : Database m) : Db m :=
  ⟨database.connection.toTransport, database.config, database.log⟩

/-- An open transaction. -/
structure Transaction (m : Type → Type) where
  transport : TransactionTransport m
  config : Config
  log : Event → m Unit

namespace Transaction

variable {m : Type → Type} [Monad m]

/-- The statements inside a transaction. -/
def db (tx : Transaction m) : Db m := ⟨tx.transport.toTransport, tx.config, tx.log⟩

/-- Makes the transaction's changes permanent. -/
def commit (tx : Transaction m) : ExceptT DbError m Unit := do
  tx.transport.commit
  tx.log (.transaction .commit)

/-- Undoes the transaction's changes. -/
def rollback (tx : Transaction m) : ExceptT DbError m Unit := do
  tx.transport.rollback
  tx.log (.transaction .rollback)

/-- Gives the transaction back, rolled back if it is still open. -/
def close (tx : Transaction m) : ExceptT DbError m Unit := tx.transport.close

/-- Ends a transaction as its work ended: committed with its result, or rolled
back with its error. -/
def finish {α : Type} (tx : Transaction m) : Except DbError α → ExceptT DbError m α
  | .ok a => do
    tx.commit
    return a
  | .error e => do
    tx.rollback.adapt fun rollback => .rollbackFailed e rollback
    throw e

/-- Runs work inside an open transaction and ends it. An error of closing is
reported only if there is no other. -/
def run {α : Type} (tx : Transaction m) (work : Transaction m → ExceptT DbError m α) :
    ExceptT DbError m α := .mk do
  let worked ← (work tx).run
  let finished ← (tx.finish worked).run
  let closed ← tx.close.run
  return finished.bind fun a => closed.map fun _ => a

end Transaction

namespace Database

variable {m : Type → Type} [Monad m]

/-- Opens a transaction. -/
def begin (database : Database m) : ExceptT DbError m (Transaction m) := do
  let transport ← database.connection.begin
  database.log (.transaction .begin)
  return { transport, config := database.config, log := database.log }

/-- Runs work in a transaction of its own. -/
def transact {α : Type} (database : Database m)
    (work : Transaction m → ExceptT DbError m α) : ExceptT DbError m α := do
  let tx ← database.begin
  tx.run work

/-- Applies all changes of a set or none. -/
def applyChanges (database : Database m) (target : ChangeTarget) (changes : List RowChange) :
    ExceptT DbError m (List RowOutcome) :=
  database.transact fun tx => tx.db.applyEach target changes

end Database
end SqlBind
