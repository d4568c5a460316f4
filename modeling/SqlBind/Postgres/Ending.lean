/-
The end of a transaction. Several callers may try to end one transaction at the
same time, so a mark says that its end was claimed: who sets the mark sends the
command, and nobody else does. What a caller does is a sequence of steps, each
taken at once, and every step is one constructor of `Ending`.
-/
import SqlBind.Postgres.Session

namespace SqlBind.Postgres

/-- What is left to do for a caller who ends a transaction. -/
inductive Ending where
  /-- To look whether the end was claimed. -/
  | look
  /-- To claim the end. -/
  | claim (command : EndCommand)
  /-- To send the command. -/
  | send (command : EndCommand)
  /-- Nothing. -/
  | done (result : Except DbError Unit)

namespace Ending

/-- After a look: a transaction that is left open is rolled back. -/
def looked (claimed : Bool) : Ending := if claimed then .done (.ok ()) else .claim .rollback

/-- After a claim: only the first one counts. -/
def claimed (command : EndCommand) (before : Bool) : Ending :=
  if before then .done (.error (.finished command)) else .send command

/-- How many steps are left at most. -/
def rank : Ending → Nat
  | .look => 3
  | .claim _ => 2
  | .send _ => 1
  | .done _ => 0

theorem rank_looked (b : Bool) : (looked b).rank < 3 := by cases b <;> simp [looked, rank]

theorem rank_claimed (command : EndCommand) (b : Bool) : (claimed command b).rank < 2 := by
  cases b <;> simp [claimed, rank]

/-- Takes all steps that are left. -/
def run {m : Type → Type} [Monad m] (latch : Latch m) (send : EndCommand → ExceptT DbError m Unit) :
    Ending → ExceptT DbError m Unit
  | .look => do
    let b ← latch.isSet
    run latch send (looked b)
  | .claim command => do
    let b ← latch.set
    run latch send (claimed command b)
  | .send command => send command
  | .done result => .mk (pure result)
termination_by ending => ending.rank
decreasing_by
  · exact rank_looked b
  · exact rank_claimed command b

end Ending

namespace Server

variable {m : Type → Type} [Monad m]

/-- Sends a command of a transaction. -/
def send (server : Server m) (command : String) : ExceptT DbError m Unit := do
  match ← server.command command with
  | .ok _ => return ()
  | .error e => throw e.toDbError

/-- The statements inside a transaction, and its ends. -/
def openTransaction (server : Server m) (latch : Latch m) : TransactionTransport m :=
  let send (command : EndCommand) : ExceptT DbError m Unit := server.send command.sql
  { toTransport := server.transport
    commit := Ending.run latch send (.claim .commit)
    rollback := Ending.run latch send (.claim .rollback)
    close := Ending.run latch send .look }

/-- The server as a connection that can open transactions. -/
def connection (server : Server m) : Connection m where
  toTransport := server.transport
  begin := do
    server.send "BEGIN"
    let latch ← server.newLatch
    return server.openTransaction latch

end Server
end SqlBind.Postgres
