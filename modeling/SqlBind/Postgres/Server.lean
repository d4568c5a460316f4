/-
What a PostgreSQL server does for a client, in some monad of effects: prepare a
statement, run a prepared one, run a command without parameters. Beside it stand
two things a client needs of its surroundings, a bound on time and marks that are
set once.
-/
import SqlBind.Duration
import SqlBind.Error
import SqlBind.Postgres.Encode
import SqlBind.Postgres.Type

namespace SqlBind.Postgres

/-- An error that the server reports. -/
structure ServerError where
  code : String
  message : String
  constraint : Option String
  deriving DecidableEq, Repr

/-- The error of a violated constraint tells which one it was; all others are
failures of the query. -/
def ServerError.toDbError (e : ServerError) : DbError :=
  let detail := e.constraint.getD "unknown" ++ ": " ++ e.message
  if e.code = "23505" then .uniqueViolation detail
  else if e.code = "23503" then .foreignKeyViolation detail
  else if e.code = "23514" then .checkViolation detail
  else .query .database

/-- What a run of a statement brings: rows, and then the tag of the command or an
error. -/
structure Execution where
  rows : List (List Cell)
  ending : Except ServerError String

/-- A column as the server describes it. -/
structure Field where
  name : String
  type : PgType

/-- A statement that the server has prepared. -/
structure Prepared (m : Type → Type) where
  /-- The types that the server takes parameters as. -/
  parameters : List PgType
  fields : List Field
  run : List Cell → m Execution

/-- A mark that is set at most once. -/
structure Latch (m : Type → Type) where
  isSet : m Bool
  /-- Sets the mark at once, and answers whether it was set before. -/
  set : m Bool

/-- A server with one connection to it. -/
structure Server (m : Type → Type) where
  prepare : String → List PgType → m (Except ServerError (Prepared m))
  /-- Runs a command without parameters. -/
  command : String → m (Except ServerError Unit)
  newLatch : m (Latch m)
  /-- Runs an action if it takes no longer than a span of time. -/
  within : {α : Type} → Duration → m α → m (Option α)

end SqlBind.Postgres
