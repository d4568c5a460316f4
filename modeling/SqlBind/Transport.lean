/-
The boundary to a database. A transport runs canonical statements in some monad
of effects and knows the dialect it takes. Every call is given the time it may
take, and one that takes longer fails with `timeout`.
-/
import SqlBind.Dialect
import SqlBind.Duration
import SqlBind.Statement

namespace SqlBind

/-- A result row: values by column name, in the order of the columns. -/
abbrev Record := OrderedMap Value

/-- What is known of a result column. -/
structure ColumnMeta where
  name : String
  type : SqlType
  /-- The database's own name of the type. -/
  databaseType : String
  deriving DecidableEq, Repr

/-- The rows that a query answers. -/
structure ResultSet where
  columns : List ColumnMeta
  rows : List Record

/-- A window into the rows of a query: rows to skip and rows to return at most. -/
structure Page where
  start : UInt64
  limit : UInt64
  deriving DecidableEq, Repr

/-- What a procedure call answers: outputs by name, and the rows of the cursors
among them. -/
structure CallOutcome where
  outputs : Record
  cursors : OrderedMap ResultSet

/-- The call without any output. -/
def CallOutcome.empty : CallOutcome := ⟨.empty, .empty⟩

/-- Whether a visitor of rows wants to see the next one. -/
inductive Flow where
  | proceed
  | stop
  deriving DecidableEq, Repr

/-- What a visitor does with a row. -/
abbrev Visitor (m : Type → Type) := Record → List ColumnMeta → m Flow

/-- The calls that run statements. -/
structure Transport (m : Type → Type) where
  /-- The dialect of the statements it takes. Every operation asks for it anew; it is a
  field, as a transport gives the same answer each time. -/
  dialect : Dialect
  /-- All rows of a query. -/
  query : Option Duration → Statement → ExceptT DbError m ResultSet
  /-- The rows of a query that a page covers. -/
  pageQuery : Page → Option Duration → Statement → ExceptT DbError m ResultSet
  /-- The number of rows that a statement affects. -/
  execute : Option Duration → Statement → ExceptT DbError m Nat
  /-- The outputs of a procedure. -/
  call : Option Duration → Statement → ExceptT DbError m CallOutcome
  /-- Shows the rows of a query to a visitor, one after the other, until it
  stops; answers how many it saw. -/
  travel : Visitor m → Option Duration → Statement → ExceptT DbError m Nat

/-- A transport whose statements run inside a transaction, and the ways to end it. -/
structure TransactionTransport (m : Type → Type) extends Transport m where
  commit : ExceptT DbError m Unit
  rollback : ExceptT DbError m Unit
  /-- Gives the transaction back, rolled back if it is still open. -/
  close : ExceptT DbError m Unit

/-- A transport that can open transactions. -/
structure Connection (m : Type → Type) extends Transport m where
  begin : ExceptT DbError m (TransactionTransport m)

end SqlBind
