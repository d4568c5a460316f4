/-
Statements on a database. Every operation makes a canonical statement of what it
is given, gives untagged documents their type, logs the statement and hands it
to the transport. There is one place where this is done, so that no statement
goes out unlogged and nothing is logged that does not go out.
-/
import SqlBind.Log
import SqlBind.Ordering
import SqlBind.Params
import SqlBind.Transport
import SqlBind.Write.Delete
import SqlBind.Write.Insert
import SqlBind.Write.Merge
import SqlBind.Write.Update

namespace SqlBind

/-- What became of a row that was to be written. -/
inductive RowOutcome where
  /-- The row as stored, or that there is none. -/
  | returned (row : Option Record)
  /-- How many rows were affected. -/
  | affected (count : Nat)
  /-- Nothing was to be done. -/
  | skipped

/-- Whether a row was written. -/
def RowOutcome.isWritten : RowOutcome → Bool
  | .returned row => row.isSome
  | .affected count => 0 < count
  | .skipped => false

/-- The argument with the tag `JSON`, if it is a document without a tag. -/
def Arg.taggedJson : Arg → Arg
  | .raw (.json j) => .ofType .json (.json j)
  | arg => arg

/-- The statement that is handed over for one that was made: documents without a
tag are bound as binary ones anyway, and get a tag only if they should not be. -/
def Config.stage (config : Config) (s : Statement) : Statement :=
  match config.jsonType with
  | .jsonb => s
  | .json => { s with args := s.args.map Arg.taggedJson }

/-- A database: a way to it, its settings and a log. -/
structure Db (m : Type → Type) where
  transport : Transport m
  config : Config := {}
  log : Event → m Unit

namespace Db

variable {m : Type → Type} [Monad m] {α : Type}

/-- Logs a statement and hands it over. -/
def hand (db : Db m) (operation : Operation) (s : Statement)
    (call : Option Duration → Statement → ExceptT DbError m α) : ExceptT DbError m α := do
  let s := db.config.stage s
  db.log (db.config.event operation db.transport.dialect s)
  call db.config.queryTimeout s

/-- All rows of a query. -/
def query (db : Db m) (template : String) (params : Params) : ExceptT DbError m ResultSet := do
  db.hand .query (← normalize template params) db.transport.query

/-- One page of the rows of a query. -/
def pageQuery (db : Db m) (template : String) (params : Params) (page : Page) :
    ExceptT DbError m ResultSet := do
  db.hand .pageQuery (← normalize template params) (db.transport.pageQuery page)

/-- The first row of a query, if any. -/
def queryRow (db : Db m) (template : String) (params : Params) :
    ExceptT DbError m (Option Record) := do
  let result ← db.hand .queryRow (← normalize template params) db.transport.query
  return result.rows.head?

/-- The first column of the first row of a query, if any. -/
def queryScalar (db : Db m) (template : String) (params : Params) :
    ExceptT DbError m (Option Value) := do
  let result ← db.hand .queryScalar (← normalize template params) db.transport.query
  return result.rows.head?.bind fun row => row.values.head?

/-- The number of rows that a statement affects. -/
def execute (db : Db m) (template : String) (params : Params) : ExceptT DbError m Nat := do
  db.hand .execute (← normalize template params) db.transport.execute

/-- The outputs of a procedure. -/
def call (db : Db m) (template : String) (params : Params) : ExceptT DbError m CallOutcome := do
  db.hand .call (← normalize template params) db.transport.call

/-- Shows the rows of a query to a visitor until it stops. -/
def travel (db : Db m) (template : String) (params : Params) (visit : Visitor m) :
    ExceptT DbError m Nat := do
  db.hand .travel (← normalize template params) (db.transport.travel visit)

/-- The value that a sequence's row holds: the column `n`, or else the first one. -/
def sequenceValue (sequence : String) (result : ResultSet) : Except DbError Value :=
  match result.rows.head? with
  | none => .error (.notFound (.sequenceRow sequence))
  | some row =>
    match (row.get? "n").or row.values.head? with
    | none => .error (.notFound (.sequenceValue sequence))
    | some v => .ok v

/-- The next value of a sequence. -/
def nextId (db : Db m) (sequence : String) : ExceptT DbError m Value := do
  let sql ← nextIdSql db.transport.dialect sequence
  let result ← db.hand .nextId (.bare sql) db.transport.query
  sequenceValue sequence result

/-- Runs a statement that writes one row. PostgreSQL returns the row. -/
def writeRow (db : Db m) (operation : Operation) (s : Statement) : ExceptT DbError m RowOutcome :=
  if db.transport.dialect.isPostgres then do
    let result ← db.hand operation s db.transport.query
    return .returned result.rows.head?
  else do
    let count ← db.hand operation s db.transport.execute
    return .affected count

/-- Inserts one row unless its key is there. -/
def insertRow (db : Db m) (insert : Insert) : ExceptT DbError m RowOutcome := do
  db.writeRow .insertRow (← insert.buildWith db.transport.dialect db.config.key)

/-- Updates one row by its key. -/
def updateRow (db : Db m) (update : Update) : ExceptT DbError m RowOutcome := do
  db.writeRow .updateRow (← update.buildWith db.transport.dialect db.config.key)

/-- Updates or inserts one row by its unique columns. -/
def mergeRow (db : Db m) (merge : Merge) : ExceptT DbError m Nat := do
  db.hand .mergeRow (← merge.build db.transport.dialect) db.transport.execute

/-- Deletes one row by its key. -/
def deleteRow (db : Db m) (delete : Delete) : ExceptT DbError m Nat := do
  db.hand .deleteRow (← delete.buildWith db.config.key) db.transport.execute

/-- Deletes all rows that agree with a condition. -/
def deleteRows (db : Db m) (delete : DeleteAll) : ExceptT DbError m Nat := do
  db.hand .deleteRows (← delete.build) db.transport.execute

end Db
end SqlBind
