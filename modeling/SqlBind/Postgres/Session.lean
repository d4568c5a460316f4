/-
Statements on a PostgreSQL server. A statement is prepared with the types its
arguments declare, each argument is written as the type the server settled on,
and the rows are read by the types of their columns.
-/
import SqlBind.Postgres.Decode
import SqlBind.Postgres.Parameter
import SqlBind.Postgres.Server
import SqlBind.Text.Blank
import SqlBind.Text.Quote
import SqlBind.Transport

namespace SqlBind.Postgres

/-- What is known of a column. -/
def Field.columnMeta (field : Field) : ColumnMeta :=
  ⟨field.name, field.type.tag, field.type.name⟩

/-- A row read column by column, from position `index` on, into a record. -/
def readRow (record : Record) (index : Nat) : List Field → List Cell → Except DbError Record
  | [], _ => .ok record
  | field :: fields, cells =>
    match decodeCell? field.type (cells.head?.getD none) with
    | none => .error (.decode field.name (.column index))
    | some v => readRow (record.insert field.name v) (index + 1) fields cells.tail

/-- The records of rows, or the first failure. -/
def readRows (fields : List Field) : List (List Cell) → Except DbError (List Record)
  | [] => .ok []
  | row :: rest => do
    let record ← readRow .empty 0 fields row
    let records ← readRows fields rest
    .ok (record :: records)

/-- Arguments written as the types of parameters, from position `index` on. -/
def writeArgs (index : Nat) : List PgType → List Arg → Except DbError (List Cell)
  | type :: types, arg :: args =>
    match encodeArg type arg with
    | .error _ => .error (.query (.parameter index))
    | .ok cell => (writeArgs (index + 1) types args).map (cell :: ·)
  | _, _ => .ok []

/-- The cells of all arguments, which must be as many as the parameters. -/
def bindArgs (parameters : List PgType) (args : List Arg) : Except DbError (List Cell) :=
  if parameters.length = args.length then writeArgs 0 parameters args
  else .error (.query (.parameterCount parameters.length args.length))

/-- Refuses a statement whose arguments cannot be the values of its binds. -/
def checkArgs (s : Statement) : Except DbError Unit :=
  if s.placeholderCount ≠ s.args.length then
    .error (.validation (.misaligned s.placeholderCount s.args.length))
  else
    match s.args.findSome? Arg.literal? with
    | some fragment => .error (.validation (.boundLiteral fragment))
    | none => .ok ()

/-- The number of rows in a command's tag: its last word, if that is a number. -/
def affectedRows (tag : String) : Nat :=
  let digits := match (Text.split ' ' tag.toList).getLast? with
    | some ('+' :: ds) => ds
    | some ds => ds
    | none => []
  ((Numeral.read? digits).filter (· < 2 ^ 64)).getD 0

/-- The statement that answers one page of a query's rows. -/
def paged (page : Page) (s : Statement) : Statement where
  sql := "SELECT * FROM (" ++ s.sql ++ ") _page LIMIT ? OFFSET ?"
  args := s.args ++
    [.ofType .long (.int page.limit.toInt64), .ofType .long (.int page.start.toInt64)]

/-- The statement that reads all rows of an open cursor. -/
def fetchAll (cursor : String) : Statement :=
  .bare ("FETCH ALL FROM \"" ++ Text.doubled '"' cursor ++ "\"")

namespace Server

variable {m : Type → Type} [Monad m]

/-- Has a statement prepared. -/
def prepared (server : Server m) (s : Statement) : ExceptT DbError m (Prepared m) := do
  checkArgs s
  match ← server.prepare (Placeholder.render s.sql) (s.args.map parameterType) with
  | .ok p => return p
  | .error e => throw e.toDbError

/-- Has a statement prepared and run. -/
def executed (server : Server m) (s : Statement) : ExceptT DbError m (List Field × Execution) := do
  let p ← server.prepared s
  let cells ← bindArgs p.parameters s.args
  return (p.fields, ← p.run cells)

/-- All rows of a query. A failure of the server comes before one of reading. -/
def query (server : Server m) (s : Statement) : ExceptT DbError m ResultSet := do
  let (fields, execution) ← server.executed s
  match execution.ending with
  | .error e => throw e.toDbError
  | .ok _ => return ⟨fields.map Field.columnMeta, ← readRows fields execution.rows⟩

/-- The number of rows that a statement affects. -/
def execute (server : Server m) (s : Statement) : ExceptT DbError m Nat := do
  let (_, execution) ← server.executed s
  match execution.ending with
  | .error e => throw e.toDbError
  | .ok tag => return affectedRows tag

/-- Sorts the columns of a call's row into outputs and cursors, whose rows are
fetched by name. -/
def sortOutputs (server : Server m) (outcome : CallOutcome) :
    List (ColumnMeta × String × Value) → ExceptT DbError m CallOutcome
  | [] => return outcome
  | (column, name, v) :: rest =>
    match column.type, v with
    | .outCursor, .text cursor => do
      let rows ← server.query (fetchAll cursor)
      server.sortOutputs { outcome with cursors := outcome.cursors.insert name rows } rest
    | _, v => server.sortOutputs { outcome with outputs := outcome.outputs.insert name v } rest

/-- The outputs of a procedure, which it answers as one row. -/
def call (server : Server m) (s : Statement) : ExceptT DbError m CallOutcome := do
  let result ← server.query s
  match result.rows with
  | [] => return .empty
  | row :: _ => server.sortOutputs .empty (result.columns.zip row.toList)

/-- Shows rows to a visitor, where `seen` were shown before. The rows that came
are shown before a failure of the server is reported. -/
def visitRows (visit : Visitor m) (fields : List Field) (ending : Except ServerError String)
    (seen : Nat) : List (List Cell) → ExceptT DbError m Nat
  | [] =>
    match ending with
    | .error e => throw e.toDbError
    | .ok _ => return seen
  | row :: rest => do
    let record ← readRow .empty 0 fields row
    match ← visit record (fields.map Field.columnMeta) with
    | .stop => return seen + 1
    | .proceed => visitRows visit fields ending (seen + 1) rest

/-- Shows the rows of a query to a visitor until it stops. -/
def travel (server : Server m) (visit : Visitor m) (s : Statement) : ExceptT DbError m Nat := do
  let (fields, execution) ← server.executed s
  visitRows visit fields execution.ending 0 execution.rows

/-- An action that fails if it takes longer than a limit. -/
def limited {α : Type} (server : Server m) (limit : Option Duration)
    (action : ExceptT DbError m α) : ExceptT DbError m α :=
  match limit with
  | none => action
  | some span => do
    match ← server.within span action.run with
    | some (.ok a) => return a
    | some (.error e) => throw e
    | none => throw (.timeout span)

/-- The server as a transport. -/
def transport (server : Server m) : Transport m where
  dialect := .postgres
  query := fun limit s => server.limited limit (server.query s)
  pageQuery := fun page limit s => server.limited limit (server.query (paged page s))
  execute := fun limit s => server.limited limit (server.execute s)
  call := fun limit s => server.limited limit (server.call s)
  travel := fun visit limit s => server.limited limit (server.travel visit s)

end Server
end SqlBind.Postgres
