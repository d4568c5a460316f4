/-
Insertion of one row. A row that carries a concrete key is inserted only if no
row with that key exists, so that running the statement twice inserts once.
-/
import SqlBind.Write.Basic

namespace SqlBind

/-- The insertion of a row into a table. -/
structure Insert where
  table : String
  row : Row
  /-- The columns to insert, in order; the row's own if absent. -/
  columns : Option (List Column) := none
  /-- The primary key column. -/
  key : Option String := none

namespace Insert

/-- Whether a key value can be compared with stored ones. -/
def isConcrete : Arg → Bool
  | .raw v => !v.isNull
  | .typed _ v _ => !v.isNull
  | .literal _ | .out _ | .inOut .. => false

/-- The condition that no row with the row's key exists, if the key is concrete. -/
def guard (insert : Insert) (columns : List Column) (key : String) : List Part :=
  match insert.row.get? key with
  | none => []
  | some arg =>
    if isConcrete arg then
      [.sql (" WHERE NOT EXISTS (SELECT 1 FROM " ++ insert.table ++ " WHERE " ++ key ++ " = "),
        insert.row.slot (.declared columns key), .sql ")"]
    else []

/-- The parts of the statement for checked columns. -/
def parts (insert : Insert) (dialect : Dialect) (columns : List Column) (key : String) :
    List Part :=
  [.sql ("INSERT INTO " ++ insert.table ++ " (" ++ Column.nameList columns ++ ") SELECT ")]
    ++ Part.separated ", " (columns.map fun c => [insert.row.slot c])
    ++ (if dialect.isOracle then [.sql " FROM DUAL"] else [])
    ++ insert.guard columns key
    ++ returningAll dialect

/-- The statement, with `fallback` as the key column if none was given. -/
def buildWith (insert : Insert) (dialect : Dialect) (fallback : String) :
    Except DbError Statement := do
  let key := insert.key.getD fallback
  Identifier.check insert.table
  Identifier.check key
  let columns ← insert.row.writtenColumns insert.columns
  if columns.isEmpty then
    .error (.validation (.insertWithoutColumns insert.table))
  else
    .ok (.ofParts (insert.parts dialect columns key))

/-- The statement. -/
def build (insert : Insert) (dialect : Dialect) : Except DbError Statement :=
  insert.buildWith dialect defaultKey

end Insert
end SqlBind
