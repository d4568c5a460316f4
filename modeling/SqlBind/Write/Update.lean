/-
Update of one row, found by its primary key. Every column but the key is set.
-/
import SqlBind.Write.Basic

namespace SqlBind

/-- The update of a row of a table. -/
structure Update where
  table : String
  row : Row
  /-- The columns to set, in order; the row's own if absent. -/
  columns : Option (List Column) := none
  /-- The primary key column. -/
  key : Option String := none

namespace Update

/-- The parts of the statement that sets checked columns. -/
def parts (update : Update) (dialect : Dialect) (columns : List Column) (key : String) :
    List Part :=
  let set := columns.filter fun c => c.name ≠ key
  [.sql ("UPDATE " ++ update.table ++ " SET ")]
    ++ Part.separated ", " (set.map update.row.assignment)
    ++ [.sql (" WHERE " ++ update.table ++ "." ++ key ++ " = "),
      update.row.slot (.declared columns key)]
    ++ returningAll dialect

/-- The statement, with `fallback` as the key column if none was given. -/
def buildWith (update : Update) (dialect : Dialect) (fallback : String) :
    Except DbError Statement := do
  let key := update.key.getD fallback
  Identifier.check update.table
  Identifier.check key
  let columns ← update.row.writtenColumns update.columns
  if columns.all fun c => c.name = key then
    .error (.validation (.updateWithoutColumns update.table key))
  else
    .ok (.ofParts (update.parts dialect columns key))

/-- The statement. -/
def build (update : Update) (dialect : Dialect) : Except DbError Statement :=
  update.buildWith dialect defaultKey

end Update
end SqlBind
