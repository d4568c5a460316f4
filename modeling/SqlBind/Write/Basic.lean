/-
What the statements that write rows have in common: the columns they write, the
slot of a column's value, and the row's key.
-/
import SqlBind.Identifier
import SqlBind.Statement

namespace SqlBind

/-- The primary key column when none is given. -/
def defaultKey : String := "id"

namespace Row

/-- The place of a row's value for a column, under the type the column declares. -/
def slot (row : Row) (column : Column) : Part := .slot ((row.argFor column.name).boxed column.type)

/-- `column = value`, for a row's value. -/
def assignment (row : Row) (column : Column) : List Part :=
  [.sql (column.name ++ " = "), row.slot column]

/-- The columns to write: those asked for, or the row's own. Each must be a name. -/
def writtenColumns (row : Row) (columns : Option (List Column)) : Except DbError (List Column) := do
  let columns := columns.getD row.columns
  Identifier.checkAll (columns.map Column.name)
  .ok columns

end Row

namespace Column

/-- The column of a name, under the type that the first one so named in a list
declares. -/
def declared (columns : List Column) (name : String) : Column :=
  ⟨name, (columns.find? fun c => c.name = name).bind Column.type⟩

/-- The names of columns with commas between them. -/
def nameList (columns : List Column) : String := ", ".intercalate (columns.map Column.name)

end Column

/-- What PostgreSQL appends to have the stored row returned. -/
def returningAll (dialect : Dialect) : List Part :=
  if dialect.isPostgres then [.sql " RETURNING *"] else []

end SqlBind
