/-
Rows: columns in order, each with the argument to store in it.
-/
import SqlBind.Arg.Wire
import SqlBind.Column

namespace SqlBind

/-- A row by column name. -/
abbrev Row := OrderedMap Arg

/-- Arguments by name, in the order in which they were given. -/
abbrev NamedArgs := OrderedMap Arg

namespace Row

/-- The row's columns, none with a declared type. -/
def columns (row : Row) : List Column := row.keys.map Column.bare

/-- What the row stores in a column: its argument, or `NULL` if it has none. -/
def argFor (row : Row) (column : String) : Arg := (row.get? column).getD .null

/-- The row that a document denotes. -/
def ofJson : Json → Except DbError Row
  | .obj members => (Arg.ofMembers members).map OrderedMap.ofList
  | _ => .error (.validation .rowNotObject)

/-- The row as a document. -/
def toJson (row : Row) : Json := .obj (row.toList.map fun entry => (entry.1, entry.2.toJson))

end Row
end SqlBind
