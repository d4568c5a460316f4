/-
Deletion of one row by its primary key, or of all rows that agree with a
condition. Without any condition every row is deleted.
-/
import SqlBind.Write.Basic

namespace SqlBind

/-- The deletion of the row with a given row's key. -/
structure Delete where
  table : String
  row : Row
  /-- The primary key column. -/
  key : Option String := none

namespace Delete

/-- The parts of the statement. -/
def parts (delete : Delete) (key : String) : List Part :=
  .sql ("DELETE FROM " ++ delete.table ++ " WHERE ") :: delete.row.assignment (.bare key)

/-- The statement, with `fallback` as the key column if none was given. -/
def buildWith (delete : Delete) (fallback : String) : Except DbError Statement := do
  let key := delete.key.getD fallback
  Identifier.check delete.table
  Identifier.check key
  .ok (.ofParts (delete.parts key))

/-- The statement. -/
def build (delete : Delete) : Except DbError Statement := delete.buildWith defaultKey

end Delete

/-- The deletion of all rows that have a given row's values in its columns. -/
structure DeleteAll where
  table : String
  condition : Row

namespace DeleteAll

/-- The parts of the statement. -/
def parts (delete : DeleteAll) : List Part :=
  let equalities := delete.condition.columns.map delete.condition.assignment
  .sql ("DELETE FROM " ++ delete.table)
    :: (if equalities.isEmpty then [] else .sql " WHERE " :: Part.separated " AND " equalities)

/-- The statement. -/
def build (delete : DeleteAll) : Except DbError Statement := do
  Identifier.check delete.table
  Identifier.checkAll delete.condition.keys
  .ok (.ofParts delete.parts)

end DeleteAll
end SqlBind
