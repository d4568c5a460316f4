/-
Upsert of one row: the row that agrees in the unique columns is updated, or the
row is inserted if there is none. Unique columns and protected ones are inserted
but never updated. Oracle has a statement for it; on PostgreSQL an update that
returns what it touched is followed by an insertion that looks at it.
-/
import SqlBind.Write.Basic

namespace SqlBind

/-- The upsert of a row of a table. -/
structure Merge where
  table : String
  row : Row
  /-- The columns by which the stored row is found. -/
  unique : List String
  /-- The columns to write, in order; the row's own if absent. -/
  columns : Option (List Column) := none
  /-- Columns that are inserted but never updated. -/
  protectedColumns : List String := []

namespace Merge

/-- The roles of an upsert's columns. -/
structure Plan where
  unique : List Column
  updates : List Column
  inserts : List Column

/-- The columns that names stand for, or the first name that is none of them. -/
def resolve (columns : List Column) : List String → Except DbError (List Column)
  | [] => .ok []
  | name :: rest =>
    match columns.find? fun c => c.name = name with
    | none => .error (.unknownUniqueColumn name)
    | some c => (resolve columns rest).map (c :: ·)

/-- The roles of checked columns. -/
def plan (merge : Merge) (columns : List Column) : Except DbError Plan := do
  let unique ← resolve columns merge.unique
  let updates := columns.filter fun c =>
    !merge.unique.contains c.name && !merge.protectedColumns.contains c.name
  .ok { unique, updates, inserts := columns }

/-- The Oracle statement: match, update, insert. Without a column to update
there is no branch for rows that match. -/
def oracleParts (merge : Merge) (plan : Plan) : List Part :=
  [.sql ("MERGE INTO " ++ merge.table ++ " USING dual ON (")]
    ++ Part.separated " AND " (plan.unique.map merge.row.assignment)
    ++ [.sql ")"]
    ++ (if plan.updates.isEmpty then [] else
      .sql " WHEN MATCHED THEN UPDATE SET "
        :: Part.separated ", " (plan.updates.map merge.row.assignment))
    ++ [.sql (" WHEN NOT MATCHED THEN INSERT (" ++ Column.nameList plan.inserts ++ ") VALUES (")]
    ++ Part.separated ", " (plan.inserts.map fun c => [merge.row.slot c])
    ++ [.sql ")"]

/-- A reference to a unique value, which PostgreSQL binds once. -/
def newValue (column : Column) : String := "nv." ++ column.name

/-- What PostgreSQL sets on a match. Without a column to update the unique ones
are set to themselves, so that the match still suppresses the insertion. -/
def postgresSet (merge : Merge) (plan : Plan) : List (List Part) :=
  if plan.updates.isEmpty then plan.unique.map fun c => [.sql (c.name ++ " = " ++ newValue c)]
  else plan.updates.map merge.row.assignment

/-- What PostgreSQL inserts in a column. -/
def postgresValue (merge : Merge) (plan : Plan) (column : Column) : Part :=
  if (plan.unique.map Column.name).contains column.name then .sql (newValue column)
  else merge.row.slot column

/-- The PostgreSQL statement: unique values, update, insert. -/
def postgresParts (merge : Merge) (plan : Plan) : List Part :=
  let condition := plan.unique.map fun c => "t." ++ c.name ++ " = " ++ newValue c
  [.sql ("WITH nv (" ++ Column.nameList plan.unique ++ ") AS (VALUES (")]
    ++ Part.separated ", " (plan.unique.map fun c => [merge.row.slot c])
    ++ [.sql (")), upsert AS (UPDATE " ++ merge.table ++ " t SET ")]
    ++ Part.separated ", " (merge.postgresSet plan)
    ++ [.sql (" FROM nv WHERE " ++ " AND ".intercalate condition
      ++ " RETURNING t.*) INSERT INTO " ++ merge.table ++ " (" ++ Column.nameList plan.inserts
      ++ ") SELECT ")]
    ++ Part.separated ", " (plan.inserts.map fun c => [merge.postgresValue plan c])
    ++ [.sql " FROM nv WHERE NOT EXISTS (SELECT 1 FROM upsert LIMIT 1)"]

/-- The parts of the statement in a dialect. -/
def parts (merge : Merge) (dialect : Dialect) (plan : Plan) : List Part :=
  match dialect with
  | .oracle => merge.oracleParts plan
  | .postgres => merge.postgresParts plan

/-- The statement. -/
def build (merge : Merge) (dialect : Dialect) : Except DbError Statement := do
  Identifier.check merge.table
  if merge.unique.isEmpty then
    .error (.validation (.mergeWithoutKey merge.table))
  else
    let columns ← merge.row.writtenColumns merge.columns
    let plan ← merge.plan columns
    .ok (.ofParts (merge.parts dialect plan))

end Merge
end SqlBind
