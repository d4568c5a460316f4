/-
Sort clauses. Sort columns usually come from requests, so each must be a name.
-/
import SqlBind.Dialect
import SqlBind.Identifier
import SqlBind.Text.Quote

namespace SqlBind

/-- A direction of sorting. -/
inductive SortOrder where
  | asc
  | desc
  deriving DecidableEq, Repr

namespace SortOrder

def sql : SortOrder → String
  | .asc => "ASC"
  | .desc => "DESC"

/-- The direction's name in documents. -/
def name : SortOrder → String
  | .asc => "asc"
  | .desc => "desc"

/-- The direction that a text names in letters of either case. -/
def ofText (s : String) : Except DbError SortOrder :=
  match Text.findIgnoringCase? [("asc", asc), ("desc", desc)] s with
  | some order => .ok order
  | none => .error (.validation (.unknownDirection s))

/-- The direction that a document names. -/
def ofJson (j : Json) : Except ShapeFault SortOrder :=
  Json.chosen ([asc, desc].map fun o => (o.name, o)) j

end SortOrder

/-- SQL with a sort clause: the sorts asked for, the default ones if there are
none, and no clause if those are missing too. -/
def orderBy (sql : String) (sorts defaults : List (String × SortOrder)) :
    Except DbError String := do
  let sorts := if sorts.isEmpty then defaults else sorts
  if sorts.isEmpty then .ok sql
  else
    Identifier.checkAll (sorts.map Prod.fst)
    let terms := sorts.map fun (column, order) => column ++ " " ++ order.sql
    .ok (sql ++ " ORDER BY " ++ ", ".intercalate terms)

/-- SQL that fetches the next value of a sequence as column `n`. -/
def nextIdSql (dialect : Dialect) (sequence : String) : Except DbError String := do
  Identifier.check sequence
  match dialect with
  | .oracle => .ok ("SELECT " ++ sequence ++ ".nextval n FROM dual")
  | .postgres => .ok ("SELECT nextval('" ++ Text.doubled '\'' sequence ++ "') n")

end SqlBind
