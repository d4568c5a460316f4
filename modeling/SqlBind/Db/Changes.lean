/-
Change sets on a database, applied in order and without a transaction of their
own. The first change that fails ends the run, and its error names the change.
-/
import SqlBind.Change
import SqlBind.Db

namespace SqlBind

/-- Where and how the changes of a set are applied. -/
structure ChangeTarget where
  table : String
  /-- The columns to write, in order; each row's own if absent. -/
  columns : Option (List Column) := none
  /-- The primary key column. -/
  key : Option String := none

namespace Db

variable {m : Type → Type} [Monad m]

/-- Does to a row what its state says. -/
def applyOne (db : Db m) (target : ChangeTarget) (change : RowChange) :
    ExceptT DbError m RowOutcome :=
  match change.state with
  | .new =>
    db.insertRow
      { table := target.table, row := change.row, columns := target.columns, key := target.key }
  | .edit =>
    db.updateRow
      { table := target.table, row := change.row, columns := target.columns, key := target.key }
  | .remove => do
    let count ← db.deleteRow { table := target.table, row := change.row, key := target.key }
    return .affected count
  | .none => return .skipped

/-- Applies changes that stand from position `index` on in their set. -/
def applyFrom (db : Db m) (target : ChangeTarget) (index : Nat) :
    List RowChange → ExceptT DbError m (List RowOutcome)
  | [] => return []
  | change :: rest => do
    let outcome ← (db.applyOne target change).adapt fun e => .change target.table index e
    let outcomes ← db.applyFrom target (index + 1) rest
    return outcome :: outcomes

/-- Applies the changes of a set in order. -/
def applyEach (db : Db m) (target : ChangeTarget) (changes : List RowChange) :
    ExceptT DbError m (List RowOutcome) :=
  db.applyFrom target 0 changes

end Db
end SqlBind
