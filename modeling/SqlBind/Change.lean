/-
Change sets: rows with what is to be done to each. As a document a change is the
row with one more member, `_state`.
-/
import SqlBind.Row

namespace SqlBind

/-- What is to be done to a row. -/
inductive RowState where
  | new
  | edit
  | remove
  | none
  deriving DecidableEq, Repr

namespace RowState

def all : List RowState := [new, edit, remove, none]

def name : RowState → String
  | new => "new"
  | edit => "edit"
  | remove => "remove"
  | none => "none"

/-- The state that a document names. -/
def ofJson (j : Json) : Except ShapeFault RowState :=
  Json.chosen (all.map fun s => (s.name, s)) j

end RowState

/-- A row with its state. -/
structure RowChange where
  state : RowState
  row : Row

namespace RowChange

/-- The member that holds the state. -/
def stateKey : String := "_state"

/-- The state among an object's members. None and `null` stand for no state. -/
def stateAmong (members : List (String × Json)) : Except DbError RowState :=
  match OrderedMap.lookup members stateKey with
  | .none | .some .null => .ok .none
  | .some j => (RowState.ofJson j).mapError fun fault => .validation (.badState fault)

/-- The change that a document denotes. -/
def ofJson : Json → Except DbError RowChange
  | .obj members => do
    let state ← stateAmong members
    let row ← Row.ofJson (.obj (members.filter fun member => member.1 ≠ stateKey))
    .ok { state, row }
  | _ => .error (.validation .changeNotObject)

end RowChange
end SqlBind
