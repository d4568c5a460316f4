/-
JSON documents. An integer and a float are told apart, since `5` and `5.0` bind
differently; the members of an object keep their order.
-/
import SqlBind.Number.Double
import SqlBind.OrderedMap

namespace SqlBind

/-- A JSON document. -/
inductive Json where
  | null
  | bool (b : Bool)
  | int (n : Int)
  | float (x : Double)
  | str (s : String)
  | arr (items : List Json)
  | obj (members : List (String × Json))

namespace Json

instance : Inhabited Json := ⟨.null⟩

/-- An object whose members are given in order, a later one of the same name
taking the place of an earlier one. -/
def object (members : List (String × Json)) : Json :=
  .obj (members.foldl (fun acc m => OrderedMap.put acc m.1 m.2) [])

/-- A float as a document: only a finite one is a number. -/
def ofDouble (x : Double) : Json := if x.isFinite then .float x else .null

mutual
/-- Whether no object of the document has two members of one name. -/
def WellFormed : Json → Prop
  | .arr items => AllWellFormed items
  | .obj members => (members.map Prod.fst).Nodup ∧ MembersWellFormed members
  | _ => True

/-- Every item is well formed. -/
def AllWellFormed : List Json → Prop
  | [] => True
  | j :: rest => j.WellFormed ∧ AllWellFormed rest

/-- Every member's value is well formed. -/
def MembersWellFormed : List (String × Json) → Prop
  | [] => True
  | (_, j) :: rest => j.WellFormed ∧ MembersWellFormed rest
end

end Json
end SqlBind
