/-
Column descriptors: a name and, if it is declared, the type under which the
column's value is bound.
-/
import SqlBind.Dialect
import SqlBind.Text.Blank

namespace SqlBind

/-- A column, perhaps with a declared type. -/
structure Column where
  name : String
  type : Option SqlType
  deriving DecidableEq, Repr

namespace Column

/-- A column without a declared type. -/
def bare (name : String) : Column := ⟨name, none⟩

/-- One entry of a list: a name, or a name and a type with a colon between. -/
def ofEntry (entry : List Char) : Except DbError Column :=
  match Text.splitOnce? ':' entry with
  | none => .ok (bare (.ofList entry))
  | some (name, type) => do
    let type ← SqlType.ofText (.ofList (Text.trim type))
    .ok ⟨.ofList (Text.trim name), some type⟩

/-- The columns of a list with commas between them; empty entries are left out. -/
def parseList (list : String) : Except DbError (List Column) :=
  (((Text.split ',' list.toList).map Text.trim).filter (!·.isEmpty)).mapM ofEntry

/-- A column as a document. -/
def toJson (c : Column) : Json :=
  match c.type with
  | none => .obj [("name", .str c.name)]
  | some type => .obj [("name", .str c.name), ("type", .str type.tag)]

/-- A declared type: nothing, or the name of a tag. -/
def typeOfJson? : Json → Option (Option SqlType)
  | .null => some none
  | j => match SqlType.ofJson j with
    | .ok type => some (some type)
    | .error _ => none

/-- A name and a type in a document. -/
def described? (name type : Json) : Option Column :=
  match name with
  | .str name => (typeOfJson? type).map fun type => ⟨name, type⟩
  | _ => none

/-- The column that a document denotes: its name, or an object of name and type,
of which the type may be missing. -/
def ofJson (j : Json) : Except ShapeFault Column :=
  let column : Option Column := match j with
    | .str name => some (bare name)
    | .obj members =>
      (OrderedMap.lookup members "name").bind fun name =>
        described? name ((OrderedMap.lookup members "type").getD .null)
    | _ => none
  match column with
  | some c => .ok c
  | none => .error .noShape

/-- The columns that a list of documents denotes. -/
def listOfJson : Json → Except ShapeFault (List Column)
  | .arr items => items.mapM ofJson
  | j => .error (.wrongType j.described "a sequence")

end Column
end SqlBind
