/-
Canonical statements: SQL in which every bind position is a bare question mark,
and one argument for each, in order. A statement is put together from parts,
fixed SQL and slots for arguments, and its SQL and its arguments are two views of
the same parts.
-/
import SqlBind.Row
import SqlBind.Statement.Placeholder

namespace SqlBind

/-- SQL with the arguments of its binds. -/
structure Statement where
  sql : String
  args : List Arg

/-- A part of a statement. -/
inductive Part where
  /-- SQL that stands as it is. -/
  | sql (text : String)
  /-- The place of one argument. -/
  | slot (arg : Arg)

namespace Part

/-- A slot reads as a bind, or as its fragment if it is a literal. -/
def text : Part → String
  | .sql text => text
  | .slot (.literal fragment) => fragment
  | .slot _ => "?"

/-- What a part binds: a literal binds nothing. -/
def bound? : Part → Option Arg
  | .sql _ => none
  | .slot (.literal _) => none
  | .slot arg => some arg

/-- Groups of parts with a text between each two. -/
def separated (separator : String) : List (List Part) → List Part
  | [] => []
  | [group] => group
  | group :: rest => group ++ .sql separator :: separated separator rest

end Part

namespace Statement

/-- A statement without arguments. -/
def bare (sql : String) : Statement := ⟨sql, []⟩

/-- The statement that parts make up. -/
def ofParts (parts : List Part) : Statement :=
  ⟨String.join (parts.map Part.text), parts.filterMap Part.bound?⟩

/-- How many binds the SQL has. -/
def placeholderCount (s : Statement) : Nat := Placeholder.count s.sql

/-- The members of a statement's document. -/
def toMembers (s : Statement) : List (String × Json) :=
  [("sql", .str s.sql), ("args", .arr (s.args.map Arg.toJson))]

/-- The statement as a document. -/
def toJson (s : Statement) : Json := .obj s.toMembers

end Statement
end SqlBind
