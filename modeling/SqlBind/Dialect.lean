/-
The two dialects that statements are written for. They differ in how a row is
inserted and returned, in the upsert, and in how a sequence is read.
-/
import SqlBind.Error

namespace SqlBind

/-- An SQL dialect. -/
inductive Dialect where
  | oracle
  | postgres
  deriving DecidableEq, Repr

namespace Dialect

/-- The dialect used when none is given. -/
def default : Dialect := .postgres

instance : Inhabited Dialect := ⟨default⟩

def name : Dialect → String
  | .oracle => "oracle"
  | .postgres => "postgres"

def isOracle : Dialect → Bool
  | .oracle => true
  | .postgres => false

def isPostgres : Dialect → Bool
  | .oracle => false
  | .postgres => true

/-- The names by which a dialect is known. -/
def aliases : List (String × Dialect) :=
  [("oracle", .oracle), ("ora", .oracle), ("postgres", .postgres), ("postgresql", .postgres),
    ("pg", .postgres)]

/-- The dialect of a name, in letters of either case. -/
def ofName? (s : String) : Option Dialect := Text.findIgnoringCase? aliases s

/-- The dialect of a name, or the refusal of the name. -/
def ofName (s : String) : Except DbError Dialect :=
  match ofName? s with
  | some d => .ok d
  | none => .error (.validation (.unknownDialect s))

/-- The dialect that a document names. -/
def ofJson (j : Json) : Except ShapeFault Dialect :=
  Json.chosen ([.oracle, .postgres].map fun d => (name d, d)) j

end Dialect

namespace SqlType

/-- The tag that is written so in letters of either case, or the refusal of the text. -/
def ofText (s : String) : Except DbError SqlType :=
  match ofText? s with
  | some t => .ok t
  | none => .error (.validation (.unknownTag s))

/-- The tag that a document names. -/
def ofJson (j : Json) : Except ShapeFault SqlType :=
  Json.chosen (all.map fun t => (t.tag, t)) j

end SqlType
end SqlBind
