/-
Documents that must have a given shape: one of a fixed set of names, or a list.
A name may also be written as an object with that name as its only key and
nothing under it.
-/
import SqlBind.Json.Print
import SqlBind.Text.Unprinted

namespace SqlBind

/-- Why a document has not the shape that was asked for. -/
inductive ShapeFault where
  /-- The name is none of those allowed. -/
  | unknownName (name : String) (allowed : List String)
  /-- The document is of another type. -/
  | wrongType (found : String) (expected : String)
  /-- An object that stands for a name has one key. -/
  | notSingleKey
  /-- None of several shapes fits. -/
  | noShape
  deriving DecidableEq, Repr

/-- Names between backquotes: two are alternatives, more are a list. -/
def ShapeFault.alternatives (names : List String) : String :=
  let quoted := names.map fun n => "`" ++ n ++ "`"
  match quoted with
  | [a] => a
  | [a, b] => a ++ " or " ++ b
  | _ => "one of " ++ ", ".intercalate quoted

def ShapeFault.message : ShapeFault → String
  | .unknownName name allowed =>
    "unknown variant `" ++ name ++ "`, expected " ++ alternatives allowed
  | .wrongType found expected => "invalid type: " ++ found ++ ", expected " ++ expected
  | .notSingleKey => "invalid value: map, expected map with a single key"
  | .noShape => "data did not match any variant of untagged enum Repr"

namespace Json

/-- A character of a string in an error text: the quote and the backslash after a
backslash, and a character without a printed form by its short name or its number
in hexadecimal. -/
def shownChar (c : Char) : List Char :=
  if c = '"' || c = '\\' then ['\\', c]
  else if c = '\n' then ['\\', 'n']
  else if c = '\r' then ['\\', 'r']
  else if c = '\t' then ['\\', 't']
  else if c = '\x00' then ['\\', '0']
  else if Text.isUnprinted c then
    ['\\', 'u', '\x7b'] ++ Nat.toDigits 16 c.toNat ++ ['\x7d']
  else [c]

/-- A string in an error text, between quotes. -/
def shownString (s : String) : String := .ofList ('"' :: s.toList.flatMap shownChar ++ ['"'])

/-- A document as an error text names it. -/
def described : Json → String
  | .null => "null"
  | .bool b => "boolean `" ++ (if b then "true" else "false") ++ "`"
  | .int n => "integer `" ++ .ofList (Numeral.ofInt n) ++ "`"
  | .float x => "floating point `" ++ .ofList (DoubleLayout.json.text x) ++ "`"
  | .str s => "string " ++ shownString s
  | .arr _ => "sequence"
  | .obj _ => "map"

/-- What a table has under a name. -/
def named {α : Type} (table : List (String × α)) (name : String) : Except ShapeFault α :=
  match table.find? fun entry => entry.1 = name with
  | some entry => .ok entry.2
  | none => .error (.unknownName name (table.map Prod.fst))

/-- What a table has under the name that a document is. -/
def chosen {α : Type} (table : List (String × α)) : Json → Except ShapeFault α
  | .str name => named table name
  | .obj [(name, content)] => do
    let a ← named table name
    match content with
    | .null => .ok a
    | j => .error (.wrongType j.described "unit")
  | .obj _ => .error .notSingleKey
  | j => .error (.wrongType j.described "string or map")

end Json
end SqlBind
