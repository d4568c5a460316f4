/-
Documents as text, compact or indented by two spaces a level. Characters outside
ASCII stand for themselves; a quote, a backslash and the controls are escaped.
-/
import SqlBind.Json.Basic
import SqlBind.Number.Layout
import SqlBind.Text.Hex

namespace SqlBind.Json

/-- A character inside a string. -/
def escape (c : Char) : List Char :=
  if c = '"' then ['\\', '"']
  else if c = '\\' then ['\\', '\\']
  else if c = '\n' then ['\\', 'n']
  else if c = '\r' then ['\\', 'r']
  else if c = '\t' then ['\\', 't']
  else if c.toNat = 8 then ['\\', 'b']
  else if c.toNat = 12 then ['\\', 'f']
  else if c.toNat < 32 then
    ['\\', 'u', '0', '0', Hex.digitChar (c.toNat / 16), Hex.digitChar (c.toNat % 16)]
  else [c]

/-- A string between quotes. -/
def quote (s : String) : String := .ofList ('"' :: s.toList.flatMap escape ++ ['"'])

/-- A scalar document; what is no number is written as `null`. -/
def scalarText : Json → String
  | .bool true => "true"
  | .bool false => "false"
  | .int n => .ofList (Numeral.ofInt n)
  | .float x => if x.isFinite then .ofList (DoubleLayout.json.text x) else "null"
  | .str s => quote s
  | _ => "null"

mutual
/-- A document without any blank. -/
def compact : Json → String
  | .arr items => "[" ++ compactItems items ++ "]"
  | .obj members => "\x7b" ++ compactMembers members ++ "\x7d"
  | j => scalarText j

/-- Items with commas between them. -/
def compactItems : List Json → String
  | [] => ""
  | [j] => j.compact
  | j :: rest => j.compact ++ "," ++ compactItems rest

/-- Members with commas between them. -/
def compactMembers : List (String × Json) → String
  | [] => ""
  | [(k, j)] => quote k ++ ":" ++ j.compact
  | (k, j) :: rest => quote k ++ ":" ++ j.compact ++ "," ++ compactMembers rest
end

/-- A line break and the blanks of a level. -/
def newLine (level : Nat) : String := .ofList ('\n' :: List.replicate (2 * level) ' ')

mutual
/-- A document with every item and member on a line of its own; an empty array
or object stays together. -/
def indented (level : Nat) : Json → String
  | .arr [] => "[]"
  | .obj [] => "\x7b\x7d"
  | .arr items => "[" ++ indentedItems (level + 1) items ++ newLine level ++ "]"
  | .obj members => "\x7b" ++ indentedMembers (level + 1) members ++ newLine level ++ "\x7d"
  | j => scalarText j

/-- Items, each after a line break. -/
def indentedItems (level : Nat) : List Json → String
  | [] => ""
  | [j] => newLine level ++ j.indented level
  | j :: rest => newLine level ++ j.indented level ++ "," ++ indentedItems level rest

/-- Members, each after a line break. -/
def indentedMembers (level : Nat) : List (String × Json) → String
  | [] => ""
  | [(k, j)] => newLine level ++ quote k ++ ": " ++ j.indented level
  | (k, j) :: rest =>
    newLine level ++ quote k ++ ": " ++ j.indented level ++ "," ++ indentedMembers level rest
end

/-- A document for people to read. -/
def pretty (j : Json) : String := j.indented 0

end SqlBind.Json
