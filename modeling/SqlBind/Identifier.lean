/-
Names of tables and columns. A name is one or more parts joined by dots; a part
is a letter or underscore followed by letters, digits and `_`, `$`, `#`, or it
stands between double quotes, where a quote is written twice. The check reads
the name once from left to right.
-/
import SqlBind.Error

namespace SqlBind.Identifier

/-- A character that may start an unquoted part. -/
def isStart (c : Char) : Bool := c.isAlpha || c = '_'

/-- A character that may follow in an unquoted part. -/
def isFollow (c : Char) : Bool := c.isAlphanum || c = '_' || c = '$' || c = '#'

/-- Where in a name the check is. -/
inductive Place where
  /-- A part must start here. -/
  | start
  /-- In an unquoted part, at least one character in. -/
  | bare
  /-- Between quotes, where `empty` says that nothing was read yet. -/
  | quoted (empty : Bool)
  /-- After a quote between quotes: it closes the part or is the first of two. -/
  | afterQuote (empty : Bool)
  deriving DecidableEq, Repr

/-- The first fault in what is left of `name`. -/
def faultFrom (name : String) : Place → List Char → Option Invalid
  | .start, [] => some (.trailingDot name)
  | .start, c :: rest =>
    if c = '"' then faultFrom name (.quoted true) rest
    else if isStart c then faultFrom name .bare rest
    else some (.badCharacter c name)
  | .bare, [] => none
  | .bare, c :: rest =>
    if c = '.' then faultFrom name .start rest
    else if isFollow c then faultFrom name .bare rest
    else some (.badCharacter c name)
  | .quoted _, [] => some (.openQuote name)
  | .quoted empty, c :: rest =>
    if c = '"' then faultFrom name (.afterQuote empty) rest
    else if c = '\x00' then some (.openQuote name)
    else faultFrom name (.quoted false) rest
  | .afterQuote empty, [] => if empty then some (.emptyQuote name) else none
  | .afterQuote empty, c :: rest =>
    if c = '"' then faultFrom name (.quoted false) rest
    else if empty then some (.emptyQuote name)
    else if c = '.' then faultFrom name .start rest
    else some (.badCharacter c name)

/-- What is wrong with a name, if anything. -/
def fault? (name : String) : Option Invalid :=
  if name.isEmpty then some .emptyName else faultFrom name .start name.toList

/-- Refuses what is no name. -/
def check (name : String) : Except DbError Unit :=
  match fault? name with
  | none => .ok ()
  | some fault => .error (.validation fault)

/-- Refuses the first of several that is no name. -/
def checkAll : List String → Except DbError Unit
  | [] => .ok ()
  | name :: rest => do
    check name
    checkAll rest

end SqlBind.Identifier
