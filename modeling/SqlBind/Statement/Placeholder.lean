/-
The binds of a statement: the question marks outside quotes and comments. Single
and double quotes, `--` to the end of the line and `/* */` are read by an
automaton that takes one character at a time, so that reading a text piece by
piece reads the same as reading it whole. A quote written twice closes a quoted
text and opens the next at once, which has the effect of an escape.
-/
import SqlBind.Number.Numeral

namespace SqlBind.Placeholder

/-- Where in a statement the reader is, after the characters so far. -/
inductive Mode where
  /-- Outside quotes and comments. -/
  | plain
  /-- Outside, after a hyphen that the next one makes a comment. -/
  | dash
  /-- Outside, after a slash that a star makes a comment. -/
  | slash
  /-- Inside single quotes. -/
  | single
  /-- Inside double quotes. -/
  | double
  /-- Inside a comment to the end of the line. -/
  | line
  /-- Inside a bracketed comment. -/
  | block
  /-- Inside a bracketed comment, after a star that a slash makes its end. -/
  | blockStar
  deriving DecidableEq, Repr

namespace Mode

/-- Whether a bind may stand here. -/
def isOutside : Mode → Bool
  | .plain | .dash | .slash => true
  | _ => false

/-- The mode after a character outside quotes and comments that ends no mark. -/
def opened (c : Char) : Mode :=
  if c = '\'' then .single
  else if c = '"' then .double
  else if c = '-' then .dash
  else if c = '/' then .slash
  else .plain

/-- The mode after one more character. -/
def next (m : Mode) (c : Char) : Mode :=
  match m with
  | .plain => opened c
  | .dash => if c = '-' then .line else opened c
  | .slash => if c = '*' then .block else opened c
  | .single => if c = '\'' then .plain else .single
  | .double => if c = '"' then .plain else .double
  | .line => if c = '\n' then .plain else .line
  | .block => if c = '*' then .blockStar else .block
  | .blockStar => if c = '/' then .plain else if c = '*' then .blockStar else .block

/-- The mode after a whole text. -/
def after (m : Mode) (cs : List Char) : Mode := cs.foldl next m

/-- Whether a character read in this mode is a bind. -/
def binds (m : Mode) (c : Char) : Bool := m.isOutside && c = '?'

end Mode

/-- A stretch of a statement without binds, or one bind. -/
inductive Piece where
  | text (run : List Char)
  | bind
  deriving DecidableEq, Repr

/-- Pieces with one more character of text before them. -/
def prepend (c : Char) : List Piece → List Piece
  | .text run :: rest => .text (c :: run) :: rest
  | pieces => .text [c] :: pieces

/-- The pieces of a text that is read from a mode on. -/
def piecesFrom (m : Mode) : List Char → List Piece
  | [] => []
  | c :: rest =>
    if m.binds c then .bind :: piecesFrom (m.next c) rest
    else prepend c (piecesFrom (m.next c) rest)

/-- The pieces of a statement. -/
def pieces (sql : List Char) : List Piece := piecesFrom .plain sql

/-- The characters of a piece, a bind being a question mark. -/
def Piece.chars : Piece → List Char
  | .text run => run
  | .bind => ['?']

/-- The pieces with the binds numbered from `n` on. -/
def numberFrom (n : Nat) : List Piece → List Char
  | [] => []
  | .text run :: rest => run ++ numberFrom n rest
  | .bind :: rest => '$' :: Numeral.ofNat n ++ numberFrom (n + 1) rest

/-- A statement with `$1`, `$2`, … in place of its binds. -/
def render (sql : String) : String := .ofList (numberFrom 1 (pieces sql.toList))

/-- How many binds a statement has. -/
def count (sql : String) : Nat := (pieces sql.toList).count .bind

end SqlBind.Placeholder
