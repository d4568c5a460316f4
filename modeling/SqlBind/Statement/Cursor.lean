/-
Binds by the octets of a statement. A cursor moves over the UTF-8 octets, from one
token to the next, and looks one octet ahead; at an end of input inside a token it
may come to stand past the end. Texts are cut out of the statement between two
octet offsets, which is possible at character boundaries only.
-/
import SqlBind.Statement.Placeholder

namespace SqlBind.Placeholder.Cursor

/-- The octets of a statement. -/
def octets (sql : String) : List UInt8 := sql.toUTF8.data.toList

/-- Where the quoted text ends whose content the cursor is in: at a quote that no
other follows, or at the end of input. -/
def quoteEnd (os : List UInt8) (quote : UInt8) (i : Nat) : Nat :=
  if i < os.length then
    if os[i]? = some quote then
      if os[i + 1]? = some quote then quoteEnd os quote (i + 2) else i
    else quoteEnd os quote (i + 1)
  else i
termination_by os.length - i

/-- Where the line ends. -/
def lineEnd (os : List UInt8) (i : Nat) : Nat :=
  if i < os.length then
    if os[i]? = some '\n'.toUInt8 then i else lineEnd os (i + 1)
  else i
termination_by os.length - i

/-- Where the end of the bracketed comment stands that the cursor is in. -/
def commentEnd (os : List UInt8) (i : Nat) : Nat :=
  if i < os.length then
    if os[i]? = some '*'.toUInt8 ∧ os[i + 1]? = some '/'.toUInt8 then i else commentEnd os (i + 1)
  else i
termination_by os.length - i

/-- Where the cursor moves from `i`, where it sees an octet that is no bind. -/
def next (os : List UInt8) (i : Nat) (octet : UInt8) : Nat :=
  if octet = '\''.toUInt8 ∨ octet = '"'.toUInt8 then quoteEnd os octet (i + 1) + 1
  else if octet = '-'.toUInt8 ∧ os[i + 1]? = some '-'.toUInt8 then lineEnd os i
  else if octet = '/'.toUInt8 ∧ os[i + 1]? = some '*'.toUInt8 then commentEnd os (i + 2) + 2
  else i + 1

theorem le_quoteEnd (os : List UInt8) (quote : UInt8) (i : Nat) : i ≤ quoteEnd os quote i := by
  fun_induction quoteEnd os quote i <;> omega

theorem le_lineEnd (os : List UInt8) (i : Nat) : i ≤ lineEnd os i := by
  fun_induction lineEnd os i <;> omega

theorem le_commentEnd (os : List UInt8) (i : Nat) : i ≤ commentEnd os i := by
  fun_induction commentEnd os i <;> omega

/-- The cursor always moves on. -/
theorem lt_next {os : List UInt8} {i : Nat} {octet : UInt8} (h : os[i]? = some octet) :
    i < next os i octet := by
  have quote := le_quoteEnd os octet (i + 1)
  have comment := le_commentEnd os (i + 2)
  unfold next
  split
  · omega
  split
  · rename_i dash
    have inside : i < os.length := (List.getElem?_eq_some_iff.mp h).1
    have noBreak : os[i]? ≠ some '\n'.toUInt8 := by
      rw [h, dash.1]
      decide
    rw [lineEnd, if_pos inside, if_neg noBreak]
    exact le_lineEnd os (i + 1)
  split
  · omega
  · omega

/-- What the cursor comes by: a text between two offsets, or a bind. -/
inductive Visit where
  | text (start stop : Nat)
  | bind
  deriving DecidableEq, Repr

/-- What the cursor comes by from `i` on, in a text that started at `start`. -/
def visits (os : List UInt8) (start i : Nat) : List Visit :=
  match h : os[i]? with
  | none => if start < os.length then [.text start os.length] else []
  | some octet =>
    if octet = '?'.toUInt8 then .text start i :: .bind :: visits os (i + 1) (i + 1)
    else visits os start (next os i octet)
termination_by os.length - i
decreasing_by
  · have inside : i < os.length := (List.getElem?_eq_some_iff.mp h).1
    omega
  · have inside : i < os.length := (List.getElem?_eq_some_iff.mp h).1
    have moved := lt_next h
    omega

/-- The text between two octet offsets, if both are character boundaries. -/
def slice? (sql : String) (start stop : Nat) : Option String :=
  if h : String.Pos.Raw.IsValid sql ⟨start⟩ ∧ String.Pos.Raw.IsValid sql ⟨stop⟩ ∧ start ≤ stop then
    some (sql.extract ⟨⟨start⟩, h.1⟩ ⟨⟨stop⟩, h.2.1⟩)
  else none

/-- The piece of a statement that the cursor comes by. -/
def Visit.piece? (sql : String) : Visit → Option Piece
  | .text start stop => (slice? sql start stop).map fun text => .text text.toList
  | .bind => some .bind

/-- The pieces of a statement, if none is cut inside a character. -/
def pieces? (sql : String) : Option (List Piece) :=
  (visits (octets sql) 0 0).mapM (Visit.piece? sql)

end SqlBind.Placeholder.Cursor
