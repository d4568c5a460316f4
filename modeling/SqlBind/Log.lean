/-
The log: one event for every statement, written before the statement is handed
over, and one for every change of a transaction, written after it succeeded. A
statement's SQL is cut to the configured length, never inside a character.
-/
import SqlBind.Config
import SqlBind.Dialect
import SqlBind.Statement
import SqlBind.Statement.Cursor

namespace SqlBind

/-- The operations that hand over statements. -/
inductive Operation where
  | query
  | pageQuery
  | queryRow
  | queryScalar
  | execute
  | call
  | travel
  | nextId
  | insertRow
  | updateRow
  | mergeRow
  | deleteRow
  | deleteRows
  deriving DecidableEq, Repr

def Operation.name : Operation → String
  | query => "query"
  | pageQuery => "page_query"
  | queryRow => "query_row"
  | queryScalar => "query_scalar"
  | execute => "execute"
  | call => "call"
  | travel => "travel"
  | nextId => "next_id"
  | insertRow => "insert_row"
  | updateRow => "update_row"
  | mergeRow => "merge_row"
  | deleteRow => "delete_row"
  | deleteRows => "delete_rows"

/-- What happens to a transaction. -/
inductive TransactionStep where
  | begin
  | commit
  | rollback
  deriving DecidableEq, Repr

namespace TransactionStep

def name : TransactionStep → String
  | begin => "begin"
  | commit => "commit"
  | rollback => "rollback"

def message : TransactionStep → String
  | begin => "transaction started"
  | commit => "transaction committed"
  | rollback => "transaction rolled back"

end TransactionStep

/-- An entry of the log. -/
inductive Event where
  | statement (level : LogLevel) (operation : Operation) (dialect : Dialect) (argCount : Nat)
      (sql : String)
  | transaction (step : TransactionStep)
  deriving DecidableEq, Repr

namespace Event

/-- Transactions are logged at a level of their own. -/
def level : Event → LogLevel
  | .statement level .. => level
  | .transaction _ => .debug

end Event

namespace Text

/-- Where a search backwards from an offset ends: at the first character boundary it
comes by, at the latest at the start of the text. -/
def boundaryBefore (text : String) : Nat → Nat
  | 0 => 0
  | i + 1 =>
    if String.Pos.Raw.IsValid text ⟨i + 1⟩ then i + 1 else boundaryBefore text i

/-- A text cut to `limit` octets, if it is not cut inside a character. -/
def cut? (limit : Nat) (text : String) : Option String :=
  if text.utf8ByteSize ≤ limit then some text
  else Placeholder.Cursor.slice? text 0 (boundaryBefore text limit)

theorem isValid_boundaryBefore (text : String) (i : Nat) :
    String.Pos.Raw.IsValid text ⟨boundaryBefore text i⟩ := by
  induction i with
  | zero => exact String.Pos.Raw.isValid_zero
  | succ i ih =>
    rw [boundaryBefore]
    split
    · next here => exact here
    · exact ih

/-- No text is cut inside a character. -/
theorem isSome_cut? (limit : Nat) (text : String) : (cut? limit text).isSome := by
  unfold cut?
  split
  · rfl
  · rw [Placeholder.Cursor.slice?, dif_pos ⟨String.Pos.Raw.isValid_zero,
      isValid_boundaryBefore text limit, Nat.zero_le _⟩]
    rfl

/-- A text cut to `limit` octets. -/
def cut (limit : Nat) (text : String) : String := (cut? limit text).get (isSome_cut? limit text)

theorem cut?_eq (limit : Nat) (text : String) : cut? limit text = some (cut limit text) :=
  (Option.some_get (isSome_cut? limit text)).symm

end Text

namespace Config

/-- SQL as the log shows it: whole, or cut and marked as cut. -/
def shownSql (config : Config) (sql : String) : String :=
  match config.maxSqlLength with
  | none => sql
  | some limit =>
    if sql.utf8ByteSize ≤ limit then sql
    else Text.cut limit sql ++ "..."

/-- The event of a statement. -/
def event (config : Config) (operation : Operation) (dialect : Dialect) (s : Statement) : Event :=
  .statement config.logLevel operation dialect s.args.length (config.shownSql s.sql)

end Config
end SqlBind
