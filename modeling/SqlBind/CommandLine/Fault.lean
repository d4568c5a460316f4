/-
What can go wrong on the command line. As in the library, a fault is a cause, and
its text stands in one place.
-/
import SqlBind.Error

namespace SqlBind.CommandLine

/-- The kinds of statements that can be built. -/
inductive BuildKind where
  | insert
  | update
  | delete
  | merge
  deriving DecidableEq, Repr

namespace BuildKind

/-- The kind as an argument. -/
def word : BuildKind → String
  | insert => "insert"
  | update => "update"
  | delete => "delete"
  | merge => "merge"

/-- The kind in messages. -/
def title : BuildKind → String
  | insert => "Insert"
  | update => "Update"
  | delete => "Delete"
  | merge => "Merge"

def all : List BuildKind := [insert, update, delete, merge]

/-- The kind that an argument names. -/
def ofWord? (s : String) : Option BuildKind := all.find? fun kind => kind.word = s

end BuildKind

/-- Why a command line was refused or its command failed. -/
inductive CommandFault where
  | unknownCommand (arg : String)
  | unknownArgument (arg : String)
  | valueMissing (option : String)
  | unknownKind (arg : String)
  | unknownDialect (value : String)
  | kindMissing
  | optionMissing (option : String)
  | uniqueMissing
  /-- The value of an option is no document. -/
  | notJson (option : String)
  | library (e : DbError)
  /-- The statement for a table cannot be built. -/
  | build (kind : BuildKind) (table : String) (e : DbError)
  deriving DecidableEq, Repr

def CommandFault.message : CommandFault → String
  | .unknownCommand arg => "unknown command: " ++ arg
  | .unknownArgument arg => "unknown argument: " ++ arg
  | .valueMissing option => option ++ " requires a value"
  | .unknownKind arg => "unknown statement kind: " ++ arg
  | .unknownDialect value => "unknown dialect: " ++ value ++ " (expected oracle|postgres)"
  | .kindMissing => "missing statement kind: expected insert|update|delete|merge"
  | .optionMissing option => "missing " ++ option
  | .uniqueMissing => "merge requires --unique"
  | .notJson option => option ++ " is not valid JSON"
  | .library e => e.message
  | .build kind table e => "cannot build " ++ kind.title ++ " for " ++ table ++ ": " ++ e.message

end SqlBind.CommandLine
