/-
Settings that all statements of a database share: the primary key column when
none is given, the type of untagged documents, the log and the time a statement
may take.
-/
import SqlBind.Duration
import SqlBind.SqlType
import SqlBind.Write.Basic

namespace SqlBind

/-- How much a log entry matters. -/
inductive LogLevel where
  | error
  | warn
  | info
  | debug
  | trace
  deriving DecidableEq, Repr

namespace LogLevel

def all : List LogLevel := [error, warn, info, debug, trace]

def name : LogLevel → String
  | error => "ERROR"
  | warn => "WARN"
  | info => "INFO"
  | debug => "DEBUG"
  | trace => "TRACE"

/-- The level of a name, in letters of either case. -/
def ofName? (s : String) : Option LogLevel :=
  Text.findIgnoringCase? (all.map fun l => (l.name, l)) s

end LogLevel

/-- The two types that a document is bound as. -/
inductive JsonType where
  | json
  | jsonb
  deriving DecidableEq, Repr

/-- The tag of a document type. -/
def JsonType.type : JsonType → SqlType
  | json => .json
  | jsonb => .jsonb

/-- The settings of a database. -/
structure Config where
  /-- The primary key column when none is given. -/
  key : String := defaultKey
  /-- The type of documents without a tag. -/
  jsonType : JsonType := .jsonb
  /-- The level of statements in the log. -/
  logLevel : LogLevel := .debug
  /-- How many octets of a statement the log shows; all of them if absent. -/
  maxSqlLength : Option Nat := some 200
  /-- How long a statement may take; without bound if absent. -/
  queryTimeout : Option Duration := none

namespace Config

instance : Inhabited Config := ⟨{}⟩

/-- The settings with another document type. Other types are ignored. -/
def withJsonType (config : Config) (type : SqlType) : Config :=
  match type with
  | .json => { config with jsonType := .json }
  | .jsonb => { config with jsonType := .jsonb }
  | _ => config

end Config
end SqlBind
