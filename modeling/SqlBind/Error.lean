/-
What can go wrong, as causes. An error says what happened and holds what its text
mentions; the texts themselves stand in the `message` functions alone, so that a
statement about failures never compares strings. Every error belongs to one
`ErrorKind`.
-/
import SqlBind.Duration
import SqlBind.Json.Shape
import SqlBind.SqlType

namespace SqlBind

/-- A number as it stands in an error text. -/
def shownNat (n : Nat) : String := .ofList (Numeral.ofNat n)

/-- Why a template is malformed. -/
inductive TemplateFault where
  /-- A closing brace outside every expression. -/
  | strayClose
  /-- An opening brace inside an expression. -/
  | nestedOpen
  /-- The template ends inside an expression. -/
  | unterminated (expression : String)
  | other (message : String)
  deriving DecidableEq, Repr

def TemplateFault.message : TemplateFault → String
  | .strayClose => "lone '\x7d' outside an expression, write '\x7d\x7d'"
  | .nestedOpen => "nested '\x7b' inside an expression, write '\x7b\x7b'"
  | .unterminated expression => "unterminated expression '" ++ expression ++ "'"
  | .other message => message

/-- Why an expression has no value. -/
inductive EvalFault where
  | unbound (name : String)
  | noFields (name : String)
  | missingField (field : String)
  | notAnIndex (field : String)
  | outOfRange (index : Nat)
  | unreadable (field : String)
  | other (message : String)
  deriving DecidableEq, Repr

def EvalFault.message : EvalFault → String
  | .unbound name => "'" ++ name ++ "' is not bound"
  | .noFields name => "'" ++ name ++ "' has no fields"
  | .missingField field => "no field '" ++ field ++ "'"
  | .notAnIndex field => "'" ++ field ++ "' is not an index"
  | .outOfRange index => "index " ++ shownNat index ++ " out of range"
  | .unreadable field => "cannot read '" ++ field ++ "'"
  | .other message => message

/-- Why an input is invalid. -/
inductive Invalid where
  | emptyName
  | openQuote (name : String)
  | emptyQuote (name : String)
  | badCharacter (c : Char) (name : String)
  | trailingDot (name : String)
  | unknownTag (text : String)
  | unknownDialect (text : String)
  | unknownDirection (text : String)
  /-- The value, shown as text, has no counterpart of the type. -/
  | notCoercible (shown : String) (type : SqlType)
  | literalNotText (shown : String)
  | arrayNotList
  | arrayWithoutElementType
  | elementTypeNotText
  | outTagNotText (shown : String)
  | rowNotObject
  | changeNotObject
  | badState (fault : ShapeFault)
  | insertWithoutColumns (table : String)
  | updateWithoutColumns (table key : String)
  | mergeWithoutKey (table : String)
  | misaligned (placeholders arguments : Nat)
  | boundLiteral (fragment : String)
  | other (message : String)
  deriving DecidableEq, Repr

def Invalid.message : Invalid → String
  | .emptyName => "identifier cannot be empty"
  | .openQuote name => "unterminated quoted identifier in '" ++ name ++ "'"
  | .emptyQuote name => "empty quoted identifier in '" ++ name ++ "'"
  | .badCharacter c name =>
    "invalid character '" ++ String.singleton c ++ "' in identifier '" ++ name ++ "'"
  | .trailingDot name => "trailing '.' in identifier '" ++ name ++ "'"
  | .unknownTag text => "unknown SQL type tag '" ++ text ++ "'"
  | .unknownDialect text => "unknown dialect '" ++ text ++ "'"
  | .unknownDirection text => "unknown sort direction '" ++ text ++ "'"
  | .notCoercible shown type => "cannot coerce " ++ shown ++ " to " ++ type.tag
  | .literalNotText shown => "SQL marker requires a string fragment, got " ++ shown
  | .arrayNotList => "ARRAY requires [elementType, v1, v2, ...]"
  | .arrayWithoutElementType => "ARRAY requires an element type"
  | .elementTypeNotText => "ARRAY element type must be a string"
  | .outTagNotText shown => "OUT marker requires a type tag, got " ++ shown
  | .rowNotObject => "a row must be a JSON object"
  | .changeNotObject => "a change must be a JSON object"
  | .badState fault => "invalid _state: " ++ fault.message
  | .insertWithoutColumns table => "INSERT INTO " ++ table ++ " requires at least one column"
  | .updateWithoutColumns table key =>
    "UPDATE " ++ table ++ " has no columns to set besides '" ++ key ++ "'"
  | .mergeWithoutKey table => "merge into " ++ table ++ " requires at least one unique column"
  | .misaligned placeholders arguments =>
    "statement has " ++ shownNat placeholders ++ " placeholders but "
      ++ shownNat arguments ++ " arguments"
  | .boundLiteral fragment =>
    "literal SQL `" ++ fragment ++ "` cannot be bound as a parameter"
  | .other message => message

/-- Why a query failed in the database or on the way to it. -/
inductive QueryFault where
  /-- The server refused it for a reason that has no kind of its own. -/
  | database
  /-- The argument at this position, counted from zero, cannot be encoded. -/
  | parameter (index : Nat)
  /-- The server takes another number of parameters. -/
  | parameterCount (expected given : Nat)
  deriving DecidableEq, Repr

def QueryFault.message : QueryFault → String
  | .database => "db error"
  | .parameter index => "error serializing parameter " ++ shownNat index
  | .parameterCount expected given =>
    "expected " ++ shownNat expected ++ " parameters but got " ++ shownNat given

/-- Why a column of a row cannot be read. -/
inductive DecodeFault where
  /-- The octets of the column at this position are not of its type. -/
  | column (index : Nat)
  | other (message : String)
  deriving DecidableEq, Repr

def DecodeFault.message : DecodeFault → String
  | .column index => "error deserializing column " ++ shownNat index
  | .other message => message

/-- Where a result that must be there was looked for. -/
inductive Missing where
  | sequenceRow (sequence : String)
  | sequenceValue (sequence : String)
  | other (message : String)
  deriving DecidableEq, Repr

def Missing.message : Missing → String
  | .sequenceRow sequence => "sequence " ++ sequence ++ " returned no row"
  | .sequenceValue sequence => "sequence " ++ sequence ++ " returned no value"
  | .other message => message

/-- The command that ends a transaction. -/
inductive EndCommand where
  | commit
  | rollback
  deriving DecidableEq, Repr

def EndCommand.sql : EndCommand → String
  | .commit => "COMMIT"
  | .rollback => "ROLLBACK"

/-- The kinds by which callers tell errors apart. -/
inductive ErrorKind where
  | malformedTemplate
  | unsupportedArgumentShape
  | unknownUniqueColumn
  | eval
  | connection
  | query
  | notFound
  | uniqueViolation
  | foreignKeyViolation
  | checkViolation
  | decode
  | validation
  | change
  | pool
  | timeout
  | other
  deriving DecidableEq, Repr

/-- The name of a kind. -/
def ErrorKind.name : ErrorKind → String
  | malformedTemplate => "MalformedTemplate"
  | unsupportedArgumentShape => "UnsupportedArgumentShape"
  | unknownUniqueColumn => "UnknownUniqueColumn"
  | eval => "Eval"
  | connection => "Connection"
  | query => "Query"
  | notFound => "NotFound"
  | uniqueViolation => "UniqueViolation"
  | foreignKeyViolation => "ForeignKeyViolation"
  | checkViolation => "CheckViolation"
  | decode => "Decode"
  | validation => "Validation"
  | change => "Change"
  | pool => "Pool"
  | timeout => "Timeout"
  | other => "Other"

/-- An error of building or running a statement. -/
inductive DbError where
  | malformedTemplate (offset : Nat) (fault : TemplateFault)
  | unsupportedArgumentShape (detail : String)
  | unknownUniqueColumn (column : String)
  | eval (expression : String) (fault : EvalFault)
  | connection (detail : String)
  | query (fault : QueryFault)
  | notFound (missing : Missing)
  | uniqueViolation (detail : String)
  | foreignKeyViolation (detail : String)
  | checkViolation (detail : String)
  | decode (column : String) (fault : DecodeFault)
  | validation (cause : Invalid)
  | change (table : String) (index : Nat) (source : DbError)
  | pool (detail : String)
  | timeout (limit : Duration)
  /-- The transaction was ended before. -/
  | finished (command : EndCommand)
  /-- The work failed, and so did undoing it. -/
  | rollbackFailed (work rollback : DbError)
  | other (message : String)
  deriving DecidableEq, Repr

namespace DbError

def kind : DbError → ErrorKind
  | .malformedTemplate .. => .malformedTemplate
  | .unsupportedArgumentShape _ => .unsupportedArgumentShape
  | .unknownUniqueColumn _ => .unknownUniqueColumn
  | .eval .. => .eval
  | .connection _ => .connection
  | .query _ => .query
  | .notFound _ => .notFound
  | .uniqueViolation _ => .uniqueViolation
  | .foreignKeyViolation _ => .foreignKeyViolation
  | .checkViolation _ => .checkViolation
  | .decode .. => .decode
  | .validation _ => .validation
  | .change .. => .change
  | .pool _ => .pool
  | .timeout _ => .timeout
  | .finished _ | .rollbackFailed .. | .other _ => .other

/-- The text of an error. -/
def message : DbError → String
  | .malformedTemplate offset fault =>
    "Malformed template at offset " ++ shownNat offset ++ ": " ++ fault.message
  | .unsupportedArgumentShape detail => "Unsupported argument shape: " ++ detail
  | .unknownUniqueColumn column => "Unique column '" ++ column ++ "' not found in columns"
  | .eval expression fault =>
    "Evaluation error in `" ++ expression ++ "`: " ++ fault.message
  | .connection detail => "Connection error: " ++ detail
  | .query fault => "Query error: " ++ fault.message
  | .notFound missing => "Not found: " ++ missing.message
  | .uniqueViolation detail => "Unique constraint violation: " ++ detail
  | .foreignKeyViolation detail => "Foreign key violation: " ++ detail
  | .checkViolation detail => "Check constraint violation: " ++ detail
  | .decode column fault => "Decode error on column '" ++ column ++ "': " ++ fault.message
  | .validation cause => "Validation error: " ++ cause.message
  | .change table index source =>
    "Change " ++ shownNat index ++ " on '" ++ table ++ "' failed: " ++ source.message
  | .pool detail => "Pool error: " ++ detail
  | .timeout limit => "Query timeout after " ++ limit.text
  | .finished command => command.sql ++ " on a transaction that is already finished"
  | .rollbackFailed work rollback =>
    work.message ++ " (rollback failed: " ++ rollback.message ++ ")"
  | .other message => message

/-- The error that this one reports. -/
def source? : DbError → Option DbError
  | .change _ _ source => some source
  | _ => none

end DbError
end SqlBind
