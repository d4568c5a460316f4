/-
The tags that declare the SQL type of an argument or of a result column.
-/
import SqlBind.Text.Ascii

namespace SqlBind

/-- A type tag. -/
inductive SqlType where
  | int
  | long
  | double
  | float
  | decimal
  | boolean
  | binary
  | string
  | date
  | time
  | outCursor
  | array
  | json
  | jsonb
  | raw
  deriving DecidableEq, Repr

namespace SqlType

/-- Every tag once. -/
def all : List SqlType :=
  [.int, .long, .double, .float, .decimal, .boolean, .binary, .string, .date, .time,
    .outCursor, .array, .json, .jsonb, .raw]

/-- The tag as it is written. -/
def tag : SqlType → String
  | .int => "INT"
  | .long => "LONG"
  | .double => "DOUBLE"
  | .float => "FLOAT"
  | .decimal => "DECIMAL"
  | .boolean => "BOOLEAN"
  | .binary => "BINARY"
  | .string => "STRING"
  | .date => "DATE"
  | .time => "TIME"
  | .outCursor => "OUTCURSOR"
  | .array => "ARRAY"
  | .json => "JSON"
  | .jsonb => "JSONB"
  | .raw => "RAW"

/-- The tag that is written exactly so. -/
def ofTag? (s : String) : Option SqlType := all.find? fun t => t.tag = s

/-- The tag that is written so in letters of either case. -/
def ofText? (s : String) : Option SqlType := all.find? fun t => Text.sameIgnoringCase t.tag s

end SqlType
end SqlBind
