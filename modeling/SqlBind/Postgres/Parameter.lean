/-
The types that parameters are declared with. An argument declares what its tag or
its value says. Untagged texts, lists and `NULL` declare nothing, so that the
server infers a type and the argument is written as that.
-/
import SqlBind.Arg
import SqlBind.Postgres.Type

namespace SqlBind.Postgres

/-- Nothing declared. -/
def undeclared : PgType := .scalar .unknown

/-- The type that an untagged value declares. -/
def valueType : Value → PgType
  | .bool _ => .scalar .bool
  | .int _ => .scalar .int8
  | .float _ => .scalar .float8
  | .decimal _ => .scalar .numeric
  | .bytes _ => .scalar .bytea
  | .date _ => .scalar .date
  | .time _ => .scalar .time
  | .timestamp _ => .scalar .timestamp
  | .instant _ => .scalar .timestamptz
  | .uuid _ => .scalar .uuid
  | .json _ => .scalar .jsonb
  | .null | .text _ | .array _ => undeclared

/-- The type that a value tagged as a date declares. -/
def dateType (v : Value) : PgType :=
  match SqlType.date.coerce v with
  | .ok (.date _) => .scalar .date
  | .ok (.timestamp _) => .scalar .timestamp
  | .ok (.instant _) => .scalar .timestamptz
  | _ => undeclared

/-- The names of element types. -/
def elementNames : List (String × Scalar) :=
  [("int2", .int2), ("smallint", .int2), ("int4", .int4), ("int", .int4), ("integer", .int4),
    ("int8", .int8), ("bigint", .int8), ("float4", .float4), ("real", .float4),
    ("float8", .float8), ("double precision", .float8), ("numeric", .numeric),
    ("decimal", .numeric), ("bool", .bool), ("boolean", .bool), ("text", .text),
    ("varchar", .varchar), ("character varying", .varchar), ("date", .date), ("time", .time),
    ("timestamp", .timestamp), ("timestamptz", .timestamptz), ("uuid", .uuid), ("json", .json),
    ("jsonb", .jsonb), ("bytea", .bytea)]

/-- The array type of an element type's name, in letters of either case. -/
def arrayType? (element : String) : Option PgType :=
  (Text.findIgnoringCase? elementNames (Text.trimmed element)).map fun s =>
    .array .listed (.scalar s)

/-- The type that a tagged value declares. -/
def taggedType (tag : SqlType) (v : Value) (elementType : Option String) : PgType :=
  match tag with
  | .int => .scalar .int4
  | .long => .scalar .int8
  | .double => .scalar .float8
  | .float => .scalar .float4
  | .decimal => .scalar .numeric
  | .boolean => .scalar .bool
  | .binary => .scalar .bytea
  | .string => .scalar .text
  | .date => dateType v
  | .time => .scalar .time
  | .outCursor => .scalar .refcursor
  | .array => (elementType.bind arrayType?).getD undeclared
  | .json => .scalar .json
  | .jsonb => .scalar .jsonb
  | .raw => valueType v

/-- The type that an argument declares. -/
def parameterType : Arg → PgType
  | .raw v => valueType v
  | .typed tag v elementType => taggedType tag v elementType
  | .out tag => taggedType tag .null none
  | .inOut _ input => parameterType input
  | .literal _ => undeclared

end SqlBind.Postgres
