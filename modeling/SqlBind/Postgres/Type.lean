/-
PostgreSQL types: scalars, and arrays, domains and enumerations made of them to
any depth. Every type has a name and a number; those that users made have none
in the catalogue, and one number stands for them all.
-/
import SqlBind.Postgres.Catalog
import SqlBind.SqlType

namespace SqlBind.Postgres

/-- Where an array type comes from. -/
inductive ArrayOrigin where
  /-- The array type that the catalogue has for its element type. -/
  | listed
  /-- A vector, whose elements are counted from zero. -/
  | vector
  /-- Made by a user. -/
  | made
  deriving DecidableEq, Repr

/-- A type. -/
inductive PgType where
  | scalar (s : Scalar)
  | array (origin : ArrayOrigin) (element : PgType)
  /-- Another name for the values of a type. -/
  | domain (base : PgType)
  /-- One of a list of names. -/
  | enum
  deriving DecidableEq, Repr

namespace PgType

/-- The number of every type that a user made. -/
def madeOid : Nat := 99999

/-- The vector of numbers two octets wide. -/
def int2vector : PgType := .array .vector (.scalar .int2)

/-- The vector of type numbers. -/
def oidvector : PgType := .array .vector (.scalar .oid)

/-- The number that stands for a type on the wire. -/
def oid : PgType → Nat
  | .scalar s => s.entry.oid
  | .array .vector element => if element = .scalar .int2 then 22 else 30
  | .array .listed (.scalar s) => s.entry.arrayOid.getD madeOid
  | .array .listed element =>
    if element = int2vector then 1006 else if element = oidvector then 1013 else madeOid
  | .array .made _ => madeOid
  | .domain _ => madeOid
  | .enum => madeOid

/-- The name of a type. -/
def name : PgType → String
  | .scalar s => s.entry.name
  | .array .vector element => if element = .scalar .int2 then "int2vector" else "oidvector"
  | .array .listed element => "_" ++ element.name
  | .array .made _ => "array"
  | .domain _ => "domain"
  | .enum => "enum"

/-- The types of the catalogue that are no arrays, and the two vectors. -/
def element? (name : String) : Option PgType :=
  if name = "int2vector" then some int2vector
  else if name = "oidvector" then some oidvector
  else (Scalar.ofName? name).map .scalar

/-- Whether the catalogue has an array type for a type. -/
def isListedElement : PgType → Bool
  | .scalar s => s.entry.arrayOid.isSome
  | _ => true

/-- The type that the catalogue has under a name. -/
def ofName? (name : String) : Option PgType :=
  (element? name).or <|
    match name.toList with
    | '_' :: rest => ((element? (.ofList rest)).filter isListedElement).map (.array .listed)
    | _ => none

/-- The tag that values of a scalar type are reported under. -/
def scalarTag : Scalar → SqlType
  | .int2 | .int4 => .int
  | .int8 | .oid => .long
  | .float4 => .float
  | .float8 => .double
  | .numeric => .decimal
  | .bool => .boolean
  | .bytea => .binary
  | .date | .timestamp | .timestamptz => .date
  | .time | .timetz => .time
  | .json => .json
  | .jsonb => .jsonb
  | .refcursor => .outCursor
  | .text | .varchar | .bpchar | .name | .unknown | .uuid => .string
  | .other _ => .raw

/-- The tag that values of a type are reported under. -/
def tag : PgType → SqlType
  | .scalar s => scalarTag s
  | .array _ _ => .array
  | .domain base => base.tag
  | .enum => .string

end PgType
end SqlBind.Postgres
