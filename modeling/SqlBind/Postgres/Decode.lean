/-
Octets from the wire as values, in PostgreSQL's binary formats. Octets that are
not of their type are refused. Types without a format of their own are read as
text, and octets that are no text are kept as they are.
-/
import SqlBind.Json.Read
import SqlBind.Number.BigEndian
import SqlBind.Postgres.Encode

namespace SqlBind.Postgres

/-- The text that octets are in UTF-8. -/
def utf8Text? (octets : List UInt8) : Option String := String.fromUTF8? octets.toByteArray

/-- Octets as text if they are text. -/
def textOrOctets (octets : List UInt8) : Value :=
  match utf8Text? octets with
  | some s => .text s
  | none => .bytes octets

/-- The document that octets are in UTF-8. -/
def document? (octets : List UInt8) : Option Value :=
  ((utf8Text? octets).bind Json.parse?).map .json

/-- A time of day by its microseconds since midnight, counted on past the day's end. -/
def timeOfMicros? (micros : Int) : Option TimeOfDay :=
  let inDay := (micros % 86400000000).toNat
  TimeOfDay.ofParts? (inDay / 1000000) (inDay % 1000000 * 1000)

/-- The value of a scalar type that octets are. -/
def decodeScalar? (type : Scalar) (octets : List UInt8) : Option Value :=
  match type with
  | .bool => (BigEndian.wholeNat? 1 octets).map fun n => .bool (n != 0)
  | .int2 => (BigEndian.wholeInt? 2 octets).map fun n => .int (.ofInt n)
  | .int4 => (BigEndian.wholeInt? 4 octets).map fun n => .int (.ofInt n)
  | .int8 => (BigEndian.wholeInt? 8 octets).map fun n => .int (.ofInt n)
  | .oid => (BigEndian.wholeNat? 4 octets).map fun n => .int (.ofNat n)
  | .float4 => (BigEndian.wholeNat? 4 octets).map fun n => .float (.ofSingle (.ofNat n))
  | .float8 => (BigEndian.wholeNat? 8 octets).map fun n => .float ⟨.ofNat n⟩
  | .numeric => (Numeric.decode? octets).map .decimal
  | .bytea => some (.bytes octets)
  | .date => do
    let days ← BigEndian.wholeInt? 4 octets
    (Date.ofDay? (Date.year2000 + days)).map .date
  | .time => do
    let micros ← BigEndian.wholeInt? 8 octets
    (timeOfMicros? micros).map .time
  | .timestamp => do
    let micros ← BigEndian.wholeInt? 8 octets
    (Timestamp.ofMicros2000? micros).map .timestamp
  | .timestamptz => do
    let micros ← BigEndian.wholeInt? 8 octets
    (Timestamp.ofMicros2000? micros).map .instant
  | .uuid => (Uuid.ofOctets? octets).map .uuid
  | .json => document? octets
  | .jsonb =>
    match octets with
    | [] => none
    | version :: rest => if version = 1 then document? rest else none
  | .text | .varchar | .bpchar | .name | .unknown | .timetz | .refcursor | .other _ =>
    some (textOrOctets octets)

/-- So many cells, which must be all that is there. -/
def cells? : Nat → List UInt8 → Option (List Cell)
  | 0, octets => if octets.isEmpty then some [] else none
  | count + 1, octets => do
    let (length, octets) ← BigEndian.int? 4 octets
    if length < 0 then
      let rest ← cells? count octets
      some (none :: rest)
    else
      let (cell, octets) ← BigEndian.take? length.toNat octets
      let rest ← cells? count octets
      some (some cell :: rest)

/-- The cells of an array of at most one dimension. -/
def arrayCells? (octets : List UInt8) : Option (List Cell) := do
  let (dimensions, octets) ← BigEndian.int? 4 octets
  let (_, octets) ← BigEndian.nat? 4 octets
  let (_, octets) ← BigEndian.nat? 4 octets
  if dimensions = 0 then cells? 0 octets
  else if dimensions = 1 then
    let (count, octets) ← BigEndian.int? 4 octets
    let (_, octets) ← BigEndian.nat? 4 octets
    if count < 0 then none else cells? count.toNat octets
  else none

/-- The values of cells, each read by `read?`; a cell without octets is `NULL`. -/
def cellValues? (read? : List UInt8 → Option Value) : List Cell → Option (List Value)
  | [] => some []
  | none :: rest => (cellValues? read? rest).map (.null :: ·)
  | some octets :: rest => do
    let v ← read? octets
    let vs ← cellValues? read? rest
    some (v :: vs)

/-- The value of a type that octets are. -/
def decode? : PgType → List UInt8 → Option Value
  | .array _ element, octets => do
    let cells ← arrayCells? octets
    (cellValues? (decode? element) cells).map .array
  | .domain base, octets => decode? base octets
  | .enum, octets => some (textOrOctets octets)
  | .scalar type, octets => decodeScalar? type octets

/-- The value of a cell of a type. -/
def decodeCell? (type : PgType) : Cell → Option Value
  | none => some .null
  | some octets => decode? type octets

end SqlBind.Postgres
