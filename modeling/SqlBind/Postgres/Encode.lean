/-
Values on the wire, in PostgreSQL's binary formats. A value is first brought into
the shape of the type it is bound as. `NULL` has no octets, whatever the type.
-/
import SqlBind.Arg
import SqlBind.Number.BigEndian
import SqlBind.Postgres.Numeric
import SqlBind.Postgres.Type

namespace SqlBind.Postgres

/-- Why a value cannot be written as one of a type. -/
inductive EncodeFault where
  /-- The value cannot be brought into the shape of the type. -/
  | coercion (e : DbError)
  /-- The number does not fit the type. -/
  | outOfRange
  /-- The text is no identifier. -/
  | notUuid
  /-- The value, shown as text, is nothing that the type has. -/
  | mismatch (shown : String) (type : String)
  /-- A piece of SQL is no value. -/
  | literal (fragment : String)
  /-- A length does not fit the wire. -/
  | tooLarge
  deriving DecidableEq, Repr

def EncodeFault.message : EncodeFault → String
  | .coercion e => e.message
  | .outOfRange => "out of range integral type conversion attempted"
  | .notUuid => "invalid identifier"
  | .mismatch shown type => "cannot encode " ++ shown ++ " as " ++ type
  | .literal fragment => "literal SQL `" ++ fragment ++ "` cannot be bound as a parameter"
  | .tooLarge => "value too large to transmit"

/-- What is sent for a value: octets, or nothing for `NULL`. -/
abbrev Cell := Option (List UInt8)

/-- A value in the shape of a tag. -/
def shaped (tag : SqlType) (v : Value) : Except EncodeFault Value :=
  (tag.coerce v).mapError .coercion

/-- The refusal of a value as one of a type. -/
def mismatch {α : Type} (v : Value) (type : Scalar) : Except EncodeFault α :=
  .error (.mismatch v.toText type.entry.name)

/-- The integer that a value stands for. -/
def integer (v : Value) : Except EncodeFault Int64 := do
  match ← shaped .long v with
  | .int n => .ok n
  | other => mismatch other .int8

/-- The double that a value stands for. -/
def double (v : Value) : Except EncodeFault Double := do
  match ← shaped .double v with
  | .float x => .ok x
  | other => mismatch other .float8

/-- The decimal that a value stands for. -/
def decimal (v : Value) : Except EncodeFault Decimal := do
  match ← shaped .decimal v with
  | .decimal d => .ok d
  | other => mismatch other .numeric

/-- The point in time that a value stands for, where a date is its midnight. -/
def pointInTime (type : Scalar) (v : Value) : Except EncodeFault Timestamp := do
  match ← shaped .date v with
  | .timestamp t | .instant t => .ok t
  | .date d => .ok (.ofDate d)
  | other => mismatch other type

/-- The date that a value stands for. -/
def calendarDate (v : Value) : Except EncodeFault Date := do
  match ← shaped .date v with
  | .date d => .ok d
  | .timestamp t | .instant t => .ok t.date
  | other => mismatch other .date

/-- The time of day that a value stands for. -/
def timeOfDay (v : Value) : Except EncodeFault TimeOfDay := do
  match ← shaped .time v with
  | .time t => .ok t
  | other => mismatch other .time

/-- The octets that a value stands for. -/
def octets (v : Value) : Except EncodeFault (List UInt8) := do
  match ← shaped .binary v with
  | .bytes octets => .ok octets
  | other => mismatch other .bytea

/-- The identifier that a value is or that its text denotes. -/
def identifier (v : Value) : Except EncodeFault Uuid :=
  match v with
  | .uuid u => .ok u
  | .text s =>
    match Uuid.ofText? (Text.trim s.toList) with
    | some u => .ok u
    | none => .error .notUuid
  | other => mismatch other .uuid

/-- The UTF-8 octets of a text. -/
def utf8 (s : String) : List UInt8 := s.toUTF8.toList

/-- A value as text: a document is written out. -/
def textOf : Value → String
  | .json j => j.compact
  | v => v.toText

/-- An integer between bounds in so many octets. -/
def bounded (width : Nat) (low high : Int) (n : Int64) : Except EncodeFault (List UInt8) :=
  if low ≤ n.toInt ∧ n.toInt ≤ high then .ok (BigEndian.encodeInt width n.toInt)
  else .error .outOfRange

/-- The octets of a value of a scalar type. -/
def encodeScalar (type : Scalar) (v : Value) : Except EncodeFault (List UInt8) :=
  match type with
  | .bool => .ok [if v.isTruthy then 1 else 0]
  | .int2 => do bounded 2 (-2 ^ 15) (2 ^ 15 - 1) (← integer v)
  | .int4 => do bounded 4 (-2 ^ 31) (2 ^ 31 - 1) (← integer v)
  | .int8 => do bounded 8 (-2 ^ 63) (2 ^ 63 - 1) (← integer v)
  | .oid => do bounded 4 0 (2 ^ 32 - 1) (← integer v)
  | .float4 => do .ok (BigEndian.encode 4 (← double v).toSingle.toNat)
  | .float8 => do .ok (BigEndian.encode 8 (← double v).bits.toNat)
  | .numeric => do .ok (Numeric.encode (← decimal v))
  | .bytea => octets v
  | .date => do .ok (BigEndian.encodeInt 4 ((← calendarDate v).day - Date.year2000))
  | .timestamp => do .ok (BigEndian.encodeInt 8 (← pointInTime .timestamp v).micros2000)
  | .timestamptz => do .ok (BigEndian.encodeInt 8 (← pointInTime .timestamptz v).micros2000)
  | .time => do .ok (BigEndian.encode 8 ((← timeOfDay v).toNanos / 1000))
  | .uuid => do .ok (← identifier v).octets
  | .json => .ok (utf8 v.toJson.compact)
  | .jsonb => .ok (1 :: utf8 v.toJson.compact)
  | .text | .varchar | .bpchar | .name | .unknown | .timetz | .refcursor | .other _ =>
    .ok (utf8 (textOf v))

/-- The values that a value stands for as an array. -/
def items : Value → List Value
  | .array items => items
  | .json (.arr items) => Value.ofJsonList items
  | v => [v]

/-- The bound of every length on the wire. -/
def lengthLimit : Nat := 2 ^ 31

/-- A cell after its length, where `NULL` has the length minus one. -/
def encodeCell : Cell → Except EncodeFault (List UInt8)
  | none => .ok (BigEndian.encodeInt 4 (-1))
  | some octets =>
    if octets.length < lengthLimit then .ok (BigEndian.encode 4 octets.length ++ octets)
    else .error .tooLarge

/-- The cells of an array one after the other, or the first failure. -/
def encodeCells : List Cell → Except EncodeFault (List UInt8)
  | [] => .ok []
  | cell :: rest => do
    let first ← encodeCell cell
    let others ← encodeCells rest
    .ok (first ++ others)

/-- The position that the first element of an array has. -/
def firstIndex : ArrayOrigin → Nat
  | .vector => 0
  | .listed | .made => 1

/-- An array of one dimension: whether it has a `NULL`, the type of its elements,
how many there are and where counting starts, and the elements. -/
def encodeArray (origin : ArrayOrigin) (element : PgType) (cells : List Cell) :
    Except EncodeFault (List UInt8) := do
  let content ← encodeCells cells
  if cells.length < lengthLimit then
    .ok (BigEndian.encode 4 1 ++ BigEndian.encode 4 (if cells.any Option.isNone then 1 else 0)
      ++ BigEndian.encode 4 element.oid ++ BigEndian.encode 4 cells.length
      ++ BigEndian.encode 4 (firstIndex origin) ++ content)
  else .error .tooLarge

/-- The cell of a value bound as a type. -/
def encode : PgType → Value → Except EncodeFault Cell
  | .array origin element, v =>
    if v.isNull then .ok none
    else do
      let cells ← (items v).mapM (encode element)
      let octets ← encodeArray origin element cells
      .ok (some octets)
  | .domain base, v => if v.isNull then .ok none else encode base v
  | .enum, v => if v.isNull then .ok none else .ok (some (utf8 (textOf v)))
  | .scalar type, v => if v.isNull then .ok none else (encodeScalar type v).map some

/-- The cell of an argument bound as a type. A typed argument is brought into the
shape of its own tag first, and an output without input is `NULL`. -/
def encodeArg (type : PgType) : Arg → Except EncodeFault Cell
  | .raw v => encode type v
  | .typed tag v _ => do encode type (← shaped tag v)
  | .out _ => .ok none
  | .inOut _ input => encodeArg type input
  | .literal fragment => .error (.literal fragment)

end SqlBind.Postgres
