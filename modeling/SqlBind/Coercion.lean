/-
Coercion of values into the canonical shape of a type tag. Integers floor what
has a fraction, strings take the text of a value, booleans its truth, documents
its document. `NULL` stays `NULL`, but as a boolean it is false. A value without
a counterpart of the type is refused.
-/
import SqlBind.Calendar.Read
import SqlBind.Decimal.Double
import SqlBind.Decimal.Text
import SqlBind.Error
import SqlBind.Number.FloatNumeral
import SqlBind.Text.Blank
import SqlBind.Value

namespace SqlBind

/-- The refusal of a value as one of a type. -/
def notCoercible {α : Type} (type : SqlType) (v : Value) : Except DbError α :=
  .error (.validation (.notCoercible v.toText type))

/-- A conversion's result, or the refusal of the value it was made of. -/
def orNotCoercible (type : SqlType) (v : Value) : Option Value → Except DbError Value
  | some w => .ok w
  | none => notCoercible type v

namespace Coercion

/-- The floor of a finite double as an integer. The bound above is the double
nearest to the greatest integer, which is one more than it and means it. -/
def floorToInt64? (x : Double) : Option Int64 :=
  if x.isFinite then
    let n := x.floor
    if -2 ^ 63 ≤ n ∧ n ≤ 2 ^ 63 then some (.ofInt (min n (2 ^ 63 - 1))) else none
  else none

/-- The integer that a value floors to. Truth values count one and zero. -/
def toInt64? : Value → Option Int64
  | .int n => some n
  | .float x => floorToInt64? x
  | .decimal d => int64? d.floor
  | .bool b => some (if b then 1 else 0)
  | .text s => (Double.ofText? (Text.trimmed s)).bind floorToInt64?
  | _ => none

/-- The double near a number or a numeral. -/
def toDouble? : Value → Option Double
  | .float x => some x
  | .int n => some (.ofInt n.toInt)
  | .decimal d => some d.toDouble
  | .text s => Double.ofText? (Text.trimmed s)
  | _ => none

/-- The decimal of a number or a numeral. -/
def toDecimal? : Value → Option Decimal
  | .decimal d => some d
  | .int n => some (.ofInt64 n)
  | .float x => Decimal.ofDouble? x
  | .text s => Decimal.ofText? (Text.trimmed s)
  | _ => none

/-- A number that fits an octet. -/
def toOctet? (v : Value) : Option UInt8 :=
  v.asInt64?.bind fun n => if 0 ≤ n.toInt ∧ n.toInt < 256 then some (.ofNat n.toInt.toNat) else none

/-- The octets of an array, or the first item that is none. -/
def octets : List Value → Except DbError (List UInt8)
  | [] => .ok []
  | v :: rest =>
    match toOctet? v with
    | none => notCoercible .binary v
    | some b => (octets rest).map (b :: ·)

/-- A date or a point in time. A number counts milliseconds since 1970; a text is
tried as an instant, as a local time and as a date, in this order. -/
def toDate? : Value → Option Value
  | .date d => some (.date d)
  | .timestamp t => some (.timestamp t)
  | .instant t => some (.instant t)
  | .int millis => (Timestamp.ofMillis? millis.toInt).map .instant
  | .text s =>
    let cs := Text.trim s.toList
    ((Timestamp.ofInstant? cs).map .instant).or <|
      ((Timestamp.ofSpaced? cs).map .timestamp).or <|
        ((Timestamp.ofMarked? cs).map .timestamp).or <|
          (Date.ofText? cs).map .date
  | _ => none

/-- A time of day: of a point in time its time, of a text the time it denotes. -/
def toTime? : Value → Option TimeOfDay
  | .time t => some t
  | .timestamp t => some t.time
  | .instant t => some t.time
  | .text s => TimeOfDay.ofText? (Text.trim s.toList)
  | _ => none

/-- A value that is not `NULL` in the shape of a type. -/
def coercePresent (type : SqlType) (v : Value) : Except DbError Value :=
  match type with
  | .int | .long => orNotCoercible type v ((toInt64? v).map .int)
  | .double | .float => orNotCoercible type v ((toDouble? v).map .float)
  | .decimal => orNotCoercible type v ((toDecimal? v).map .decimal)
  | .boolean => .ok (.bool v.isTruthy)
  | .string => .ok (.text v.toText)
  | .binary =>
    match v with
    | .text s => .ok (.bytes s.toUTF8.toList)
    | .array items => (octets items).map .bytes
    | .bytes octets => .ok (.bytes octets)
    | v => notCoercible type v
  | .date => orNotCoercible type v (toDate? v)
  | .time => orNotCoercible type v ((toTime? v).map .time)
  | .json | .jsonb => .ok (.json v.toJson)
  | .array =>
    match v with
    | .array items => .ok (.array items)
    | v => .ok (.array [v])
  | .outCursor | .raw => .ok v

end Coercion

/-- A value in the canonical shape of a type. -/
def SqlType.coerce (type : SqlType) (v : Value) : Except DbError Value :=
  if v.isNull && type != .boolean then .ok .null else Coercion.coercePresent type v

end SqlBind
