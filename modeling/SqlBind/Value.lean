/-
Runtime values: what a caller binds without declaring a type, and what comes back
in every result column. Each value has a text, a document and a truth value.
-/
import SqlBind.Calendar.Text
import SqlBind.Decimal.Basic
import SqlBind.Json.Print
import SqlBind.Uuid

namespace SqlBind

/-- A value of one of the kinds that statements bind. -/
inductive Value where
  | null
  | bool (b : Bool)
  | int (n : Int64)
  | float (x : Double)
  | decimal (d : Decimal)
  | text (s : String)
  | bytes (octets : List UInt8)
  | date (d : Date)
  | time (t : TimeOfDay)
  | timestamp (t : Timestamp)
  | instant (t : Timestamp)
  | uuid (u : Uuid)
  | json (j : Json)
  | array (items : List Value)

namespace Value

instance : Inhabited Value := ⟨.null⟩

def isNull : Value → Bool
  | .null => true
  | _ => false

/-- `NULL`, `false`, every zero, a NaN, the empty string and the document `null`
are false; all else is true. -/
def isTruthy : Value → Bool
  | .null => false
  | .bool b => b
  | .int n => n != 0
  | .float x => !x.isZero && !x.isNaN
  | .decimal d => !d.isZero
  | .text s => !s.isEmpty
  | .json .null => false
  | _ => true

/-- An integer, or the whole part of a decimal if it fits. -/
def asInt64? : Value → Option Int64
  | .int n => some n
  | .decimal d => d.toInt64?
  | _ => none

def asText? : Value → Option String
  | .text s => some s
  | _ => none

mutual
/-- The value as a document: dates, times, decimals and identifiers are strings,
octets an array of numbers, and a float that is no number is `null`. -/
def toJson : Value → Json
  | .null => .null
  | .bool b => .bool b
  | .int n => .int n.toInt
  | .float x => .ofDouble x
  | .decimal d => .str d.toText
  | .text s => .str s
  | .bytes octets => .arr (octets.map fun b => .int b.toNat)
  | .date d => .str (.ofList d.text)
  | .time t => .str (.ofList t.text)
  | .timestamp t => .str (.ofList t.text)
  | .instant t => .str (.ofList t.instantText)
  | .uuid u => .str (.ofList u.text)
  | .json j => j
  | .array items => .arr (toJsonList items)

/-- The documents of a list of values. -/
def toJsonList : List Value → List Json
  | [] => []
  | v :: rest => v.toJson :: toJsonList rest
end

mutual
/-- The value of a document: an object stays a document, and an integer beyond
sixty-four bits becomes a float. -/
def ofJson : Json → Value
  | .null => .null
  | .bool b => .bool b
  | .int n => match int64? n with
    | some w => .int w
    | none => .float (.ofInt n)
  | .float x => .float x
  | .str s => .text s
  | .arr items => .array (ofJsonList items)
  | .obj members => .json (.obj members)

/-- The values of a list of documents. -/
def ofJsonList : List Json → List Value
  | [] => []
  | j :: rest => ofJson j :: ofJsonList rest
end

/-- The value as text. A local time shows no fraction; what has no text of its
own is written as a document. -/
def toText : Value → String
  | .null => "null"
  | .bool true => "true"
  | .bool false => "false"
  | .int n => .ofList (Numeral.ofInt n.toInt)
  | .float x => x.toText
  | .decimal d => d.toText
  | .text s => s
  | .date d => .ofList d.text
  | .time t => .ofList t.text
  | .timestamp t => .ofList t.wholeText
  | .instant t => .ofList t.instantText
  | .uuid u => .ofList u.text
  | v => v.toJson.compact

end Value
end SqlBind
