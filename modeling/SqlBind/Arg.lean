/-
Bind arguments. An argument is an untyped value, a value with a declared type, a
trusted piece of SQL that is spliced in place, or an output of a procedure call,
which may carry an input too.
-/
import SqlBind.Coercion

namespace SqlBind

/-- One bind argument. -/
inductive Arg where
  /-- A value whose SQL type is inferred. -/
  | raw (value : Value)
  /-- A value with a type tag; an array may name its element type. -/
  | typed (type : SqlType) (value : Value) (elementType : Option String)
  /-- SQL that is copied as it stands. -/
  | literal (fragment : String)
  /-- An output parameter. -/
  | out (type : SqlType)
  /-- An output parameter that also passes an argument in. -/
  | inOut (type : SqlType) (input : Arg)

namespace Arg

/-- `NULL` without a type. -/
def null : Arg := .raw .null

instance : Inhabited Arg := ⟨null⟩

/-- A value tagged as it is. -/
def ofType (type : SqlType) (v : Value) : Arg := .typed type v none

/-- A value tagged and coerced. -/
def coerced (type : SqlType) (v : Value) : Except DbError Arg := (type.coerce v).map (ofType type)

/-- The truth of a value. -/
def boolean (v : Value) : Arg := ofType .boolean (.bool v.isTruthy)

/-- The text of a value, also of `NULL`. -/
def string (v : Value) : Arg := ofType .string (.text v.toText)

/-- The document of a value, also of `NULL`. -/
def json (v : Value) : Arg := ofType .json (.json v.toJson)

/-- The document of a value, to be stored in binary form. -/
def jsonb (v : Value) : Arg := ofType .jsonb (.json v.toJson)

/-- Values as an array of a named element type. -/
def array (elementType : String) (items : List Value) : Arg :=
  .typed .array (.array items) (some elementType)

/-- A cursor that a procedure opens. -/
def outCursor : Arg := .out .outCursor

def isLiteral : Arg → Bool
  | .literal _ => true
  | _ => false

def literal? : Arg → Option String
  | .literal fragment => some fragment
  | _ => none

/-- The value an argument carries, whatever its tag. Literals and mere outputs
carry none. -/
def value? : Arg → Option Value
  | .raw v => some v
  | .typed _ v _ => some v
  | .inOut _ input => input.value?
  | .literal _ | .out _ => none

/-- Whether the argument is `NULL`, with or without a type. -/
def isNull : Arg → Bool
  | .raw v => v.isNull
  | .typed _ v _ => v.isNull
  | _ => false

/-- The argument under the type that its column declares, which takes the place
of any tag it had. Literals and outputs stay as they are. -/
def boxed (arg : Arg) (type : Option SqlType) : Arg :=
  match type, arg with
  | some type, .raw v => ofType type v
  | some type, .typed _ v elementType => .typed type v elementType
  | _, arg => arg

end Arg
end SqlBind
