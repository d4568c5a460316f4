/-
Expressions as paths into named arguments. The first segment of a path names an
argument; each further one names a member of an object or counts an item of an
array in the document of the argument's value.
-/
import SqlBind.Row
import SqlBind.Text.Blank

namespace SqlBind.Scope

/-- The segments of a path, without the blanks around each. -/
def segments (path : String) : List String :=
  (Text.split '.' path.toList).map fun s => .ofList (Text.trim s)

/-- The position that a segment counts: digits, with a plus sign before them at
most, that fit a word of sixty-four bits. -/
def index? (segment : String) : Option Nat :=
  let digits := match segment.toList with
    | '+' :: rest => rest
    | cs => cs
  (Numeral.read? digits).filter (· < 2 ^ 64)

/-- The part of a document that one segment names. -/
def child (field : String) : Json → Except EvalFault Json
  | .obj members =>
    match OrderedMap.lookup members field with
    | some j => .ok j
    | none => .error (.missingField field)
  | .arr items =>
    match index? field with
    | none => .error (.notAnIndex field)
    | some i =>
      match items[i]? with
      | some j => .ok j
      | none => .error (.outOfRange i)
  | _ => .error (.unreadable field)

/-- The part of a document at the end of a path. -/
def descend (j : Json) : List String → Except EvalFault Json
  | [] => .ok j
  | field :: rest => do
    let j ← child field j
    descend j rest

/-- The value of a path: the argument itself if the path is a single name, else
the argument that the document at its end denotes. -/
def eval (scope : NamedArgs) (expression : String) : Except DbError Arg :=
  let path := Text.trimmed expression
  let fail {α : Type} (fault : EvalFault) : Except DbError α := .error (.eval path fault)
  match segments path with
  | [] => fail (.unbound "")
  | head :: fields =>
    match scope.get? head with
    | none => fail (.unbound head)
    | some root =>
      if fields.isEmpty then .ok root
      else match root.value? with
        | none => fail (.noFields head)
        | some v =>
          match descend v.toJson fields with
          | .error fault => fail fault
          | .ok j => Arg.ofJson j

end SqlBind.Scope
