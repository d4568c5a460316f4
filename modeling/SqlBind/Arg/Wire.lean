/-
Arguments as documents. An object with the one key `SQL` is a literal, one with
the one key of a type tag a typed value, one with the keys `OUT` and perhaps
`VALUE` an output; an array names its element type first. Any other document is
an untyped value, an object of another shape included.
-/
import SqlBind.Arg

namespace SqlBind.Arg

/-- The document of an argument. -/
def toJson : Arg → Json
  | .raw v => v.toJson
  | .literal fragment => .obj [("SQL", .str fragment)]
  | .typed type (.array items) (some elementType) =>
    .obj [(type.tag, .arr (.str elementType :: Value.toJsonList items))]
  | .typed type v _ => .obj [(type.tag, v.toJson)]
  | .out type => .obj [("OUT", .str type.tag)]
  | .inOut type input => .obj [("OUT", .str type.tag), ("VALUE", input.toJson)]

/-- A tag with the document under it. -/
def ofTagged (type : SqlType) (content : Json) : Except DbError Arg :=
  if type = .array then
    match content with
    | .arr [] => .error (.validation .arrayWithoutElementType)
    | .arr (.str elementType :: items) => .ok (array elementType (Value.ofJsonList items))
    | .arr _ => .error (.validation .elementTypeNotText)
    | _ => .error (.validation .arrayNotList)
  else coerced type (.ofJson content)

/-- What stands under `SQL`. -/
def ofFragment : Json → Except DbError Arg
  | .str fragment => .ok (.literal fragment)
  | j => .error (.validation (.literalNotText j.compact))

/-- The type that stands under `OUT`. -/
def outType : Json → Except DbError SqlType
  | .str tag =>
    match SqlType.ofText? tag with
    | some type => .ok type
    | none => .error (.validation (.unknownTag tag))
  | j => .error (.validation (.outTagNotText j.compact))

/-- An object of one member. -/
def ofMember (key : String) (content : Json) : Except DbError Arg :=
  if key = "SQL" then ofFragment content
  else match SqlType.ofTag? key with
    | some type => ofTagged type content
    | none =>
      if key = "OUT" then (outType content).map .out
      else .ok (.raw (.json (.obj [(key, content)])))

/-- The argument that a document denotes. -/
def ofJson : Json → Except DbError Arg
  | .obj [(key, content)] => ofMember key content
  | .obj [(first, a), (second, b)] =>
    if first = "OUT" ∧ second = "VALUE" then do
      let type ← outType a
      let input ← ofJson b
      .ok (.inOut type input)
    else if first = "VALUE" ∧ second = "OUT" then do
      let type ← outType b
      let input ← ofJson a
      .ok (.inOut type input)
    else .ok (.raw (.json (.obj [(first, a), (second, b)])))
  | .obj members => .ok (.raw (.json (.obj members)))
  | j => .ok (.raw (.ofJson j))

/-- The arguments of a list of documents, or the first failure. -/
def ofJsonList : List Json → Except DbError (List Arg)
  | [] => .ok []
  | j :: rest => do
    let arg ← ofJson j
    let args ← ofJsonList rest
    .ok (arg :: args)

/-- The named arguments of an object's members, or the first failure. -/
def ofMembers : List (String × Json) → Except DbError (List (String × Arg))
  | [] => .ok []
  | (name, j) :: rest => do
    let arg ← ofJson j
    let args ← ofMembers rest
    .ok ((name, arg) :: args)

/-- An argument's text is its document. -/
def toText (arg : Arg) : String := arg.toJson.compact

end SqlBind.Arg
