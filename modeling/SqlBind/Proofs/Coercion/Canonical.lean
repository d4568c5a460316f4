/-
Coercion brings a value into the shape of a tag, and once is enough. Under each tag stands
one kind of value, and under that of dates three (`SqlType.Holds`): what is coerced comes
out as one of them or as `NULL` (`coercePresent_holds`), and one of them comes out as it
is (`SqlType.Holds.coerce`). Two facts about writing follow. An argument that was made by
coercion is written as the value that it holds. And where a present value is coerced to be
written, the outcome has the kind that is asked for, or the coercion itself was refused
(`FollowsCoercion`); the only other value that finds no place in a type is one that is no
identifier.
-/
import SqlBind.Proofs.Arg.Wire
import SqlBind.Proofs.Postgres.Null

namespace SqlBind

/-- The values in the shape of a tag. Two tags take every value as it is. -/
inductive SqlType.Holds : SqlType → Value → Prop
  | int (n : Int64) : Holds .int (.int n)
  | long (n : Int64) : Holds .long (.int n)
  | double (x : Double) : Holds .double (.float x)
  | float (x : Double) : Holds .float (.float x)
  | decimal (d : Decimal) : Holds .decimal (.decimal d)
  | boolean (b : Bool) : Holds .boolean (.bool b)
  | binary (octets : List UInt8) : Holds .binary (.bytes octets)
  | string (s : String) : Holds .string (.text s)
  | date (d : Date) : Holds .date (.date d)
  | timestamp (t : Timestamp) : Holds .date (.timestamp t)
  | instant (t : Timestamp) : Holds .date (.instant t)
  | time (t : TimeOfDay) : Holds .time (.time t)
  | json (j : Json) : Holds .json (.json j)
  | jsonb (j : Json) : Holds .jsonb (.json j)
  | array (items : List Value) : Holds .array (.array items)
  | outCursor (v : Value) : Holds .outCursor v
  | raw (v : Value) : Holds .raw v

variable {tag : SqlType} {v w : Value}

/-! ## Coercion -/

theorem SqlType.Holds.coerce (held : tag.Holds v) : tag.coerce v = .ok v := by
  cases held with
  | outCursor v | raw v => cases v <;> rfl
  | _ => rfl

namespace Coercion

theorem IsDate.holds (date : IsDate w) : SqlType.date.Holds w := by
  cases w with
  | date d => exact .date d
  | timestamp t => exact .timestamp t
  | instant t => exact .instant t
  | _ => exact date.elim

/-- What a present value is coerced to is in the shape of the tag. -/
theorem coercePresent_holds (h : coercePresent tag v = .ok w) : tag.Holds w := by
  cases tag with
  | int | long | double | float | decimal | time =>
    obtain ⟨_, rfl⟩ := eq_of_orNotCoercible h
    constructor
  | boolean | string | json | jsonb | outCursor | raw =>
    cases h
    constructor
  | binary =>
    obtain ⟨octets, rfl⟩ := bytes_of_coercePresent h
    exact .binary octets
  | date => exact (isDate_of_toDate? (orNotCoercible_ok h)).holds
  | array =>
    simp only [coercePresent] at h
    split at h <;> cases h <;> constructor

end Coercion

namespace SqlType

theorem coerce_holds (h : tag.coerce v = .ok w) (present : w.isNull = false) : tag.Holds w := by
  unfold coerce at h
  split at h
  · cases h
    cases present
  · exact Coercion.coercePresent_holds h

/-- **Once is enough**: what was coerced is coerced to itself. -/
theorem coerce_coerce (h : tag.coerce v = .ok w) : tag.coerce w = .ok w := by
  unfold coerce at h
  split at h
  · next null =>
    cases h
    rw [coerce, if_pos (by simpa [Value.isNull] using (Bool.and_eq_true_iff.mp null).2)]
  · exact (Coercion.coercePresent_holds h).coerce

/-- A cursor and what has no type are not changed. -/
theorem coerce_asItIs (asItIs : tag ∈ [SqlType.outCursor, .raw]) (v : Value) :
    tag.coerce v = .ok v := by
  simp only [List.mem_cons, List.not_mem_nil, or_false] at asItIs
  rcases asItIs with rfl | rfl
  · exact (Holds.outCursor v).coerce
  · exact (Holds.raw v).coerce

end SqlType

/-! ## Arguments -/

/-- The arguments that are made by coercion to a tag, those that are read of a document
among them. Under some tags every value has a counterpart, which is taken at once. -/
inductive Arg.Made : Arg → Prop
  | coerced {tag : SqlType} {v : Value} {a : Arg} (made : Arg.coerced tag v = .ok a) : Made a
  | boolean (v : Value) : Made (.boolean v)
  | string (v : Value) : Made (.string v)
  | json (v : Value) : Made (.json v)
  | jsonb (v : Value) : Made (.jsonb v)
  | array (elementType : String) (items : List Value) : Made (.array elementType items)
  | tagged {tag : SqlType} {content : Json} {a : Arg} (read : Arg.ofTagged tag content = .ok a) :
    Made a

/-- A value of a tag that coercion leaves as it is. -/
def Arg.Settled (a : Arg) : Prop :=
  ∃ (tag : SqlType) (v : Value) (elementType : Option String),
    a = .typed tag v elementType ∧ tag.coerce v = .ok v

namespace Arg

theorem settled_coerced {a : Arg} (made : Arg.coerced tag v = .ok a) : a.Settled := by
  cases shape : tag.coerce v with
  | error e =>
    rw [coerced, shape] at made
    cases made
  | ok w =>
    rw [coerced, shape] at made
    cases made
    exact ⟨tag, w, none, rfl, SqlType.coerce_coerce shape⟩

theorem settled_array (elementType : String) (items : List Value) :
    (array elementType items).Settled :=
  ⟨.array, .array items, some elementType, rfl, rfl⟩

theorem settled_tagged {content : Json} {a : Arg} (read : ofTagged tag content = .ok a) :
    a.Settled := by
  unfold ofTagged at read
  split at read
  · split at read
    · cases read
    · cases read
      exact settled_array _ _
    · cases read
    · cases read
  · exact settled_coerced read

theorem Made.settled {a : Arg} (made : a.Made) : a.Settled := by
  cases made with
  | coerced made => exact settled_coerced made
  | boolean v => exact ⟨.boolean, _, none, rfl, rfl⟩
  | string v => exact ⟨.string, _, none, rfl, rfl⟩
  | json v => exact ⟨.json, _, none, rfl, rfl⟩
  | jsonb v => exact ⟨.jsonb, _, none, rfl, rfl⟩
  | array elementType items => exact settled_array elementType items
  | tagged read => exact settled_tagged read

end Arg

namespace Postgres

theorem encodeArg_settled (settled : tag.coerce v = .ok v) (elementType : Option String)
    (type : PgType) : encodeArg type (.typed tag v elementType) = encode type v := by
  rw [encodeArg, shaped, settled]
  rfl

/-! ## Values to be written -/

variable {α β : Type}

/-- What is made of a value under a tag: something if the value can be coerced, and else
the refusal of the coercion. -/
def FollowsCoercion (tag : SqlType) (v : Value) (result : Except EncodeFault α) : Prop :=
  (∃ w a, tag.coerce v = .ok w ∧ result = .ok a) ∨
    ∃ e, tag.coerce v = .error e ∧ result = .error (.coercion e)

/-- What knows how to take all values of a tag takes every present value that is coerced. -/
theorem followsCoercion_shaped (present : v.isNull = false) {take : Value → Except EncodeFault α}
    (takes : ∀ w, tag.Holds w → ∃ a, take w = .ok a) :
    FollowsCoercion tag v (shaped tag v >>= take) := by
  rw [shaped]
  cases coerced : tag.coerce v with
  | error e => exact .inr ⟨e, coerced, rfl⟩
  | ok w =>
    have filled : w.isNull = false :=
      Coercion.coercePresent_isNull present (by rwa [← coerce_present present])
    obtain ⟨a, taken⟩ := takes w (SqlType.coerce_holds coerced filled)
    exact .inl ⟨w, a, coerced, taken⟩

section
variable (present : v.isNull = false)
include present

theorem integer_follows : FollowsCoercion .long v (integer v) :=
  followsCoercion_shaped present fun w held => by
    cases held with
    | long n => exact ⟨n, rfl⟩

theorem double_follows : FollowsCoercion .double v (double v) :=
  followsCoercion_shaped present fun w held => by
    cases held with
    | double x => exact ⟨x, rfl⟩

theorem decimal_follows : FollowsCoercion .decimal v (decimal v) :=
  followsCoercion_shaped present fun w held => by
    cases held with
    | decimal d => exact ⟨d, rfl⟩

theorem pointInTime_follows (type : Scalar) : FollowsCoercion .date v (pointInTime type v) :=
  followsCoercion_shaped present fun w held => by
    cases held with
    | date d => exact ⟨.ofDate d, rfl⟩
    | timestamp t | instant t => exact ⟨t, rfl⟩

theorem calendarDate_follows : FollowsCoercion .date v (calendarDate v) :=
  followsCoercion_shaped present fun w held => by
    cases held with
    | date d => exact ⟨d, rfl⟩
    | timestamp t | instant t => exact ⟨t.date, rfl⟩

theorem timeOfDay_follows : FollowsCoercion .time v (timeOfDay v) :=
  followsCoercion_shaped present fun w held => by
    cases held with
    | time t => exact ⟨t, rfl⟩

theorem octets_follow : FollowsCoercion .binary v (octets v) :=
  followsCoercion_shaped present fun w held => by
    cases held with
    | binary octets => exact ⟨octets, rfl⟩

end

/-! ## Types -/

/-- An outcome that is not the refusal of a value for its kind, unless as an identifier. -/
def KindFits (result : Except EncodeFault α) : Prop :=
  ∀ shown name, result = .error (.mismatch shown name) → name = "uuid"

theorem KindFits.ok (a : α) : KindFits (.ok a : Except EncodeFault α) := by
  rintro shown name ⟨⟩

theorem FollowsCoercion.kindFits {result : Except EncodeFault α}
    (follows : FollowsCoercion tag v result) : KindFits result := by
  rintro shown name rfl
  obtain ⟨_, _, -, ⟨⟩⟩ | ⟨_, -, ⟨⟩⟩ := follows

theorem KindFits.bind {result : Except EncodeFault α} {next : α → Except EncodeFault β}
    (fits : KindFits result) (later : ∀ a, KindFits (next a)) : KindFits (result >>= next) := by
  cases result with
  | error fault =>
    rintro shown name same
    cases same
    exact fits shown name rfl
  | ok a => exact later a

theorem KindFits.mapM {f : β → Except EncodeFault α} (fits : ∀ b, KindFits (f b)) (bs : List β) :
    KindFits (bs.mapM f) := by
  induction bs with
  | nil => exact .ok _
  | cons b bs ih =>
    rw [List.mapM_cons]
    exact (fits b).bind fun _ => ih.bind fun _ => .ok _

theorem bounded_kindFits (width : Nat) (low high : Int) (n : Int64) :
    KindFits (bounded width low high n) := by
  unfold bounded
  split
  · exact .ok _
  · rintro shown name ⟨⟩

theorem identifier_kindFits (v : Value) : KindFits (identifier v) := by
  intro shown name refused
  unfold identifier at refused
  split at refused
  · cases refused
  · split at refused <;> cases refused
  · cases refused
    rfl

theorem encodeScalar_kindFits (type : Scalar) (present : v.isNull = false) :
    KindFits (encodeScalar type v) := by
  cases type with
  | int2 | int4 | int8 | oid =>
    exact (integer_follows present).kindFits.bind (bounded_kindFits _ _ _)
  | float4 | float8 => exact (double_follows present).kindFits.bind fun _ => .ok _
  | numeric => exact (decimal_follows present).kindFits.bind fun _ => .ok _
  | bytea => exact (octets_follow present).kindFits
  | date => exact (calendarDate_follows present).kindFits.bind fun _ => .ok _
  | timestamp | timestamptz => exact (pointInTime_follows present _).kindFits.bind fun _ => .ok _
  | time => exact (timeOfDay_follows present).kindFits.bind fun _ => .ok _
  | uuid => exact (identifier_kindFits v).bind fun _ => .ok _
  | _ => exact .ok _

theorem encodeCells_kindFits (cells : List Cell) : KindFits (encodeCells cells) := by
  have cell : ∀ cell, KindFits (encodeCell cell) := by
    intro cell
    unfold encodeCell
    split
    · exact .ok _
    · split
      · exact .ok _
      · rintro shown name ⟨⟩
  induction cells with
  | nil => exact .ok _
  | cons first rest ih => exact (cell first).bind fun _ => ih.bind fun _ => .ok _

theorem encodeArray_kindFits (origin : ArrayOrigin) (element : PgType) (cells : List Cell) :
    KindFits (encodeArray origin element cells) := by
  refine (encodeCells_kindFits cells).bind fun content => ?_
  split
  · exact .ok _
  · rintro shown name ⟨⟩

/-- No value is refused for its kind under any type, but for identifiers: `NULL` is written
before it is looked at, also inside arrays. -/
theorem encode_kindFits (type : PgType) (v : Value) : KindFits (encode type v) := by
  induction type generalizing v with
  | scalar s =>
    rw [encode]
    split
    · exact .ok _
    · next present =>
      have written : (encodeScalar s v).map some = encodeScalar s v >>= fun octets => .ok (some octets) := by
        cases encodeScalar s v <;> rfl
      rw [written]
      exact (encodeScalar_kindFits s (by simpa using present)).bind fun _ => .ok _
  | array origin element ih =>
    rw [encode]
    split
    · exact .ok _
    · exact (KindFits.mapM ih (items v)).bind fun cells =>
        (encodeArray_kindFits origin element cells).bind fun _ => .ok _
  | domain base ih =>
    rw [encode]
    split
    · exact .ok _
    · exact ih v
  | enum =>
    rw [encode]
    split <;> exact .ok _

theorem encodeArg_kindFits (type : PgType) (a : Arg) : KindFits (encodeArg type a) := by
  induction a with
  | raw v => exact encode_kindFits type v
  | typed tag v elementType =>
    have shaped : KindFits (shaped tag v) := by
      rw [Postgres.shaped]
      cases tag.coerce v with
      | error e => rintro shown name ⟨⟩
      | ok w => exact .ok w
    exact shaped.bind (encode_kindFits type)
  | literal fragment => rintro shown name ⟨⟩
  | out tag => exact .ok none
  | inOut tag input ih => exact ih

/-- **Coercion settles a value.** What a value is coerced to under a tag is coerced to
itself; it is `NULL` just if the value was and is not to be a boolean, and else it has the
shape of the tag, where the tags without a shape take the value as it is. So an argument
that was made by coercion is written as the value that it holds; whatever a present value
is coerced for in order to be written, the outcome is of the kind that is expected; and of
all arguments under all types only those are refused for the kind of their value that are
to be identifiers. -/
theorem coercion_settles :
    (∀ (tag : SqlType) (v w : Value), tag.coerce v = .ok w →
      tag.coerce w = .ok w ∧ (w.isNull = true ↔ v.isNull = true ∧ tag ≠ .boolean) ∧
        (w.isNull = false → tag.Holds w) ∧ (tag ∈ [SqlType.outCursor, .raw] → w = v)) ∧
    (∀ a : Arg, a.Made → ∃ tag v elementType, a = .typed tag v elementType ∧
      tag.coerce v = .ok v ∧ ∀ type, encodeArg type a = encode type v) ∧
    (∀ v : Value, v.isNull = false →
      FollowsCoercion .long v (integer v) ∧ FollowsCoercion .double v (double v) ∧
        FollowsCoercion .decimal v (decimal v) ∧
        (∀ type, FollowsCoercion .date v (pointInTime type v)) ∧
        FollowsCoercion .date v (calendarDate v) ∧ FollowsCoercion .time v (timeOfDay v) ∧
        FollowsCoercion .binary v (octets v)) ∧
    ∀ (type : PgType) (a : Arg) (shown name : String),
      encodeArg type a = .error (.mismatch shown name) → name = "uuid" := by
  refine ⟨fun tag v w coerced => ?_, fun a made => ?_, fun v present => ?_, encodeArg_kindFits⟩
  · refine ⟨SqlType.coerce_coerce coerced, SqlType.coerce_isNull coerced,
      SqlType.coerce_holds coerced, fun asItIs => ?_⟩
    cases (SqlType.coerce_asItIs asItIs v).symm.trans coerced
    rfl
  · obtain ⟨tag, v, elementType, rfl, settled⟩ := made.settled
    exact ⟨tag, v, elementType, rfl, settled, encodeArg_settled settled elementType⟩
  · exact ⟨integer_follows present, double_follows present, decimal_follows present,
      pointInTime_follows present, calendarDate_follows present, timeOfDay_follows present,
      octets_follow present⟩

/-- A list of small numbers as octets, and a list to be written as identifiers in which one
item is a truth value. -/
theorem coercion_settles_octets :
    let listed : Value := .array [.int 255, .decimal ⟨false, 5, 1, by decide, by decide⟩]
    let octets : Value := .bytes [255, 0]
    let a : Arg := .ofType .binary octets
    let list : Arg := .raw (.array [.null, .bool true])
    (SqlType.binary.coerce listed = .ok octets ∧ SqlType.binary.coerce octets = .ok octets ∧
      SqlType.binary.Holds octets) ∧
    (a.Made ∧ encodeArg (.scalar .bytea) a = encode (.scalar .bytea) octets) ∧
    (listed.isNull = false ∧ FollowsCoercion .binary listed (Postgres.octets listed)) ∧
    ∃ name, encodeArg (.array .listed (.scalar .uuid)) list = .error (.mismatch "true" name) ∧
      name = "uuid" := by
  intro listed octets a list
  obtain ⟨settles, made, follows, fits⟩ := coercion_settles
  have coerced : SqlType.binary.coerce listed = .ok octets := rfl
  have making : a.Made := Arg.Made.coerced (rfl : Arg.coerced .binary listed = .ok a)
  have refused : encodeArg (.array .listed (.scalar .uuid)) list = .error (.mismatch "true" "uuid") :=
    rfl
  obtain ⟨again, -, shape, -⟩ := settles .binary listed octets coerced
  obtain ⟨tag, v, elementType, same, -, written⟩ := made a making
  have value : v = octets := (Arg.typed.inj same).2.1.symm
  obtain ⟨-, -, -, -, -, -, bytes⟩ := follows listed rfl
  refine ⟨⟨coerced, again, shape rfl⟩, ⟨making, ?_⟩, ⟨rfl, bytes⟩, _, refused,
    fits _ list _ _ refused⟩
  rw [written, value]

end Postgres
end SqlBind
