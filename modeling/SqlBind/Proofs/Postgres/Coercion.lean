/-
Writing, reading, the tag of a type and coercion go together. For the types that are
written by coercion to their own tag (`PgType.Direct`), a value is written just if it
can be coerced to the type's tag and the outcome is within the type's range; what is
written is what is written for the outcome (`Scalar.Direct.coerced`), and so it reads
back as the outcome (`encoding_follows_coercion`).
-/
import SqlBind.Proofs.Postgres.Scalar

namespace SqlBind.Postgres

/-- The scalar types whose values are written in the shape of the type's tag. -/
inductive Scalar.Direct : Scalar → Prop
  | bool : Direct .bool
  | int2 : Direct .int2
  | int4 : Direct .int4
  | int8 : Direct .int8
  | oid : Direct .oid
  | float8 : Direct .float8
  | bytea : Direct .bytea
  | text : Direct .text
  | varchar : Direct .varchar
  | bpchar : Direct .bpchar
  | name : Direct .name

/-- Those scalar types and the domains over them. -/
inductive PgType.Direct : PgType → Prop
  | scalar {s : Scalar} (direct : s.Direct) : Direct (.scalar s)
  | domain {base : PgType} (direct : Direct base) : Direct (.domain base)

/-- Whether a value is within the range of a scalar type: integers have to fit. -/
def Scalar.Admits : Scalar → Value → Prop
  | .int2, .int n => -2 ^ 15 ≤ n.toInt ∧ n.toInt ≤ 2 ^ 15 - 1
  | .int4, .int n => -2 ^ 31 ≤ n.toInt ∧ n.toInt ≤ 2 ^ 31 - 1
  | .oid, .int n => 0 ≤ n.toInt ∧ n.toInt ≤ 2 ^ 32 - 1
  | _, _ => True

def PgType.Admits : PgType → Value → Prop
  | .scalar s, w => s.Admits w
  | .domain base, w => base.Admits w
  | .array _ _, _ | .enum, _ => True

/-! ## Coercion before writing -/

/-- What a value comes to as a value of a scalar type: nothing, or a value that is
written in its place and that the type has if it is in range. -/
inductive Scalar.Coerced (type : Scalar) (v : Value) : Prop
  | refused {e : DbError} {fault : EncodeFault} (coerced : (PgType.scalarTag type).coerce v = .error e)
      (written : encodeScalar type v = .error fault)
  | shaped {w : Value} (coerced : (PgType.scalarTag type).coerce v = .ok w)
      (written : encodeScalar type v = encodeScalar type w) (native : type.Admits w → type.Native w)
      (tooWide : ¬type.Admits w → ∃ fault, encodeScalar type w = .error fault)

theorem coerce_present {v : Value} (present : v.isNull = false) (tag : SqlType) :
    tag.coerce v = Coercion.coercePresent tag v := by
  rw [SqlType.coerce, present, Bool.false_and, if_neg Bool.false_ne_true]

/-- Integers are coerced alike for every width, and then measured. -/
theorem Scalar.coerced_integer {type : Scalar} {v : Value} {width : Nat} {low high : Int}
    (present : v.isNull = false)
    (tag : PgType.scalarTag type = .int ∨ PgType.scalarTag type = .long)
    (written : ∀ v, encodeScalar type v = integer v >>= bounded width low high)
    (admits : ∀ n, type.Admits (.int n) ↔ low ≤ n.toInt ∧ n.toInt ≤ high)
    (native : ∀ n, type.Admits (.int n) → type.Native (.int n)) : type.Coerced v := by
  have shape : (PgType.scalarTag type).coerce v =
      orNotCoercible (PgType.scalarTag type) v ((Coercion.toInt64? v).map .int) := by
    rw [coerce_present present]
    rcases tag with tag | tag <;> rw [tag] <;> rfl
  have long : SqlType.long.coerce v = orNotCoercible .long v ((Coercion.toInt64? v).map .int) :=
    coerce_present present .long
  cases floored : Coercion.toInt64? v with
  | none =>
    rw [floored] at shape
    have refused : encodeScalar type v = .error (.coercion (.validation (.notCoercible v.toText .long))) := by
      rw [written, integer, shaped, long, floored]
      rfl
    exact .refused shape refused
  | some n =>
    rw [floored] at shape
    refine .shaped shape ?_ (native n) fun out => ⟨.outOfRange, ?_⟩
    · rw [written, written, integer, shaped, long, floored]
      rfl
    · rw [written]
      exact if_neg fun inRange => out ((admits n).mpr inRange)

theorem Scalar.coerced_text {type : Scalar} {v : Value} (present : v.isNull = false)
    (tag : PgType.scalarTag type = .string)
    (written : ∀ v, encodeScalar type v = .ok (utf8 (textOf v)))
    (native : ∀ s, type.Native (.text s)) (admits : ∀ s, type.Admits (.text s)) : type.Coerced v := by
  have shape : (PgType.scalarTag type).coerce v = .ok (.text v.toText) := by
    rw [coerce_present present, tag]
    rfl
  refine .shaped shape ?_ (fun _ => native _) fun out => absurd (admits _) out
  · rw [written, written]
    cases v <;> rfl

/-- A value is written as what it is coerced to. -/
theorem Scalar.Direct.coerced {type : Scalar} (direct : type.Direct) {v : Value}
    (present : v.isNull = false) : type.Coerced v := by
  cases direct with
  | bool =>
    have shape : SqlType.boolean.coerce v = .ok (.bool v.isTruthy) := coerce_present present .boolean
    exact .shaped shape rfl (fun _ => .bool _) fun out => absurd trivial out
  | int2 => exact coerced_integer present (.inl rfl) (fun _ => rfl) (fun _ => .rfl) fun _ => .int2
  | int4 => exact coerced_integer present (.inl rfl) (fun _ => rfl) (fun _ => .rfl) fun _ => .int4
  | int8 =>
    refine coerced_integer present (.inr rfl) (fun _ => rfl) (fun n => ?_) fun n _ => .int8 n
    have low := n.le_toInt
    have high := n.toInt_lt
    exact ⟨fun _ => ⟨low, by omega⟩, fun _ => trivial⟩
  | oid => exact coerced_integer present (.inr rfl) (fun _ => rfl) (fun _ => .rfl) fun _ => .oid
  | float8 =>
    have shape : SqlType.double.coerce v = orNotCoercible .double v ((Coercion.toDouble? v).map .float) :=
      coerce_present present .double
    cases near : Coercion.toDouble? v with
    | none =>
      rw [near] at shape
      have refused : encodeScalar .float8 v =
          .error (.coercion (.validation (.notCoercible v.toText .double))) := by
        rw [encodeScalar, double, shaped, shape]
        rfl
      exact .refused shape refused
    | some x =>
      rw [near] at shape
      refine .shaped shape ?_ (fun _ => .float8 x) fun out => absurd trivial out
      rw [encodeScalar, double, shaped, shape]
      rfl
  | bytea =>
    have shape := coerce_present present .binary
    cases v with
    | text s => exact .shaped shape rfl (fun _ => .bytea _) fun out => absurd trivial out
    | bytes os => exact .shaped shape rfl (fun _ => .bytea _) fun out => absurd trivial out
    | array items =>
      cases held : Coercion.octets items with
      | error e =>
        have refused : SqlType.binary.coerce (.array items) = .error e := by
          rw [shape, Coercion.coercePresent, held]
          rfl
        have unwritten : encodeScalar .bytea (.array items) = .error (.coercion e) := by
          rw [encodeScalar, octets, shaped, refused]
          rfl
        exact .refused refused unwritten
      | ok os =>
        have coerced : SqlType.binary.coerce (.array items) = .ok (.bytes os) := by
          rw [shape, Coercion.coercePresent, held]
          rfl
        refine .shaped coerced ?_ (fun _ => .bytea os) fun out => absurd trivial out
        rw [encodeScalar, octets, shaped, coerced]
        rfl
    | null => cases present
    | _ => exact .refused shape rfl
  | text => exact coerced_text present rfl (fun _ => rfl) .text fun _ => trivial
  | varchar => exact coerced_text present rfl (fun _ => rfl) .varchar fun _ => trivial
  | bpchar => exact coerced_text present rfl (fun _ => rfl) .bpchar fun _ => trivial
  | name => exact coerced_text present rfl (fun _ => rfl) .name fun _ => trivial

/-! ## Types -/

theorem Scalar.encode_eq (type : Scalar) {v : Value} (present : v.isNull = false) :
    encode (.scalar type) v = (encodeScalar type v).map some := by
  rw [encode, present, if_neg Bool.false_ne_true]

/-- **Writing, reading, tags and coercion agree.** A value that is not `NULL` can be
written as a type just if coercion to the type's tag has an outcome and the outcome is in
range, and the octets that are written are read as that outcome. -/
theorem encoding_follows_coercion (type : PgType) (direct : type.Direct) (v : Value)
    (present : v.isNull = false) :
    ((∃ cell, encode type v = .ok cell) ↔ ∃ w, type.tag.coerce v = .ok w ∧ type.Admits w) ∧
      ∀ cell, encode type v = .ok cell →
        ∃ octets w, cell = some octets ∧ type.tag.coerce v = .ok w ∧ decode? type octets = some w := by
  induction direct with
  | domain _ ih =>
    -- A domain is written, read and tagged as its base.
    rw [encode, present, if_neg Bool.false_ne_true]
    exact ih
  | @scalar s direct =>
    rw [s.encode_eq present]
    have unwritten {fault : EncodeFault} (refused : encodeScalar s v = .error fault) (cell : Cell) :
        (encodeScalar s v).map some ≠ .ok cell := by
      rw [refused]
      rintro ⟨⟩
    cases direct.coerced present with
    | @refused e fault coerced written =>
      have nothing : ¬∃ w, (PgType.scalar s).tag.coerce v = .ok w ∧ s.Admits w := by
        rintro ⟨w, h, -⟩
        cases coerced.symm.trans h
      exact ⟨iff_of_false (fun ⟨cell, h⟩ => unwritten written cell h) nothing,
        fun cell h => absurd h (unwritten written cell)⟩
    | @shaped w coerced written native tooWide =>
      by_cases admitted : s.Admits w
      · obtain ⟨octets, encoded, read⟩ := (native admitted).readsBack
        have cell : (encodeScalar s v).map some = .ok (some octets) := by
          rw [written, encoded]
          rfl
        refine ⟨iff_of_true ⟨_, cell⟩ ⟨w, coerced, admitted⟩, fun c h => ?_⟩
        cases cell.symm.trans h
        exact ⟨octets, w, rfl, coerced, read⟩
      · obtain ⟨fault, refused⟩ := tooWide admitted
        have nothing : ¬∃ w, (PgType.scalar s).tag.coerce v = .ok w ∧ s.Admits w := by
          rintro ⟨w', h, admits⟩
          cases coerced.symm.trans h
          exact admitted admits
        exact ⟨iff_of_false (fun ⟨cell, h⟩ => unwritten (written.trans refused) cell h) nothing,
          fun cell h => absurd h (unwritten (written.trans refused) cell)⟩

/-- A decimal bound as a domain over small integers: it is floored, and then measured. -/
theorem encoding_follows_coercion_floored :
    let type : PgType := .domain (.domain (.scalar .int2))
    let v : Value := .decimal ⟨true, 29, 1, by decide, by decide⟩
    (type.Direct ∧ v.isNull = false) ∧ encode type v = .ok (some [255, 253]) ∧
      ∃ octets w, some [255, 253] = some octets ∧ type.tag.coerce v = .ok w ∧ decode? type octets = some w := by
  intro type v
  have direct : type.Direct := .domain (.domain (.scalar .int2))
  have written : encode type v = .ok (some [255, 253]) := rfl
  exact ⟨⟨direct, rfl⟩, written, (encoding_follows_coercion type direct v rfl).2 _ written⟩

end SqlBind.Postgres
