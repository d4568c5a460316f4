/-
`NULL` on its way to the wire. A value is written as `NULL` under a type just if it
is `NULL` (`encode_eq_none`), and coercion makes no `NULL` of a present value and
no present value of a `NULL`, but under one tag: as a boolean `NULL` is false
(`coerce_isNull`). So what decides is the tag that an argument comes with to be
written, which for the column of a row is the type the column declares.
-/
import SqlBind.Proofs.Postgres.Coercion
import SqlBind.Proofs.Postgres.RoundTrip
import SqlBind.Write.Basic

namespace SqlBind

/-- The tag of a value that has one. -/
def Arg.tag? : Arg → Option SqlType
  | .typed tag _ _ => some tag
  | _ => none

/-- The argument binds `NULL`: it is one that its tag does not make false, or an output
that passes no other in. -/
def Arg.BindsNull : Arg → Prop
  | .raw v => v.isNull = true
  | .typed tag v _ => v.isNull = true ∧ tag ≠ .boolean
  | .out _ => True
  | .inOut _ input => input.BindsNull
  | .literal _ => False

theorem Value.eq_null {v : Value} (null : v.isNull = true) : v = .null := by
  cases v with
  | null => rfl
  | bool | int | float | decimal | text | bytes | date | time | timestamp | instant | uuid | json
  | array => cases null

/-! ## Coercion -/

namespace Coercion

theorem orNotCoercible_ok {type : SqlType} {v w : Value} {result : Option Value}
    (h : orNotCoercible type v result = .ok w) : result = some w := by
  cases result with
  | none => cases h
  | some _ => exact congrArg some (Except.ok.inj h)

theorem toDate?_present {v w : Value} (h : toDate? v = some w) : w.isNull = false := by
  cases v with
  | date | timestamp | instant =>
    cases h
    rfl
  | int n =>
    obtain ⟨t, -, rfl⟩ := Option.map_eq_some_iff.mp h
    rfl
  | text s =>
    simp only [toDate?, Option.or_eq_some_iff, Option.map_eq_some_iff] at h
    rcases h with ⟨_, -, rfl⟩ | ⟨-, ⟨_, -, rfl⟩ | ⟨-, ⟨_, -, rfl⟩ | ⟨-, _, -, rfl⟩⟩⟩ <;> rfl
  | null | bool | float | decimal | bytes | time | uuid | json | array => cases h

/-- What a present value is coerced to is present. -/
theorem coercePresent_isNull {type : SqlType} {v w : Value} (present : v.isNull = false)
    (h : coercePresent type v = .ok w) : w.isNull = false := by
  cases type with
  | int | long | double | float | decimal | time =>
    obtain ⟨_, -, rfl⟩ := Option.map_eq_some_iff.mp (orNotCoercible_ok h)
    rfl
  | boolean | string | json | jsonb =>
    cases h
    rfl
  | binary =>
    simp only [coercePresent] at h
    split at h
    · cases h
      rfl
    · rename_i items
      cases octets : Coercion.octets items with
      | error e =>
        rw [octets] at h
        cases h
      | ok bs =>
        rw [octets] at h
        cases h
        rfl
    · cases h
      rfl
    · cases h
  | date => exact toDate?_present (orNotCoercible_ok h)
  | array =>
    simp only [coercePresent] at h
    split at h <;> cases h <;> rfl
  | outCursor | raw =>
    cases h
    exact present

end Coercion

/-- **Coercion keeps `NULL` apart**: its outcome is `NULL` just if it started from
`NULL` and was not to be a boolean. -/
theorem SqlType.coerce_isNull {tag : SqlType} {v w : Value} (h : tag.coerce v = .ok w) :
    w.isNull = true ↔ v.isNull = true ∧ tag ≠ .boolean := by
  cases null : v.isNull with
  | false =>
    rw [Postgres.coerce_present null] at h
    simp [Coercion.coercePresent_isNull null h]
  | true =>
    obtain rfl := Value.eq_null null
    by_cases boolean : tag = .boolean
    · subst boolean
      cases h
      exact ⟨fun absent => absurd absent Bool.false_ne_true, fun other => absurd rfl other.2⟩
    · have kept : tag.coerce .null = .ok .null := by
        rw [SqlType.coerce, if_pos (by simp [Value.isNull, boolean])]
      cases kept.symm.trans h
      exact ⟨fun _ => ⟨rfl, boolean⟩, fun _ => rfl⟩

namespace Postgres

/-! ## Writing -/

/-- **A value is written as `NULL` just if it is `NULL`**, under every type. -/
theorem encode_eq_none (type : PgType) (v : Value) :
    encode type v = .ok none ↔ v.isNull = true := by
  cases null : v.isNull with
  | true =>
    obtain rfl := Value.eq_null null
    exact iff_of_true (encode_null type) rfl
  | false =>
    refine iff_of_false ?_ Bool.false_ne_true
    intro written
    induction type with
    | scalar s =>
      rw [encode, if_neg (by simp [null])] at written
      cases octets : encodeScalar s v <;> rw [octets] at written <;> cases written
    | array origin element =>
      rw [encode, if_neg (by simp [null])] at written
      cases cells : (items v).mapM (encode element) with
      | error e =>
        rw [cells] at written
        cases written
      | ok cells' =>
        rw [cells] at written
        cases octets : encodeArray origin element cells' <;>
          simp only [bind, Except.bind, octets] at written <;> cases written
    | domain base ih =>
      rw [encode, if_neg (by simp [null])] at written
      exact ih written
    | enum =>
      rw [encode, if_neg (by simp [null])] at written
      cases written

/-- An argument is written as `NULL` just if it binds `NULL`, whatever the type. -/
theorem encodeArg_eq_none (type : PgType) (a : Arg) : encodeArg type a = .ok none ↔ a.BindsNull := by
  induction a with
  | raw v => exact encode_eq_none type v
  | typed tag v elementType =>
    cases coerced : tag.coerce v with
    | error e =>
      -- No `NULL` is refused: only a present value can be.
      have present : ¬(v.isNull = true ∧ tag ≠ .boolean) := by
        rintro ⟨null, other⟩
        rw [SqlType.coerce, if_pos (by simp [null, other])] at coerced
        cases coerced
      refine iff_of_false ?_ present
      rw [encodeArg, shaped, coerced]
      rintro ⟨⟩
    | ok w =>
      have shape : encodeArg type (.typed tag v elementType) = encode type w := by
        rw [encodeArg, shaped, coerced]
        rfl
      rw [shape, encode_eq_none]
      exact SqlType.coerce_isNull coerced
  | out => exact iff_of_true rfl trivial
  | inOut _ input ih => exact ih
  | literal fragment => exact iff_of_false (by rintro ⟨⟩) id

theorem encodeArg_null_boolean (type : PgType) {v : Value} (null : v.isNull = true)
    (elementType : Option String) :
    encodeArg type (.typed .boolean v elementType) = encode type (.bool false) := by
  obtain rfl := Value.eq_null null
  rfl

end Postgres

/-! ## Arguments and the columns of rows -/

theorem Arg.bindsNull_of_isNull {a : Arg} (null : a.isNull = true) (tag : a.tag? ≠ some .boolean) :
    a.BindsNull := by
  cases a with
  | raw v => exact null
  | typed type v _ => exact ⟨null, fun boolean => tag (congrArg some boolean)⟩
  | literal | out | inOut => cases null

theorem Arg.not_bindsNull_of_value? {a : Arg} {v : Value} (carried : a.value? = some v)
    (present : v.isNull = false) : ¬a.BindsNull := by
  induction a with
  | raw w | typed _ w _ =>
    cases carried
    simp [Arg.BindsNull, present]
  | inOut _ input ih => exact ih carried
  | literal | out => cases carried

theorem Arg.boxed_null {a : Arg} (null : a.isNull = true) (type : Option SqlType) :
    (a.boxed type).isNull = true ∧ (a.boxed type).tag? = type.or a.tag? ∧
      (Part.slot (a.boxed type)).bound? = some (a.boxed type) := by
  cases a with
  | raw v | typed _ v _ => cases type <;> exact ⟨null, rfl, rfl⟩
  | literal | out | inOut => cases null

/-- A row has nothing to store in a column: it lacks the column, or has `NULL` in it. -/
def Row.Lacks (row : Row) (column : String) : Prop :=
  ∀ a, row.get? column = some a → a.isNull = true

theorem Row.Lacks.isNull {row : Row} {column : String} (h : row.Lacks column) :
    (row.argFor column).isNull = true := by
  rw [Row.argFor]
  cases stored : row.get? column with
  | none => rfl
  | some a => exact h a stored

namespace Postgres

/-- **`NULL` stays `NULL` down to the wire, except under the tag of booleans.**
Whatever the type on the server, an argument that is `NULL` is written as `NULL` if
it has another tag or none, and as `false` is if it has that tag; and an argument
that carries a present value is not written as `NULL`. So what a row lacks for a
column is written as `NULL`, unless the tag it goes under, the column's or else
its own, is that of booleans. -/
theorem null_stays_null (type : PgType) :
    (∀ a : Arg, a.isNull = true →
      (a.tag? ≠ some .boolean → encodeArg type a = .ok none) ∧
      (a.tag? = some .boolean →
        encodeArg type a = encode type (.bool false) ∧ encodeArg type a ≠ .ok none)) ∧
    (∀ (a : Arg) (v : Value), a.value? = some v → v.isNull = false →
      encodeArg type a ≠ .ok none) ∧
    (∀ (row : Row) (column : Column), row.Lacks column.name →
      ∃ a, (row.slot column).bound? = some a ∧ a.isNull = true ∧
        (column.type.or (row.argFor column.name).tag? ≠ some .boolean →
          encodeArg type a = .ok none) ∧
        (column.type.or (row.argFor column.name).tag? = some .boolean →
          encodeArg type a = encode type (.bool false))) := by
  have asFalse : ∀ a : Arg, a.isNull = true → a.tag? = some .boolean →
      encodeArg type a = encode type (.bool false) := by
    intro a null tag
    cases a with
    | typed _ v elementType =>
      cases tag
      exact encodeArg_null_boolean type null elementType
    | raw | literal | out | inOut => cases tag
  have stays : ∀ a : Arg, a.isNull = true → a.tag? ≠ some .boolean → encodeArg type a = .ok none :=
    fun a null tag => (encodeArg_eq_none type a).mpr (Arg.bindsNull_of_isNull null tag)
  refine ⟨fun a null => ⟨stays a null, fun tag => ⟨asFalse a null tag, ?_⟩⟩, ?_, ?_⟩
  · rw [asFalse a null tag, ne_eq, encode_eq_none]
    exact Bool.false_ne_true
  · intro a v carried present written
    exact Arg.not_bindsNull_of_value? carried present ((encodeArg_eq_none type a).mp written)
  · intro row column lacks
    obtain ⟨null, tag, bound⟩ := Arg.boxed_null lacks.isNull column.type
    refine ⟨_, bound, null, fun other => stays _ null ?_, fun boolean => asFalse _ null ?_⟩ <;>
      rwa [tag]

/-- A row without a column that is asked for as a text, written to a domain over arrays. -/
theorem null_stays_null_absent :
    let type : PgType := .domain (.array .listed (.scalar .text))
    ∃ a, (Row.slot .empty ⟨"note", some .string⟩).bound? = some a ∧ encodeArg type a = .ok none := by
  intro type
  obtain ⟨a, bound, -, other, -⟩ :=
    (null_stays_null type).2.2 .empty ⟨"note", some .string⟩ (by rintro a ⟨⟩)
  exact ⟨a, bound, other (by decide)⟩

/-- A row without a column that is declared a boolean stores `false` there. -/
theorem null_boolean_written :
    (Arg.typed .boolean .null none).isNull = true ∧
      encodeArg (.scalar .bool) (.typed .boolean .null none) = .ok (some [0]) ∧
      ((Row.slot .empty ⟨"active", some .boolean⟩).bound?.map (encodeArg (.scalar .bool))) =
        some (.ok (some [0])) :=
  ⟨rfl, rfl, rfl⟩

end Postgres
end SqlBind
