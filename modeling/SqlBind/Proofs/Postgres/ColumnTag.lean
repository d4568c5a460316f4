/-
What is read from a column, beside the tag that the column is reported under. Reader and
tags are two tables over the types; in both a domain stands where the type stands that it
is made over (`PgType.base`). What is read has the shape of the tag (`holds_of_decode?`),
with two exceptions that are meant: identifiers have no tag of their own and go under that
of texts, and octets that are no text are kept as octets, whatever was to be read.
-/
import SqlBind.Proofs.Coercion.Canonical

namespace SqlBind.Postgres

/-- The type that a domain is made over, through all domains between. -/
def PgType.base : PgType → PgType
  | .domain type => type.base
  | type => type

/-- The types whose values are texts: those of character strings, the enumerations, and the
domains over them. -/
def PgType.IsText (type : PgType) : Prop := type.tag = .string ∧ type.base ≠ .scalar .uuid

variable {type : PgType} {octets : List UInt8} {v : Value}

theorem PgType.IsText.decode? (text : type.IsText) (octets : List UInt8) :
    decode? type octets = some (textOrOctets octets) := by
  induction type with
  | scalar s =>
    cases s with
    | text | varchar | bpchar | name | unknown => rfl
    | uuid => exact absurd rfl text.2
    | _ => cases text.1
  | array origin element => cases text.1
  | domain base ih => exact ih text
  | enum => rfl

theorem document?_eq_json (read : document? octets = some v) : ∃ j, v = .json j := by
  obtain ⟨j, -, rfl⟩ := Option.map_eq_some_iff.mp read
  exact ⟨j, rfl⟩

/-- Scalar values have the shape of their type's tag, if the type has a format of its own
or a tag that takes every value. -/
theorem decodeScalar?_holds {s : Scalar} (read : decodeScalar? s octets = some v)
    (notText : PgType.scalarTag s ≠ .string) (noZone : s ≠ .timetz) :
    (PgType.scalarTag s).Holds v := by
  cases s with
  | bool | int2 | int4 | int8 | oid | float4 | float8 | numeric =>
    obtain ⟨_, -, rfl⟩ := Option.map_eq_some_iff.mp read
    constructor
  | date | time | timestamp | timestamptz =>
    obtain ⟨_, -, counted⟩ := Option.bind_eq_some_iff.mp read
    obtain ⟨_, -, rfl⟩ := Option.map_eq_some_iff.mp counted
    constructor
  | bytea =>
    cases read
    constructor
  | json =>
    obtain ⟨j, rfl⟩ := document?_eq_json read
    constructor
  | jsonb =>
    cases octets with
    | nil => cases read
    | cons version rest =>
      simp only [decodeScalar?] at read
      split at read
      · obtain ⟨j, rfl⟩ := document?_eq_json read
        constructor
      · cases read
  | refcursor | other => constructor
  | text | varchar | bpchar | name | unknown | uuid => exact absurd rfl notText
  | timetz => exact absurd rfl noZone

theorem holds_of_decode? (read : decode? type octets = some v) (notText : type.tag ≠ .string)
    (noZone : type.base ≠ .scalar .timetz) : type.tag.Holds v := by
  induction type with
  | scalar s => exact decodeScalar?_holds read notText fun zone => noZone (congrArg _ zone)
  | array origin element =>
    rw [Postgres.decode?] at read
    obtain ⟨cells, -, read⟩ := Option.bind_eq_some_iff.mp read
    obtain ⟨items, -, rfl⟩ := Option.map_eq_some_iff.mp read
    exact .array items
  | domain base ih => exact ih read notText noZone
  | enum => exact absurd rfl notText

theorem tag_of_base_uuid (identifier : type.base = .scalar .uuid) : type.tag = .string := by
  induction type with
  | domain base ih => exact ih identifier
  | scalar s =>
    cases identifier
    rfl
  | array | enum => cases identifier

theorem decode?_uuid (identifier : type.base = .scalar .uuid) (read : decode? type octets = some v) :
    ∃ u, v = .uuid u := by
  induction type with
  | domain base ih => exact ih identifier read
  | scalar s =>
    cases identifier
    obtain ⟨u, -, rfl⟩ := Option.map_eq_some_iff.mp read
    exact ⟨u, rfl⟩
  | array | enum => cases identifier

/-- **What is read from a column has the shape of the column's tag**, whatever arrays,
domains and enumerations the type is made of, just if it is no identifier and, where a text
is to be read, the octets are one. An identifier is reported as a text, and its text is what
the tag makes of it. Octets that are no text are what was read in the place of one. -/
theorem decoded_values_under_tags (type : PgType) (octets : List UInt8) (v : Value)
    (read : decode? type octets = some v) :
    (type.base ≠ .scalar .timetz → (type.tag.coerce v = .ok v ↔
      type.base ≠ .scalar .uuid ∧ (type.IsText → ∃ s, utf8Text? octets = some s))) ∧
    (type.base = .scalar .uuid →
      ∃ u : Uuid, v = .uuid u ∧ type.tag.coerce v = .ok (.text (.ofList u.text))) ∧
    (type.IsText → utf8Text? octets = none →
      v = .bytes octets ∧ type.tag.coerce v = .ok (.text v.toText)) := by
  have identifiers : type.base = .scalar .uuid →
      ∃ u : Uuid, v = .uuid u ∧ type.tag.coerce v = .ok (.text (.ofList u.text)) := by
    intro identifier
    obtain ⟨u, rfl⟩ := decode?_uuid identifier read
    exact ⟨u, rfl, by rw [tag_of_base_uuid identifier]; rfl⟩
  have noText : type.IsText → utf8Text? octets = none →
      v = .bytes octets ∧ type.tag.coerce v = .ok (.text v.toText) := by
    intro text unread
    have kept := read.symm.trans (text.decode? octets)
    simp only [textOrOctets, unread] at kept
    cases kept
    exact ⟨rfl, by rw [text.1]; rfl⟩
  refine ⟨fun noZone => ?_, identifiers, noText⟩
  by_cases identifier : type.base = .scalar .uuid
  · obtain ⟨u, rfl, shape⟩ := identifiers identifier
    refine iff_of_false ?_ fun other => other.1 identifier
    rw [shape]
    rintro ⟨⟩
  by_cases text : type.IsText
  · cases spelled : utf8Text? octets with
    | none =>
      obtain ⟨rfl, shape⟩ := noText text spelled
      refine iff_of_false ?_ fun known => by cases known.2 text with | intro s h => cases h
      rw [shape]
      rintro ⟨⟩
    | some s =>
      have same := read.symm.trans (text.decode? octets)
      simp only [textOrOctets, spelled] at same
      cases same
      refine iff_of_true ?_ ⟨identifier, fun _ => ⟨s, rfl⟩⟩
      rw [text.1]
      rfl
  · have other : type.tag ≠ .string := fun tag => text ⟨tag, identifier⟩
    exact iff_of_true (holds_of_decode? read other noZone).coerce ⟨identifier, fun is => absurd is text⟩

theorem utf8Text?_255 : utf8Text? [255] = none := by decide +kernel

/-- A domain over lists of enumerated names, with a `NULL` among them and octets that are
no name. -/
theorem decoded_values_under_tags_listed :
    let type : PgType := .domain (.array .made .enum)
    let octets : List UInt8 := [0, 0, 0, 1, 0, 0, 0, 1, 0, 1, 134, 159, 0, 0, 0, 2, 0, 0, 0, 1,
      255, 255, 255, 255, 0, 0, 0, 1, 255]
    let v : Value := .array [.null, .bytes [255]]
    decode? type octets = some v ∧ type.base ≠ .scalar .timetz ∧ type.tag.coerce v = .ok v := by
  intro type octets v
  have cells : arrayCells? octets = some [none, some [255]] := by decide +kernel
  have read : decode? type octets = some v := by
    simp only [type, Postgres.decode?, cells, cellValues?, textOrOctets, utf8Text?_255,
      Option.bind_eq_bind, Option.bind_some, Option.map_some]
    rfl
  have noZone : type.base ≠ .scalar .timetz := by decide
  have notText : ¬type.IsText := by
    rintro ⟨⟨⟩, -⟩
  exact ⟨read, noZone, ((decoded_values_under_tags type octets v read).1 noZone).mpr
    ⟨by decide, fun text => absurd text notText⟩⟩

/-- What is read and has another shape than the tag's. An identifier under the tag of texts
and octets that are no text under the same tag are kept as they are on purpose. A time with
a zone is not: it is reported as a time, but no reader of times reads it, and its octets are
taken for a text. -/
theorem decoded_values_outside_tags :
    let u : Uuid := ⟨List.replicate 16 17, by decide⟩
    let zeros : Value := .text (.ofList (List.replicate 12 (Char.ofNat 0)))
    (decode? (.scalar .uuid) (List.replicate 16 17) = some (.uuid u) ∧
      (PgType.scalar .uuid).tag.coerce (.uuid u) ≠ .ok (.uuid u)) ∧
    (decode? (.scalar .text) [255] = some (.bytes [255]) ∧
      (PgType.scalar .text).tag.coerce (.bytes [255]) ≠ .ok (.bytes [255])) ∧
    (decode? (.scalar .timetz) (List.replicate 12 0) = some zeros ∧
      (PgType.scalar .timetz).tag.coerce zeros ≠ .ok zeros) := by
  intro u zeros
  have spelled : utf8Text? (List.replicate 12 0) = some (.ofList (List.replicate 12 (Char.ofNat 0))) := by
    decide +kernel
  refine ⟨⟨rfl, ?_⟩, ⟨?_, ?_⟩, ⟨?_, ?_⟩⟩
  · rintro ⟨⟩
  · simp only [Postgres.decode?, decodeScalar?, textOrOctets, utf8Text?_255]
  · rintro ⟨⟩
  · simp only [Postgres.decode?, decodeScalar?, textOrOctets, spelled, zeros]
  · intro same
    have held : SqlType.time.Holds (.text _) := SqlType.coerce_holds same rfl
    cases held

end SqlBind.Postgres
