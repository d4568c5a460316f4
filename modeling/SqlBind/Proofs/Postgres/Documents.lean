/-
Documents on their way to the wire. What is sent for a document, under a tag of
documents or in a list, is the document as it comes out of the value it is unpacked
into. So it is sent unchanged just if it is unpacked without loss, which a whole number
of `2 ^ 63` or more is only inside an object (`documents_bound_unchanged_iff`).
-/
import SqlBind.Config
import SqlBind.Proofs.Arg.Wire
import SqlBind.Proofs.Json.Rounded
import SqlBind.Proofs.Postgres.Coercion
import SqlBind.Proofs.Postgres.RoundTrip

namespace SqlBind

open Postgres

namespace JsonType

/-- The type of a parameter that takes documents. -/
def parameter : JsonType → PgType
  | json => .scalar .json
  | jsonb => .scalar .jsonb

/-- The octets of a document: its text, after a version in binary form. -/
def octets : JsonType → Json → List UInt8
  | json, j => utf8 j.compact
  | jsonb, j => 1 :: utf8 j.compact

/-- What is sent for a document that stands alone: `null` is `NULL`. -/
def cell (type : JsonType) : Json → Cell
  | .null => none
  | j => some (type.octets j)

theorem cell_of_ne_null (type : JsonType) {j : Json} (present : j ≠ .null) :
    type.cell j = some (type.octets j) := by
  cases j with
  | null => exact absurd rfl present
  | _ => rfl

theorem type_scalar (type : JsonType) : type.type ≠ .array := by
  cases type <;> decide

theorem coercePresent (type : JsonType) (v : Value) :
    Coercion.coercePresent type.type v = .ok (.json v.toJson) := by
  cases type <;> rfl

theorem encode_present (type : JsonType) {v : Value} (present : v.isNull = false) :
    encode type.parameter v = .ok (some (type.octets v.toJson)) := by
  cases type <;> rw [parameter, encode, if_neg (by simp [present])] <;> rfl

/-- A document that is not coerced first is sent as its value is unpacked. -/
theorem encode_ofJson (type : JsonType) {j : Json} (document : j.Document) :
    encode type.parameter (.ofJson j) = .ok (type.cell j.rounded) := by
  by_cases null : j = .null
  · subst null
    exact encode_null type.parameter
  · rw [encode_present type (Value.isNull_ofJson null), Value.toJson_ofJson document,
      cell_of_ne_null type (Json.rounded_ne_null null)]

/-- A document under a tag is unpacked and packed again before it is sent. -/
theorem ofJson_tagged (type : JsonType) {j : Json} (document : j.Document) (present : j ≠ .null) :
    Arg.ofJson (.obj [(type.type.tag, j)]) = .ok (.ofType type.type (.json j.rounded)) := by
  rw [Arg.ofJson_tag, Arg.ofTagged_scalar type.type_scalar, Arg.coerced,
    coerce_present (Value.isNull_ofJson present), coercePresent, Value.toJson_ofJson document]
  rfl

theorem encodeArg_tagged (type : JsonType) (j : Json) :
    encodeArg type.parameter (.ofType type.type (.json j)) = .ok (some (type.octets j)) := by
  have shape : shaped type.type (.json j) = .ok (.json j) := by
    rw [shaped, coerce_present rfl, coercePresent]
    rfl
  rw [Arg.ofType, encodeArg, shape]
  exact encode_present type rfl

/-- The elements of a list of documents are sent one by one. -/
theorem encode_items (type : JsonType) {items : List Json} (all : ∀ j ∈ items, j.Document) :
    (Value.ofJsonList items).mapM (encode type.parameter) =
      .ok (items.map fun j => type.cell j.rounded) := by
  induction items with
  | nil => rfl
  | cons j rest ih =>
    have others := ih fun j mem => all j (List.mem_cons_of_mem _ mem)
    rw [Value.ofJsonList, List.mapM_cons, encode_ofJson type (all j List.mem_cons_self), others]
    rfl

end JsonType

/-- **A document is bound unchanged just if its whole numbers outside objects are below
`2 ^ 63`.** In place of a greater one its value, and with it whatever is made of its
value, has the nearest float: what either tag of documents carries and has sent, the
list that an untagged list is sent as, and the elements that are sent for it as an array
of documents. -/
theorem documents_bound_unchanged_iff {j : Json} (document : j.Document) :
    (Value.ofJson j).toJson = j.rounded ∧
    ((Value.ofJson j).toJson = j ↔ ∀ n ∈ j.openNumbers, n < 2 ^ 63) ∧
    ∀ type : JsonType,
      (j ≠ .null →
        Arg.ofJson (.obj [(type.type.tag, j)]) = .ok (.ofType type.type (.json j.rounded)) ∧
        encodeArg type.parameter (.ofType type.type (.json j.rounded)) =
          .ok (some (type.octets j.rounded))) ∧
      ∀ items, j = .arr items →
        Arg.ofJson j = .ok (.raw (.ofJson j)) ∧
        encodeArg type.parameter (.raw (.ofJson j)) = .ok (some (type.octets j.rounded)) ∧
        (Postgres.items (.ofJson j)).mapM (encode type.parameter) =
          .ok (items.map fun item => type.cell item.rounded) := by
  have unpacked := Value.toJson_ofJson document
  refine ⟨unpacked, unpacked ▸ Json.rounded_eq_iff j, fun type => ⟨fun present =>
    ⟨type.ofJson_tagged document present, type.encodeArg_tagged j.rounded⟩, ?_⟩⟩
  rintro items rfl
  cases document with | arr all =>
  refine ⟨rfl, ?_, type.encode_items all⟩
  rw [encodeArg, type.encode_present rfl, Value.toJson_ofJson (.arr all)]

/-- A list with the least and the greatest signed word, minus zero, a list of `NULL`, and
the greatest unsigned word inside an object. -/
theorem documents_bound_unchanged_iff_nested :
    let j : Json := .arr [.int (-2 ^ 63), .int (2 ^ 63 - 1), .float ⟨0x8000000000000000⟩,
      .arr [.null], .obj [("n", .int (2 ^ 64 - 1))]]
    j.Document ∧ (Value.ofJson j).toJson = j ∧
      (j ≠ .null ∧ Arg.ofJson (.obj [("JSONB", j)]) = .ok (.ofType .jsonb (.json j))) ∧
      encodeArg (.scalar .json) (.raw (.ofJson j)) = .ok (some (utf8 j.compact)) := by
  intro j
  have document : j.Document := by
    refine .arr fun item mem => ?_
    simp only [List.mem_cons, List.not_mem_nil, or_false] at mem
    rcases mem with rfl | rfl | rfl | rfl | rfl
    · exact .int (by decide) (by decide)
    · exact .int (by decide) (by decide)
    · exact .float (by decide)
    · exact .arr fun item mem => List.mem_singleton.mp mem ▸ .null
    · exact .obj fun m mem => List.mem_singleton.mp mem ▸ .int (by decide) (by decide)
  obtain ⟨unpacked, unchanged, sent⟩ := documents_bound_unchanged_iff document
  have same : (Value.ofJson j).toJson = j := unchanged.mpr (by decide)
  have exact : j.rounded = j := unpacked.symm.trans same
  have present : j ≠ .null := by simp [j]
  have tagged := ((sent .jsonb).1 present).1
  have listed := ((sent .json).2 _ rfl).2.1
  rw [exact] at tagged listed
  exact ⟨document, same, ⟨present, tagged⟩, listed⟩

/-- The greatest unsigned word comes out as `2 ^ 64`, alone and in a list, though not in
an object. -/
theorem document_rounded_open :
    let n : Json := .int (2 ^ 64 - 1)
    let other : Json := .float ⟨0x43f0000000000000⟩
    n.Document ∧ (Value.ofJson n).toJson = other ∧ (Value.ofJson n).toJson ≠ n ∧
      Arg.ofJson (.obj [("JSON", n)]) = .ok (.ofType .json (.json other)) ∧
      Arg.ofJson (.obj [("JSON", .arr [n])]) = .ok (.ofType .json (.json (.arr [other]))) ∧
      Arg.ofJson (.obj [("JSON", .obj [("n", n)])]) =
        .ok (.ofType .json (.json (.obj [("n", n)]))) := by
  intro n other
  have unpacked : (Value.ofJson n).toJson = other := rfl
  have apart : other ≠ n := by simp [n, other]
  exact ⟨.int (by decide) (by decide), unpacked, fun same => apart (unpacked.symm.trans same),
    rfl, rfl, rfl⟩

end SqlBind
