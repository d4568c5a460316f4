/-
Documents and values. A number of a document is a whole number of at most sixty-four
bits, with or without sign, or a finite float (`Document`). The value of such a
document has a document of its own, not always the same, of which the value is the
same again (`ofJson_toJson`).
-/
import SqlBind.Value

namespace SqlBind

/-- A document whose numbers are numbers that documents have. -/
inductive Json.Document : Json → Prop
  | null : Document .null
  | bool (b : Bool) : Document (.bool b)
  | int {n : Int} (low : -2 ^ 63 ≤ n) (high : n < 2 ^ 64) : Document (.int n)
  | float {x : Double} (finite : x.isFinite = true) : Document (.float x)
  | str (s : String) : Document (.str s)
  | arr {items : List Json} (all : ∀ j ∈ items, Document j) : Document (.arr items)
  | obj {members : List (String × Json)} (all : ∀ m ∈ members, Document m.2) : Document (.obj members)

namespace Value

theorem toJson_float {x : Double} (finite : x.isFinite = true) : (Value.float x).toJson = .float x :=
  if_pos finite

mutual

theorem ofJson_toJson : ∀ {j : Json}, j.Document → ofJson (ofJson j).toJson = ofJson j
  | .null, _ | .bool _, _ | .str _, _ | .obj _, _ => rfl
  | .int n, .int low high => by
    cases word : int64? n with
    | some w =>
      have same : ofJson (.int n) = .int w := by rw [ofJson, word]
      rw [same, toJson, ofJson, int64?_toInt]
    | none =>
      have same : ofJson (.int n) = .float (.ofInt n) := by rw [ofJson, word]
      have large : 2 ^ 63 ≤ n := by
        rw [int64?] at word
        split at word
        · cases word
        · omega
      rw [same, toJson_float (Double.isFinite_ofInt large high), ofJson]
  | .float x, .float finite => by rw [ofJson, toJson_float finite, ofJson]
  | .arr items, .arr all => congrArg Value.array (ofJsonList_toJsonList all)

theorem ofJsonList_toJsonList : ∀ {items : List Json}, (∀ j ∈ items, j.Document) →
    ofJsonList (toJsonList (ofJsonList items)) = ofJsonList items
  | [], _ => rfl
  | j :: items, all => by
    have first := ofJson_toJson (all j List.mem_cons_self)
    have others := ofJsonList_toJsonList fun j mem => all j (List.mem_cons_of_mem _ mem)
    rw [ofJsonList, toJsonList, ofJsonList, first, others]

end

/-- Only an object's value has an object for its document. -/
theorem toJson_plain {j : Json} (document : j.Document) (plain : ∀ members, j ≠ .obj members) :
    ∀ members, (ofJson j).toJson ≠ .obj members := by
  intro members same
  have value := ofJson_toJson document
  rw [same, ofJson] at value
  cases j with
  | obj members => exact plain members rfl
  | int n =>
    rw [ofJson] at value
    split at value <;> cases value
  | _ => cases value

end Value
end SqlBind
