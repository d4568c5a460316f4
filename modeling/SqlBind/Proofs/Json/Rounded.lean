/-
Documents that are unpacked into values and packed again. An object is kept as it
stands; lists and what they hold are taken apart, and there a whole number has to be a
signed word, or a float stands for it (`toJson_ofJson`). So a document comes out as it
went in just if its whole numbers outside objects are below `2 ^ 63` (`rounded_eq_iff`).
-/
import SqlBind.Proofs.Json.Document

namespace SqlBind

namespace Json

mutual

/-- The whole numbers of a document that stand in none of its objects. -/
def openNumbers : Json → List Int
  | .int n => [n]
  | .arr items => openNumbersOf items
  | _ => []

/-- The same of a list of documents. -/
def openNumbersOf : List Json → List Int
  | [] => []
  | j :: rest => j.openNumbers ++ openNumbersOf rest

end

mutual

/-- The document with the nearest float in place of every whole number above signed
words, but for those in objects. -/
def rounded : Json → Json
  | .int n => if n < 2 ^ 63 then .int n else .float (.ofInt n)
  | .arr items => .arr (roundedList items)
  | j => j

def roundedList : List Json → List Json
  | [] => []
  | j :: rest => j.rounded :: roundedList rest

end

theorem rounded_ne_null {j : Json} (present : j ≠ .null) : j.rounded ≠ .null := by
  cases j with
  | int n =>
    rw [rounded]
    split <;> rintro ⟨⟩
  | arr items => rintro ⟨⟩
  | _ => exact present

mutual

/-- **Nothing is rounded just if no whole number outside objects is above signed words.** -/
theorem rounded_eq_iff : ∀ j : Json, j.rounded = j ↔ ∀ n ∈ j.openNumbers, n < 2 ^ 63
  | .int n => by
    rw [rounded, openNumbers, List.forall_mem_singleton]
    split
    · exact iff_of_true rfl ‹_›
    · exact iff_of_false (by rintro ⟨⟩) ‹_›
  | .arr items => by
    rw [rounded, openNumbers, ← roundedList_eq_iff items, Json.arr.injEq]
  | .null | .bool _ | .float _ | .str _ | .obj _ => iff_of_true rfl (by simp [openNumbers])

theorem roundedList_eq_iff : ∀ items : List Json,
    roundedList items = items ↔ ∀ n ∈ openNumbersOf items, n < 2 ^ 63
  | [] => iff_of_true rfl (by simp [openNumbersOf])
  | j :: rest => by
    rw [roundedList, openNumbersOf, List.cons.injEq, rounded_eq_iff j, roundedList_eq_iff rest,
      List.forall_mem_append]

end

end Json

namespace Value

mutual

/-- **The document of a document's value** is the document with its large open numbers
rounded. -/
theorem toJson_ofJson : ∀ {j : Json}, j.Document → (ofJson j).toJson = j.rounded
  | .null, _ | .bool _, _ | .str _, _ | .obj _, _ => rfl
  | .int n, .int low high => by
    rw [ofJson, Json.rounded, int64?]
    by_cases word : n < 2 ^ 63
    · rw [if_pos ⟨low, word⟩, if_pos word]
      exact congrArg Json.int (Int64.toInt_ofInt_of_le low word)
    · rw [if_neg fun both => word both.2, if_neg word]
      exact toJson_float (Double.isFinite_ofInt (by omega) high)
  | .float x, .float finite => toJson_float finite
  | .arr items, .arr all => congrArg Json.arr (toJsonList_ofJsonList all)

theorem toJsonList_ofJsonList : ∀ {items : List Json}, (∀ j ∈ items, j.Document) →
    toJsonList (ofJsonList items) = Json.roundedList items
  | [], _ => rfl
  | j :: items, all => by
    have first := toJson_ofJson (all j List.mem_cons_self)
    have others := toJsonList_ofJsonList fun j mem => all j (List.mem_cons_of_mem _ mem)
    rw [ofJsonList, toJsonList, Json.roundedList, first, others]

end

theorem isNull_ofJson {j : Json} (present : j ≠ .null) : (ofJson j).isNull = false := by
  cases j with
  | null => exact absurd rfl present
  | int n =>
    rw [ofJson]
    split <;> rfl
  | _ => rfl

end Value
end SqlBind
