/-
Whole numbers that must fit a machine word. A number outside the word's range is
refused, never wrapped.
-/
import SqlBind.Number.Power

namespace SqlBind

/-- The sixty-four-bit integer equal to `n`, if there is one. -/
def int64? (n : Int) : Option Int64 :=
  if -2 ^ 63 ≤ n ∧ n < 2 ^ 63 then some (.ofInt n) else none

theorem int64?_toInt (n : Int64) : int64? n.toInt = some n := by
  have low := n.le_toInt
  have high := n.toInt_lt
  simp only [int64?, Int64.ofInt_toInt]
  rw [if_pos ⟨low, high⟩]

theorem toInt_of_int64? {n : Int} {w : Int64} (h : int64? n = some w) : w.toInt = n := by
  unfold int64? at h
  split at h
  · next range =>
    cases h
    exact Int64.toInt_ofInt_of_le range.1 range.2
  · cases h

end SqlBind
