/-
Rows of digits in text. A number that is filled up to a width has as many digits as
asked for if it is not too long for them, and denotes the same; and digits are told
apart from all that follows them.
-/
import SqlBind.Number.Numeral
import SqlBind.Text.Blank

namespace SqlBind.Numeral

/-- A numeral is read if it is digits and nothing else, and at least one. -/
theorem read?_eq_some_iff {ds : List Char} {n : Nat} :
    read? ds = some n ↔ ds ≠ [] ∧ ds.all isDigit = true ∧ value ds = n := by
  rw [read?]
  constructor
  · intro h
    split at h
    · cases h
    · rename_i digits
      simp only [Bool.or_eq_true, List.isEmpty_iff, Bool.not_eq_true', not_or,
        Bool.not_eq_false] at digits
      exact ⟨digits.1, digits.2, Option.some.inj h⟩
  · rintro ⟨some, digits, rfl⟩
    rw [if_neg (by simp [some, digits])]

theorem le_valueFrom (high : Nat) (ds : List Char) : high ≤ valueFrom high ds := by
  induction ds generalizing high with
  | nil => exact Nat.le_refl high
  | cons c rest ih =>
    have digit := ih (high * 10 + digitValue c)
    have more : valueFrom high (c :: rest) = valueFrom (high * 10 + digitValue c) rest := rfl
    omega

theorem length_ofNat_le {width n : Nat} (positive : 0 < width) (h : n < 10 ^ width) :
    (ofNat n).length ≤ width := by
  induction width generalizing n with
  | zero => cases positive
  | succ width ih =>
    rw [ofNat]
    split
    · simp
    · next long =>
      have wide : 0 < width := by
        rcases Nat.eq_zero_or_pos width with rfl | wide
        · omega
        · exact wide
      have rest := ih wide (n := n / 10) (by rw [Nat.pow_succ] at h; omega)
      simp only [List.length_append, List.length_singleton]
      omega

/-- A number that needs no more digits than asked for is written with just as many. -/
theorem length_padded {width n : Nat} (positive : 0 < width) (h : n < 10 ^ width) :
    (padded width n).length = width := by
  have fits := length_ofNat_le positive h
  simp only [padded, List.length_append, List.length_replicate]
  omega

theorem le_length_padded (width n : Nat) : width ≤ (padded width n).length := by
  simp only [padded, List.length_append, List.length_replicate]
  omega

theorem all_isDigit_padded (width n : Nat) : (padded width n).all isDigit = true := by
  have zeros : (List.replicate (width - (ofNat n).length) '0').all isDigit = true := by
    rw [List.all_replicate]
    split <;> rfl
  simp only [padded, List.all_append, zeros, ofNat_all_isDigit, Bool.and_self]

theorem value_padded (width n : Nat) : value (padded width n) = n := by
  have zeros (k : Nat) : valueFrom 0 (List.replicate k '0') = 0 := by
    induction k with
    | zero => rfl
    | succ k ih => exact ih
  simp only [padded, value, valueFrom_append, zeros]
  exact value_ofNat n

theorem takeWhile_isDigit {ds : List Char} (digits : ds.all isDigit = true) (rest : List Char) :
    (ds ++ rest).takeWhile isDigit = ds ++ rest.takeWhile isDigit :=
  List.takeWhile_append_of_pos (List.all_eq_true.mp digits)

/-- Digits are told apart from what follows them. -/
theorem span_append {ds rest : List Char} (digits : ds.all isDigit = true)
    (stops : ∀ c ∈ rest.head?, isDigit c = false) : span (ds ++ rest) = (ds, rest) := by
  have dropped : (ds ++ rest).dropWhile isDigit = rest.dropWhile isDigit :=
    List.dropWhile_append_of_pos (List.all_eq_true.mp digits)
  rw [span, takeWhile_isDigit digits, dropped]
  cases rest with
  | nil => rw [List.takeWhile_nil, List.append_nil, List.dropWhile_nil]
  | cons c rest =>
    have other : ¬isDigit c = true := by
      rw [stops c rfl]
      decide
    rw [List.takeWhile_cons_of_neg other, List.dropWhile_cons_of_neg other, List.append_nil]

section
variable {width n : Nat}

theorem take_padded (positive : 0 < width) (h : n < 10 ^ width) (rest : List Char) :
    (padded width n ++ rest).take width = padded width n := by
  rw [List.take_append_of_le_length (le_length_padded width n)]
  exact List.take_of_length_le (Nat.le_of_eq (length_padded positive h))

theorem drop_padded (positive : 0 < width) (h : n < 10 ^ width) (rest : List Char) :
    (padded width n ++ rest).drop width = rest := by
  have short := Nat.le_of_eq (length_padded positive h)
  rw [List.drop_append, List.drop_of_length_le short, length_padded positive h, Nat.sub_self]
  rfl

theorem padded_ne_nil (positive : 0 < width) (n : Nat) : padded width n ≠ [] := by
  intro empty
  have long := le_length_padded width n
  rw [empty, List.length_nil] at long
  omega

theorem isDigit_of_padded (positive : 0 < width) {rest : List Char} {c : Char}
    (mem : c ∈ (padded width n ++ rest).head?) : isDigit c = true := by
  have digits := List.all_eq_true.mp (all_isDigit_padded width n)
  cases shown : padded width n with
  | nil => exact absurd shown (padded_ne_nil positive n)
  | cons first more =>
    rw [shown] at mem digits
    cases mem
    exact digits _ List.mem_cons_self

theorem isBlank_of_isDigit {c : Char} (h : isDigit c = true) : Text.isBlank c = false := by
  simp only [isDigit, Bool.and_eq_true, decide_eq_true_eq] at h
  simp only [Text.isBlank, Bool.or_eq_false_iff, Bool.and_eq_false_imp, beq_eq_false_iff_ne,
    decide_eq_true_eq, decide_eq_false_iff_not]
  omega

theorem not_blank_of_mem_padded {c : Char} (mem : c ∈ padded width n) : Text.isBlank c = false :=
  isBlank_of_isDigit (List.all_eq_true.mp (all_isDigit_padded width n) c mem)

end
end SqlBind.Numeral
