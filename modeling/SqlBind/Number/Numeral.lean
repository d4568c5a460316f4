/-
Decimal numerals of natural and whole numbers, most significant digit first.
Printing and reading agree: `value_ofNat` says that the digits printed for a
number denote it, and `ofNat_all_isDigit` that nothing but digits is printed.
-/
import SqlBind.Number.Power

namespace SqlBind.Numeral

/-- The character of a digit below ten. -/
def digitChar (d : Nat) : Char := Char.ofNat (48 + d)

/-- One of the ten ASCII digits. -/
def isDigit (c : Char) : Bool := 48 ≤ c.toNat && c.toNat ≤ 57

/-- What a digit counts. -/
def digitValue (c : Char) : Nat := c.toNat - 48

/-- The shortest numeral of a number: no leading zero, but `0` for zero. -/
def ofNat (n : Nat) : List Char :=
  if n < 10 then [digitChar n] else ofNat (n / 10) ++ [digitChar (n % 10)]

/-- A numeral filled up with zeros on the left to at least `width` digits. -/
def padded (width n : Nat) : List Char :=
  let digits := ofNat n
  List.replicate (width - digits.length) '0' ++ digits

/-- A whole number, with a minus sign if it is negative. -/
def ofInt : Int → List Char
  | .ofNat n => ofNat n
  | .negSucc n => '-' :: ofNat (n + 1)

/-- What a row of digits denotes, read after `high` has been read. -/
def valueFrom (high : Nat) (digits : List Char) : Nat :=
  digits.foldl (fun acc c => acc * 10 + digitValue c) high

/-- What a row of digits denotes. -/
def value (digits : List Char) : Nat := valueFrom 0 digits

/-- A numeral that is a non-empty row of digits and nothing else. -/
def read? (cs : List Char) : Option Nat :=
  if cs.isEmpty || !cs.all isDigit then none else some (value cs)

/-- The leading digits of a text and what follows them. -/
def span (cs : List Char) : List Char × List Char :=
  (cs.takeWhile isDigit, cs.dropWhile isDigit)

theorem digitChar_toNat {d : Nat} (h : d < 10) : (digitChar d).toNat = 48 + d := by
  have : d = 0 ∨ d = 1 ∨ d = 2 ∨ d = 3 ∨ d = 4 ∨ d = 5 ∨ d = 6 ∨ d = 7 ∨ d = 8 ∨ d = 9 := by
    omega
  rcases this with h | h | h | h | h | h | h | h | h | h <;> subst h <;> rfl

theorem digitValue_digitChar {d : Nat} (h : d < 10) : digitValue (digitChar d) = d := by
  simp [digitValue, digitChar_toNat h]

theorem isDigit_digitChar {d : Nat} (h : d < 10) : isDigit (digitChar d) = true := by
  simp only [isDigit, digitChar_toNat h, Bool.and_eq_true, decide_eq_true_eq]
  omega

theorem value_append_digit (ds : List Char) (c : Char) :
    value (ds ++ [c]) = value ds * 10 + digitValue c := by
  simp [value, valueFrom, List.foldl_append]

/-- The numeral printed for a number denotes it. -/
theorem value_ofNat (n : Nat) : value (ofNat n) = n := by
  induction n using Nat.strongRecOn with
  | ind n ih =>
    rw [ofNat]
    split
    · next h => simp [value, valueFrom, digitValue_digitChar h]
    · next h =>
      rw [value_append_digit, ih (n / 10) (by omega),
        digitValue_digitChar (Nat.mod_lt _ (by omega))]
      omega

/-- A printed numeral holds digits only. -/
theorem ofNat_all_isDigit (n : Nat) : (ofNat n).all isDigit = true := by
  induction n using Nat.strongRecOn with
  | ind n ih =>
    rw [ofNat]
    split
    · next h => simp [isDigit_digitChar h]
    · next h =>
      simp [ih (n / 10) (by omega), isDigit_digitChar (Nat.mod_lt n (by omega : 0 < 10))]

theorem ofNat_ne_nil (n : Nat) : ofNat n ≠ [] := by
  rw [ofNat]
  split <;> simp

/-- Reading a printed numeral gives the number back. -/
theorem read?_ofNat (n : Nat) : read? (ofNat n) = some n := by
  simp [read?, ofNat_ne_nil, ofNat_all_isDigit, value_ofNat]

theorem valueFrom_append (high : Nat) (ds es : List Char) :
    valueFrom high (ds ++ es) = valueFrom (valueFrom high ds) es :=
  List.foldl_append

end SqlBind.Numeral
