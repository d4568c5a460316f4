/-
Quotients of natural numbers rounded to a whole number. Every rounding of the
library is one call of `roundDiv`: reading a numeral, fitting a number into a
binary format, cutting a decimal to fewer places.
-/
import SqlBind.Number.Power

namespace SqlBind

/-- Where a quotient goes that lies half way between two whole numbers. -/
inductive Tie where
  | toEven
  | awayFromZero
  deriving DecidableEq, Repr

/-- The whole number nearest to `num / den`; an exact half goes as `tie` says. -/
def roundDiv (tie : Tie) (num den : Nat) : Nat :=
  let low := num / den
  let rest := num % den
  if 2 * rest < den then low
  else if den < 2 * rest then low + 1
  else match tie with
    | .awayFromZero => low + 1
    | .toEven => if low % 2 = 0 then low else low + 1

theorem roundDiv_one (tie : Tie) (n : Nat) : roundDiv tie n 1 = n := by
  simp [roundDiv, Nat.mod_one]

/-- A whole quotient is not moved. -/
theorem roundDiv_mul (tie : Tie) (n den : Nat) (h : 0 < den) :
    roundDiv tie (n * den) den = n := by
  simp [roundDiv, Nat.mul_div_cancel _ h, h]

theorem roundDiv_le (tie : Tie) (num den : Nat) : roundDiv tie num den ≤ num / den + 1 := by
  cases tie with
  | awayFromZero =>
    simp only [roundDiv]
    split
    · omega
    · split <;> omega
  | toEven =>
    simp only [roundDiv]
    split
    · omega
    · split
      · omega
      · split <;> omega

end SqlBind
