/-
The doubles nearest to whole numbers. A double has fifty-three significant bits, so a
whole number of more is rounded to a multiple of the power of two that is too much
(`nearest`), and one of no more is kept. That multiple is what the double denotes
(`floor_ofRatio`): with the bits of the double counted in its last place, the number
is compared with what the bits denote, both in units of the least double, so no
fraction is needed.
-/
import SqlBind.Number.Double

namespace SqlBind

theorem le_roundDiv (tie : Tie) (num den : Nat) : num / den ≤ roundDiv tie num den := by
  cases tie with
  | awayFromZero =>
    simp only [roundDiv]
    split
    · omega
    · split <;> omega
  | toEven =>
    simp only [roundDiv]
    split
    · omega
    · split
      · omega
      · split <;> omega

/-- The bits of a number that a double has no place for. -/
def excess (n : Nat) : Nat := n.log2 - 52

/-- The whole number that the double nearest to `n` denotes. -/
def nearest (n : Nat) : Nat := roundDiv .toEven n (2 ^ excess n) * 2 ^ excess n

/-! ## Which numbers are kept -/

theorem nearest_zero : nearest 0 = 0 := rfl

/-- A number is kept just if the bits too many are zeros. -/
theorem nearest_eq_iff (n : Nat) : nearest n = n ↔ 2 ^ excess n ∣ n := by
  constructor
  · intro same
    exact ⟨roundDiv .toEven n (2 ^ excess n), by rw [Nat.mul_comm]; exact same.symm⟩
  · rintro ⟨k, whole⟩
    have kept := roundDiv_mul .toEven k (2 ^ excess n) (Nat.two_pow_pos _)
    rw [Nat.mul_comm, ← whole] at kept
    rw [nearest, kept, Nat.mul_comm]
    exact whole.symm

/-- The leading fifty-three bits, rounded, are a significand of a double. -/
theorem significand_bounds {n : Nat} (long : 52 ≤ n.log2) :
    2 ^ 52 ≤ roundDiv .toEven n (2 ^ excess n) ∧ roundDiv .toEven n (2 ^ excess n) ≤ 2 ^ 53 := by
  have positive : n ≠ 0 := by
    rintro rfl
    exact absurd long (by decide)
  obtain ⟨low, high⟩ := (Nat.log2_eq_iff positive).mp rfl
  have below := le_roundDiv .toEven n (2 ^ excess n)
  have above := roundDiv_le .toEven n (2 ^ excess n)
  have leastQuotient : 2 ^ 52 ≤ n / 2 ^ excess n := by
    rw [Nat.le_div_iff_mul_le (Nat.two_pow_pos _), ← Nat.pow_add]
    rwa [show 52 + excess n = n.log2 by rw [excess]; omega]
  have greatestQuotient : n / 2 ^ excess n < 2 ^ 53 := by
    rw [Nat.div_lt_iff_lt_mul (Nat.two_pow_pos _), ← Nat.pow_add]
    rwa [show 53 + excess n = n.log2 + 1 by rw [excess]; omega]
  omega

/-- Rounding does not take a number out of the word that holds it, but by one; and what
is past half of the first step above is beyond it. -/
theorem nearest_le_iff (n : Nat) : nearest n ≤ 2 ^ 63 ↔ n ≤ 2 ^ 63 + 1024 := by
  by_cases zero : n = 0
  · subst zero
    decide
  obtain ⟨low, high⟩ := (Nat.log2_eq_iff zero).mp rfl
  by_cases short : n.log2 < 63
  · have small : n < 2 ^ 63 :=
      Nat.lt_of_lt_of_le high (Nat.pow_le_pow_right (by decide) (by omega))
    refine iff_of_true ?_ (by omega)
    by_cases whole : n.log2 < 52
    · have none : excess n = 0 := by rw [excess]; omega
      rw [(nearest_eq_iff n).mpr (by rw [none]; exact Nat.one_dvd n)]
      omega
    · calc nearest n ≤ 2 ^ 53 * 2 ^ excess n :=
          Nat.mul_le_mul_right _ (significand_bounds (by omega)).2
        _ ≤ 2 ^ 53 * 2 ^ 10 :=
          Nat.mul_le_mul_left _ (Nat.pow_le_pow_right (by decide) (by rw [excess]; omega))
        _ = 2 ^ 63 := by decide
  · by_cases first : n.log2 = 63
    · have step : excess n = 11 := by rw [excess, first]
      rw [first] at low high
      rw [nearest, step]
      simp only [roundDiv]
      split
      · omega
      · split
        · omega
        · split <;> omega
    · have large : 2 ^ 64 ≤ n := Nat.le_trans (Nat.pow_le_pow_right (by decide) (by omega)) low
      refine iff_of_false ?_ (by omega)
      have least : 2 ^ 52 * 2 ^ 12 ≤ nearest n :=
        Nat.mul_le_mul (significand_bounds (by omega)).1
          (Nat.pow_le_pow_right (by decide) (by rw [excess]; omega))
      omega

/-! ## What the bits denote -/

namespace BinaryFormat

/-- The binary places that the least double has after the point. -/
def leastPlaces : Nat := 1074

theorem leastQuantum_binary64 : binary64.leastQuantum = -(leastPlaces : Int) := rfl

theorem leastPlaces_eq : leastPlaces = 1074 := rfl

theorem log2Ratio_one {n : Nat} (h : n ≠ 0) : log2Ratio n 1 = n.log2 := by
  have guess : (n.log2 : Int) - (Nat.log2 1 : Int) = n.log2 := by
    rw [show Nat.log2 1 = 0 from rfl]
    omega
  have low := ((Nat.log2_eq_iff h).mp rfl).1
  simp only [log2Ratio, guess, inUnits]
  refine if_pos ?_
  simpa using low

/-- The bits of the double nearest to a whole number: the exponent of its last place
and its significand, which denote that double in units of the least one. -/
theorem ofRatio_whole {n : Nat} (h : n ≠ 0) :
    ∃ significand, binary64.ofRatio n 1 =
        min binary64.infinity ((n.log2 + 1022) * 2 ^ 52 + significand) ∧
      2 ^ 52 ≤ significand ∧ significand ≤ 2 ^ 53 ∧
      significand * 2 ^ (n.log2 + 1022) = nearest n * 2 ^ leastPlaces := by
  have least : binary64.leastQuantum = -1074 := rfl
  have places := leastPlaces_eq
  have quantum : binary64.quantum n 1 = n.log2 - 52 := by
    rw [quantum, log2Ratio_one h, least]
    have bits : binary64.fractionBits = 52 := rfl
    rw [bits]
    omega
  have place : ((n.log2 - 52 : Int) - binary64.leastQuantum).toNat = n.log2 + 1022 := by
    rw [least]
    omega
  have bits : binary64.ofRatio n 1 = min binary64.infinity ((n.log2 + 1022) * 2 ^ 52 +
      roundDiv .toEven (n * 2 ^ (-(n.log2 - 52 : Int)).toNat) (1 * 2 ^ (n.log2 - 52 : Int).toNat)) := by
    simp only [ofRatio, if_neg h, quantum, inUnits, place]
    rfl
  refine ⟨_, bits, ?_⟩
  by_cases long : 52 ≤ n.log2
  · have up : (n.log2 - 52 : Int).toNat = excess n := by rw [excess]; omega
    have down : (-(n.log2 - 52 : Int)).toNat = 0 := by omega
    rw [up, down, Nat.pow_zero, Nat.mul_one, Nat.one_mul]
    obtain ⟨low, high⟩ := significand_bounds long
    have place : n.log2 + 1022 = excess n + leastPlaces := by rw [excess]; omega
    refine ⟨low, high, ?_⟩
    rw [nearest, Nat.mul_assoc, ← Nat.pow_add, place]
  · -- Nothing is rounded: the number is counted in a fraction of one.
    have up : (n.log2 - 52 : Int).toNat = 0 := by omega
    have down : (-(n.log2 - 52 : Int)).toNat = 52 - n.log2 := by omega
    have kept : nearest n = n := by
      rw [nearest_eq_iff, excess, show n.log2 - 52 = 0 by omega]
      exact Nat.one_dvd n
    obtain ⟨low, high⟩ := (Nat.log2_eq_iff h).mp rfl
    rw [up, down, Nat.pow_zero, Nat.mul_one, roundDiv_one, kept]
    refine ⟨?_, ?_, ?_⟩
    · calc 2 ^ 52 = 2 ^ n.log2 * 2 ^ (52 - n.log2) := by
            rw [← Nat.pow_add]
            congr 1
            omega
        _ ≤ n * 2 ^ (52 - n.log2) := Nat.mul_le_mul_right _ low
    · calc n * 2 ^ (52 - n.log2) ≤ 2 ^ (n.log2 + 1) * 2 ^ (52 - n.log2) :=
            Nat.mul_le_mul_right _ (Nat.le_of_lt high)
        _ = 2 ^ 53 := by
            rw [← Nat.pow_add]
            congr 1
            omega
    · have place : 52 - n.log2 + (n.log2 + 1022) = leastPlaces := by omega
      rw [Nat.mul_assoc, ← Nat.pow_add, place]

/-- What a magnitude denotes, in units of which its last place is a multiple. -/
theorem toRatio_units {f : BinaryFormat} {magnitude m exponent places : Nat}
    (parts : f.parts magnitude = (m, -(places : Int) + exponent)) :
    (f.toRatio magnitude).1 * 2 ^ places = (f.toRatio magnitude).2 * (m * 2 ^ exponent) := by
  have place : (-(places : Int) + exponent).toNat + places =
      (-(-(places : Int) + exponent)).toNat + exponent := by omega
  simp only [toRatio, parts]
  rw [Nat.mul_assoc, ← Nat.pow_add, Nat.mul_left_comm, ← Nat.pow_add, place]

theorem parts_bits (exponent : Nat) {fraction : Nat} (small : fraction < 2 ^ 52) :
    binary64.parts ((exponent + 1) * 2 ^ 52 + fraction) =
      (2 ^ 52 + fraction, -(leastPlaces : Int) + exponent) := by
  have width : binary64.fractionBits = 52 := rfl
  have quotient : ((exponent + 1) * 2 ^ 52 + fraction) / 2 ^ 52 = exponent + 1 := by omega
  have rest : ((exponent + 1) * 2 ^ 52 + fraction) % 2 ^ 52 = fraction := by omega
  simp only [parts, width, quotient, rest, if_neg (Nat.succ_ne_zero exponent),
    leastQuantum_binary64, Nat.add_sub_cancel]

/-- What bits denote, in units of the least double. -/
theorem toRatio_bits (place : Nat) {significand : Nat} (low : 2 ^ 52 ≤ significand)
    (high : significand ≤ 2 ^ 53) :
    (binary64.toRatio (place * 2 ^ 52 + significand)).1 * 2 ^ leastPlaces =
      (binary64.toRatio (place * 2 ^ 52 + significand)).2 * (significand * 2 ^ place) := by
  -- A significand of fifty-four bits is the least of the next exponent.
  obtain ⟨fraction, exponent, bits, small, denotes⟩ : ∃ fraction exponent,
      place * 2 ^ 52 + significand = (exponent + 1) * 2 ^ 52 + fraction ∧ fraction < 2 ^ 52 ∧
        (2 ^ 52 + fraction) * 2 ^ exponent = significand * 2 ^ place := by
    by_cases carry : significand = 2 ^ 53
    · refine ⟨0, place + 1, by omega, by decide, ?_⟩
      rw [carry, Nat.pow_succ]
      omega
    · refine ⟨significand - 2 ^ 52, place, by omega, by omega, ?_⟩
      rw [Nat.add_sub_cancel' low]
  have units := toRatio_units (parts_bits exponent small)
  rw [← bits, denotes] at units
  exact units

theorem toRatio_den_pos (f : BinaryFormat) (magnitude : Nat) : 0 < (f.toRatio magnitude).2 :=
  Nat.two_pow_pos _

end BinaryFormat

namespace Double

open BinaryFormat

theorem isNegative_ofMagnitude (negative : Bool) {m : Nat} (h : m < binary64.signBit) :
    (ofMagnitude negative m).isNegative = negative := by
  have sign : binary64.signBit = 2 ^ 63 := rfl
  rw [sign] at h
  rw [isNegative, ofMagnitude, sign, UInt64.toNat_ofNat']
  cases negative
  · simp only [Bool.false_eq_true, if_false, decide_eq_false_iff_not]
    omega
  · simp only [if_true, decide_eq_true_eq]
    omega

theorem magnitude_ofRatio (negative : Bool) (num den : Nat) :
    (ofRatio negative num den).magnitude = binary64.ofRatio num den ∧
      (ofRatio negative num den).isNegative = negative := by
  have small : binary64.ofRatio num den < binary64.signBit := by
    have infinity : binary64.infinity < binary64.signBit := by decide
    rw [BinaryFormat.ofRatio]
    split
    · decide
    · exact Nat.lt_of_le_of_lt (Nat.min_le_left _ _) infinity
  exact ⟨magnitude_ofMagnitude negative small, isNegative_ofMagnitude negative small⟩

/-- The floor of a number whose magnitude is whole. -/
theorem floor_eq_of_whole {x : Double} {n : Nat} (h : x.ratio.1 = n * x.ratio.2) :
    x.floor = if x.isNegative then -(n : Int) else n := by
  have den : 0 < x.ratio.2 := toRatio_den_pos binary64 x.magnitude
  have down : n * x.ratio.2 / x.ratio.2 = n := Nat.mul_div_cancel n den
  have up : (n * x.ratio.2 + x.ratio.2 - 1) / x.ratio.2 = n := by
    rw [Nat.add_sub_assoc den, Nat.mul_comm, Nat.mul_add_div den,
      Nat.div_eq_of_lt (Nat.sub_lt den Nat.zero_lt_one), Nat.add_zero]
  simp only [floor, h, down, up]

/-- The double nearest to a whole number, unless it is infinite, denotes the whole
number that is nearest. -/
theorem floor_ofRatio (negative : Bool) {n : Nat}
    (finite : (ofRatio negative n 1).isFinite = true) :
    (ofRatio negative n 1).floor = if negative then -(nearest n : Int) else nearest n := by
  obtain ⟨magnitude, sign⟩ := magnitude_ofRatio negative n 1
  have whole : (ofRatio negative n 1).ratio.1 = nearest n * (ofRatio negative n 1).ratio.2 := by
    by_cases zero : n = 0
    · subst zero
      rw [nearest_zero, Nat.zero_mul, ratio, magnitude]
      exact Nat.zero_mul _
    · obtain ⟨significand, bits, low, high, denotes⟩ := ofRatio_whole zero
      have below : (n.log2 + 1022) * 2 ^ 52 + significand < binary64.infinity := by
        rw [isFinite, magnitude, bits, decide_eq_true_eq] at finite
        omega
      have scaled := toRatio_bits (n.log2 + 1022) low high
      rw [denotes, ← Nat.mul_assoc] at scaled
      have read : (ofRatio negative n 1).ratio =
          binary64.toRatio ((n.log2 + 1022) * 2 ^ 52 + significand) := by
        rw [ratio, magnitude, bits, Nat.min_eq_right (Nat.le_of_lt below)]
      rw [read, Nat.mul_comm (nearest n)]
      exact Nat.eq_of_mul_eq_mul_right (Nat.two_pow_pos leastPlaces) scaled
  rw [floor_eq_of_whole whole, sign]

/-- Whole numbers of no more than a thousand bits have finite doubles. -/
theorem isFinite_ofRatio (negative : Bool) {n : Nat} (short : n.log2 < 1000) :
    (ofRatio negative n 1).isFinite = true := by
  obtain ⟨magnitude, -⟩ := magnitude_ofRatio negative n 1
  rw [isFinite, magnitude, decide_eq_true_eq]
  by_cases zero : n = 0
  · subst zero
    decide
  · obtain ⟨significand, bits, -, high, -⟩ := ofRatio_whole zero
    have infinity : binary64.infinity = 2047 * 2 ^ 52 := rfl
    omega

end Double
end SqlBind
