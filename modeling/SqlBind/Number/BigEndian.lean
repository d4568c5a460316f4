/-
Whole numbers as octets, the highest first. A number is written in a given width
and reduced to it, and one with a sign in two's complement. A reader takes the
octets in front and leaves the rest.
-/
import SqlBind.Number.Power

namespace SqlBind.BigEndian

/-- The low `width` octets of a number. -/
def encode : Nat → Nat → List UInt8
  | 0, _ => []
  | width + 1, n => encode width (n / 256) ++ [.ofNat (n % 256)]

/-- The low `width` octets of a number with a sign. -/
def encodeInt (width : Nat) (n : Int) : List UInt8 := encode width (n % 256 ^ width).toNat

/-- The number that octets spell. -/
def value (octets : List UInt8) : Nat := octets.foldl (fun acc b => acc * 256 + b.toNat) 0

/-- The number with a sign that octets spell. -/
def signedValue (octets : List UInt8) : Int :=
  let n := value octets
  if 2 * n < 256 ^ octets.length then n else n - (256 ^ octets.length : Nat)

theorem length_encode (width n : Nat) : (encode width n).length = width := by
  induction width generalizing n with
  | zero => rfl
  | succ width ih => simp [encode, ih]

/-- What is written reads back as far as the width goes. -/
theorem value_encode (width n : Nat) : value (encode width n) = n % 256 ^ width := by
  induction width generalizing n with
  | zero => simp [encode, value, Nat.mod_one]
  | succ width ih =>
    have last : value (encode width (n / 256) ++ [.ofNat (n % 256)])
        = value (encode width (n / 256)) * 256 + n % 256 := by
      simp [value, List.foldl_append]
    rw [encode, last, ih, Nat.pow_succ, Nat.mul_comm (256 ^ width) 256, Nat.mod_mul]
    omega

/-- A number with a sign reads back if the width holds it. -/
theorem signedValue_encodeInt {width : Nat} {n : Int} (low : -(256 ^ width : Nat) ≤ 2 * n)
    (high : 2 * n < (256 ^ width : Nat)) : signedValue (encodeInt width n) = n := by
  have positive : 0 < 256 ^ width := Nat.pow_pos (by omega)
  unfold signedValue encodeInt
  simp only [length_encode, value_encode]
  have cast : ((256 : Int) ^ width) = ((256 ^ width : Nat) : Int) := by simp
  rw [cast]
  generalize 256 ^ width = unit at *
  by_cases sign : 0 ≤ n
  · have reduced : n % (unit : Int) = n := Int.emod_eq_of_lt sign (by omega)
    rw [reduced, Nat.mod_eq_of_lt (by omega), if_pos (by omega)]
    omega
  · have reduced : n % (unit : Int) = n + unit := by
      rw [← Int.add_emod_right, Int.emod_eq_of_lt (by omega) (by omega)]
    rw [reduced, Nat.mod_eq_of_lt (by omega), if_neg (by omega)]
    omega

/-- So many octets in front, and the rest. -/
def take? (width : Nat) (octets : List UInt8) : Option (List UInt8 × List UInt8) :=
  if width ≤ octets.length then some (octets.take width, octets.drop width) else none

theorem take?_append {front rest : List UInt8} {width : Nat} (h : front.length = width) :
    take? width (front ++ rest) = some (front, rest) := by
  subst h
  simp [take?]

/-- The number in front, and the rest. -/
def nat? (width : Nat) (octets : List UInt8) : Option (Nat × List UInt8) :=
  (take? width octets).map fun (front, rest) => (value front, rest)

/-- The number with a sign in front, and the rest. -/
def int? (width : Nat) (octets : List UInt8) : Option (Int × List UInt8) :=
  (take? width octets).map fun (front, rest) => (signedValue front, rest)

/-- The number with a sign that octets of a given width spell. -/
def wholeInt? (width : Nat) (octets : List UInt8) : Option Int :=
  if octets.length = width then some (signedValue octets) else none

/-- The number that octets of a given width spell. -/
def wholeNat? (width : Nat) (octets : List UInt8) : Option Nat :=
  if octets.length = width then some (value octets) else none

theorem wholeNat?_encode {width n : Nat} (h : n < 256 ^ width) :
    wholeNat? width (encode width n) = some n := by
  rw [wholeNat?, if_pos (length_encode width n), value_encode, Nat.mod_eq_of_lt h]

theorem length_encodeInt (width : Nat) (n : Int) : (encodeInt width n).length = width :=
  length_encode width _

theorem wholeInt?_encodeInt {width : Nat} {n : Int} (low : -(256 ^ width : Nat) ≤ 2 * n)
    (high : 2 * n < (256 ^ width : Nat)) : wholeInt? width (encodeInt width n) = some n := by
  rw [wholeInt?, if_pos (length_encodeInt width n), signedValue_encodeInt low high]

theorem nat?_encode_append (width n : Nat) (rest : List UInt8) :
    nat? width (encode width n ++ rest) = some (n % 256 ^ width, rest) := by
  simp only [nat?, take?_append (length_encode width n), Option.map_some, value_encode]

/-- A number without a sign reads as one with a sign unless it takes the sign's place. -/
theorem encodeInt_natCast {width n : Nat} (h : n < 256 ^ width) :
    encodeInt width (n : Int) = encode width n := by
  have cast : (256 : Int) ^ width = ((256 ^ width : Nat) : Int) := by simp
  rw [encodeInt, cast, ← Int.natCast_emod, Int.toNat_natCast, Nat.mod_eq_of_lt h]

theorem int?_encodeInt_append {width : Nat} {n : Int} (low : -(256 ^ width : Nat) ≤ 2 * n)
    (high : 2 * n < (256 ^ width : Nat)) (rest : List UInt8) :
    int? width (encodeInt width n ++ rest) = some (n, rest) := by
  simp only [int?, take?_append (length_encodeInt width n), Option.map_some,
    signedValue_encodeInt low high]

theorem int?_encode_append {width n : Nat} (h : 2 * n < 256 ^ width) (rest : List UInt8) :
    int? width (encode width n ++ rest) = some ((n : Int), rest) := by
  have small : n < 256 ^ width := by omega
  rw [← encodeInt_natCast small]
  exact int?_encodeInt_append (by omega) (by omega) rest

end SqlBind.BigEndian
