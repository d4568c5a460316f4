/-
Octets as pairs of hexadecimal digits, the high half first. Writing uses small
letters, reading takes both cases.
-/
namespace SqlBind.Hex

/-- The digit of a half octet. -/
def digitChar (n : Nat) : Char := if n < 10 then .ofNat (48 + n) else .ofNat (87 + n)

/-- The value of a hexadecimal digit. -/
def digitValue? (c : Char) : Option Nat :=
  let n := c.toNat
  if 48 ≤ n ∧ n ≤ 57 then some (n - 48)
  else if 97 ≤ n ∧ n ≤ 102 then some (n - 87)
  else if 65 ≤ n ∧ n ≤ 70 then some (n - 55)
  else none

/-- Two digits for every octet. -/
def encode (octets : List UInt8) : List Char :=
  octets.flatMap fun b => [digitChar (b.toNat / 16), digitChar (b.toNat % 16)]

/-- The octets of a row of digit pairs; a digit without a partner is refused. -/
def decode? : List Char → Option (List UInt8)
  | [] => some []
  | [_] => none
  | a :: b :: rest => do
    let high ← digitValue? a
    let low ← digitValue? b
    let octets ← decode? rest
    some (.ofNat (high * 16 + low) :: octets)

end SqlBind.Hex
