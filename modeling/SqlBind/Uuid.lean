/-
Universally unique identifiers: sixteen octets, written as hexadecimal digits in
groups of eight, four, four, four and twelve. Reading also takes the digits
without hyphens, in braces, and after `urn:uuid:`.
-/
import SqlBind.Text.Hex

namespace SqlBind

/-- Sixteen octets. -/
structure Uuid where
  octets : List UInt8
  length_eq : octets.length = 16
  deriving DecidableEq

namespace Uuid

/-- An identifier from its octets, if there are sixteen. -/
def ofOctets? (octets : List UInt8) : Option Uuid :=
  if h : octets.length = 16 then some ⟨octets, h⟩ else none

theorem ofOctets?_octets (u : Uuid) : ofOctets? u.octets = some u := by
  simp [ofOctets?, u.length_eq]

/-- Five groups of small digits with hyphens between them. -/
def text (u : Uuid) : List Char :=
  let ds := Hex.encode u.octets
  ds.take 8 ++ '-' :: (ds.drop 8).take 4 ++ '-' :: (ds.drop 12).take 4
    ++ '-' :: (ds.drop 16).take 4 ++ '-' :: ds.drop 20

/-- Thirty-two digits without any mark. -/
def ofDigits? (cs : List Char) : Option Uuid := (Hex.decode? cs).bind ofOctets?

/-- The digits of five groups, if hyphens stand exactly between the groups. -/
def ofHyphenated? (cs : List Char) : Option Uuid :=
  let isHyphen (i : Nat) : Bool := cs[i]? == some '-'
  if cs.length = 36 ∧ isHyphen 8 ∧ isHyphen 13 ∧ isHyphen 18 ∧ isHyphen 23 then
    ofDigits? (cs.filter (· != '-'))
  else none

/-- The text without a pair of braces around it, or without `urn:uuid:` before it. -/
def undress (cs : List Char) : List Char :=
  if cs.length = 38 ∧ cs.head? = some '\x7b' ∧ cs.getLast? = some '\x7d' then
    (cs.drop 1).dropLast
  else if cs.length = 45 ∧ cs.take 9 = "urn:uuid:".toList then cs.drop 9
  else cs

/-- The identifier that a text denotes. -/
def ofText? (cs : List Char) : Option Uuid :=
  if cs.length = 32 then ofDigits? cs else ofHyphenated? (undress cs)

end Uuid
end SqlBind
