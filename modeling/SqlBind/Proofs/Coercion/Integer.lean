/-
Coercion to integers, measured by what values denote. Integers, truth values and
decimals are coerced exactly, whatever their size. Doubles come out as their floor,
except that `2 ^ 63`, the least number beyond the range, is taken for the greatest
number in it. A text is read as a double first: an integer of more bits than a double
has comes out as its neighbour (`integer_coercion_exact_iff`), though the integer and
the decimal of the same value do not.
-/
import Mathlib.Data.Rat.Floor
import SqlBind.Postgres.Encode
import SqlBind.Proofs.Number.Digits
import SqlBind.Proofs.Number.Nearest
import SqlBind.Proofs.Postgres.Coercion

namespace SqlBind

/-! ## What values denote -/

/-- The rational number that a finite double denotes. -/
def Double.value (x : Double) : ℚ :=
  (((if x.isNegative then -x.ratio.1 else x.ratio.1 : ℤ)) : ℚ) / (x.ratio.2 : ℕ)

/-- The rational number that a decimal denotes. -/
def Decimal.value (d : Decimal) : ℚ :=
  (((if d.negative then -d.coefficient else d.coefficient : ℤ)) : ℚ) / (10 ^ d.scale : ℕ)

/-- A numeral of digits with an optional sign: whether it is negative and what the
digits denote. -/
def Numeral.signed? : List Char → Option (Bool × Nat)
  | '-' :: ds => (read? ds).map (true, ·)
  | '+' :: ds => (read? ds).map (false, ·)
  | ds => (read? ds).map (false, ·)

/-- The number that a value denotes: a text does if it is an integer's numeral with
blanks around it. -/
inductive Value.Denotes : Value → ℚ → Prop
  | int (n : Int64) : Denotes (.int n) n.toInt
  | bool (b : Bool) : Denotes (.bool b) (if b then 1 else 0)
  | decimal (d : Decimal) : Denotes (.decimal d) d.value
  | float {x : Double} (finite : x.isFinite = true) : Denotes (.float x) x.value
  | text {s : String} {negative : Bool} {m : Nat}
      (numeral : Numeral.signed? (Text.trim s.toList) = some (negative, m)) :
      Denotes (.text s) (if negative then -m else m : ℤ)

/-- What is divided below zero goes away from it. -/
theorem neg_natCast_ediv (n : ℕ) {d : ℕ} (h : 0 < d) :
    -(n : ℤ) / d = -(((n + d - 1) / d : ℕ) : ℤ) := by
  have split := Nat.div_add_mod (n + d - 1) d
  have rest := Nat.mod_lt (n + d - 1) h
  refine ((Int.ediv_emod_unique (r := (d - 1 - (n + d - 1) % d : ℕ)) (by omega)).mpr ⟨?_, ?_, ?_⟩).1
  · rw [Int.mul_neg, ← Int.natCast_mul]
    omega
  · omega
  · omega

theorem Double.floor_value (x : Double) : ⌊x.value⌋ = x.floor := by
  have den : 0 < x.ratio.2 := BinaryFormat.toRatio_den_pos BinaryFormat.binary64 x.magnitude
  rw [Double.value, Rat.floor_intCast_div_natCast]
  simp only [Double.floor]
  cases x.isNegative with
  | false => exact (Int.natCast_ediv _ _).symm
  | true => exact neg_natCast_ediv x.ratio.1 den

theorem Decimal.floor_value (d : Decimal) : ⌊d.value⌋ = d.floor := by
  rw [Decimal.value, Rat.floor_intCast_div_natCast]
  rfl

/-! ## Numerals -/

namespace Numeral

theorem toLower_of_isDigit {c : Char} (h : isDigit c = true) : c.toLower = c := by
  simp only [isDigit, Bool.and_eq_true, decide_eq_true_eq] at h
  have small : ¬(c.val ≥ 'A'.val ∧ c.val ≤ 'Z'.val) := by
    rintro ⟨large, -⟩
    have least : 'A'.toNat ≤ c.toNat := UInt32.le_iff_toNat_le.mp large
    rw [show 'A'.toNat = 65 from rfl] at least
    omega
  exact dif_neg small

/-- Digits have no sign in front of them. -/
theorem signed?_of_all_isDigit {ds : List Char} (digits : ds.all isDigit = true) :
    signed? ds = (read? ds).map (false, ·) := by
  unfold signed?
  split
  · cases (by simpa using digits : isDigit '-' = true ∧ _).1
  · cases (by simpa using digits : isDigit '+' = true ∧ _).1
  · rfl

/-- The printed numeral of a whole number is read back. -/
theorem signed?_ofInt (n : Int) :
    signed? (ofInt n) = some (decide (n < 0), n.natAbs) := by
  cases n with
  | ofNat n =>
    have printed : signed? (ofNat n) = some (false, n) := by
      rw [signed?_of_all_isDigit (ofNat_all_isDigit n), read?_ofNat]
      rfl
    exact printed
  | negSucc n =>
    rw [ofInt, signed?, read?_ofNat, decide_eq_true (Int.negSucc_lt_zero n)]
    rfl

theorem trim_ofInt (n : Int) : Text.trim (ofInt n) = ofInt n := by
  have digits : ∀ m, ∀ c ∈ ofNat m, Text.isBlank c = false := fun m c mem =>
    isBlank_of_isDigit (List.all_eq_true.mp (ofNat_all_isDigit m) c mem)
  refine Text.trim_of_forall ?_
  cases n with
  | ofNat n => exact digits n
  | negSucc n =>
    rw [ofInt, List.forall_mem_cons]
    exact ⟨rfl, digits (n + 1)⟩

end Numeral

namespace FloatNumeral

/-- Digits alone are the numeral of a whole number, which is rounded once. -/
theorem magnitude?_of_read? {ds : List Char} {m : Nat} (h : Numeral.read? ds = some m) :
    magnitude? .binary64 ds = some (BinaryFormat.binary64.ofRatio m 1) := by
  obtain ⟨some, digits, value⟩ := Numeral.read?_eq_some_iff.mp h
  have lower : ds.map Char.toLower = ds := by
    conv_rhs => rw [← List.map_id ds]
    exact List.map_congr_left fun c mem =>
      Numeral.toLower_of_isDigit (List.all_eq_true.mp digits c mem)
  have noWord : ∀ word : String,
      word.toList.all Numeral.isDigit = false → String.ofList ds ≠ word := by
    rintro word letters rfl
    rw [String.toList_ofList, digits] at letters
    cases letters
  have span : Numeral.span ds = (ds, []) := by
    have apart : Numeral.span (ds ++ []) = (ds, []) := Numeral.span_append digits (by simp)
    rwa [List.append_nil] at apart
  have decimal : decimal? ds = Option.some (m, 0) := by
    simp only [decimal?, span, List.isEmpty_eq_false_iff.mpr some, Bool.false_and,
      if_neg Bool.false_ne_true, List.append_nil, value]
    rfl
  have whole : BinaryFormat.binary64.ofScientific m 0 = BinaryFormat.binary64.ofRatio m 1 := by
    rw [BinaryFormat.ofScientific]
    split
    · rename_i zero
      rw [BinaryFormat.ofRatio, if_pos zero]
    · rw [if_neg (by omega), if_neg (by omega)]
      simp
  simp only [magnitude?, lower, decimal]
  rw [if_neg (by simpa using ⟨noWord "inf" rfl, noWord "infinity" rfl⟩),
    if_neg (noWord "nan" rfl), Option.map_some, whole]

theorem read?_of_signed? {cs : List Char} {negative : Bool} {m : Nat}
    (h : Numeral.signed? cs = some (negative, m)) :
    read? .binary64 cs = some (negative, BinaryFormat.binary64.ofRatio m 1) := by
  unfold Numeral.signed? at h
  unfold read?
  split at h
  all_goals
    obtain ⟨k, digits, same⟩ := Option.map_eq_some_iff.mp h
    cases same
    simp only [magnitude?_of_read? digits, Option.map_some]

end FloatNumeral

theorem Double.ofText?_of_signed? {s : String} {negative : Bool} {m : Nat}
    (h : Numeral.signed? (Text.trim s.toList) = some (negative, m)) :
    Double.ofText? (Text.trimmed s) = some (.ofRatio negative m 1) := by
  rw [Double.ofText?, Text.trimmed, String.toList_ofList, FloatNumeral.read?_of_signed? h]
  rfl

/-! ## Exactness -/

/-- A result that is the integer `k` if a word has it, and a failure otherwise. -/
def YieldsExactly (k : ℤ) (result : Except DbError Value) : Prop :=
  if -2 ^ 63 ≤ k ∧ k < 2 ^ 63 then result = .ok (.int (.ofInt k)) else ∃ e, result = .error e

/-- The values that become integers exactly, by the floor of what they denote. Doubles
do, but for the first beyond the range. Numerals in the range do if there are zeros
after their fifty-three leading bits, and the greatest does; the others have to be past
the half way from the range to the next double. -/
def KeepsInteger : Value → ℤ → Prop
  | .float _, k => k ≠ 2 ^ 63
  | .text _, k =>
    if -2 ^ 63 ≤ k ∧ k < 2 ^ 63 then k = 2 ^ 63 - 1 ∨ 2 ^ excess k.natAbs ∣ k.natAbs
    else 2 ^ 63 + 1024 < k.natAbs
  | _, _ => True

theorem ofInt_inj {j k : ℤ} (hj : -2 ^ 63 ≤ j ∧ j < 2 ^ 63) (hk : -2 ^ 63 ≤ k ∧ k < 2 ^ 63) :
    Int64.ofInt j = Int64.ofInt k ↔ j = k := by
  constructor
  · intro same
    have words := congrArg Int64.toInt same
    rwa [Int64.toInt_ofInt_of_le hj.1 hj.2, Int64.toInt_ofInt_of_le hk.1 hk.2] at words
  · rintro rfl
    rfl

namespace Coercion

theorem coerce_integral {tag : SqlType} (integral : tag ∈ [SqlType.int, .long]) {v : Value}
    (present : v.isNull = false) :
    tag.coerce v = orNotCoercible tag v ((toInt64? v).map .int) := by
  rw [Postgres.coerce_present present]
  simp only [List.mem_cons, List.not_mem_nil, or_false] at integral
  rcases integral with rfl | rfl <;> rfl

/-- To yield an integer exactly is to find the word that it fits, or none. -/
theorem yieldsExactly_iff (tag : SqlType) (v : Value) (found : Option Int64) (k : ℤ) :
    YieldsExactly k (orNotCoercible tag v (found.map .int)) ↔ found = int64? k := by
  rw [YieldsExactly, int64?]
  split
  · cases found with
    | none => exact iff_of_false (by rintro ⟨⟩) (by rintro ⟨⟩)
    | some n => simp [orNotCoercible]
  · cases found with
    | none => exact iff_of_true ⟨_, rfl⟩ rfl
    | some n => exact iff_of_false (by rintro ⟨_, ⟨⟩⟩) (by rintro ⟨⟩)

theorem floorToInt64?_eq_iff {x : Double} (finite : x.isFinite = true) :
    floorToInt64? x = int64? x.floor ↔ x.floor ≠ 2 ^ 63 := by
  rw [floorToInt64?, if_pos finite, int64?]
  simp only
  by_cases inside : -2 ^ 63 ≤ x.floor ∧ x.floor < 2 ^ 63
  · rw [if_pos (by omega), if_pos inside, Int.min_eq_left (by omega)]
    exact iff_of_true rfl (by omega)
  · rw [if_neg inside]
    by_cases edge : x.floor = 2 ^ 63
    · rw [if_pos (by omega)]
      exact iff_of_false (by rintro ⟨⟩) (by omega)
    · rw [if_neg (by omega)]
      exact iff_of_true rfl edge

theorem floorToInt64?_near (negative : Bool) {m : Nat} (near : nearest m ≤ 2 ^ 63) :
    floorToInt64? (.ofRatio negative m 1) =
      some (.ofInt (min (if negative then -(nearest m : ℤ) else nearest m) (2 ^ 63 - 1))) := by
  have finite : (Double.ofRatio negative m 1).isFinite = true := by
    refine Double.isFinite_ofRatio negative ?_
    by_cases zero : m = 0
    · rw [zero]
      decide
    · have small := (nearest_le_iff m).mp near
      have short : m.log2 < 64 := (Nat.log2_lt zero).mpr (by omega)
      omega
  rw [floorToInt64?, if_pos finite]
  simp only [Double.floor_ofRatio negative finite]
  refine if_pos ?_
  split <;> omega

theorem floorToInt64?_far (negative : Bool) {m : Nat} (far : 2 ^ 63 < nearest m) :
    floorToInt64? (.ofRatio negative m 1) = none := by
  rw [floorToInt64?]
  split
  · rename_i finite
    rw [Double.floor_ofRatio negative finite]
    refine if_neg ?_
    split <;> omega
  · rfl

/-- A numeral is kept just if its double is taken for it. -/
theorem floorToInt64?_ofRatio (negative : Bool) (m : Nat) (s : String) :
    let k : ℤ := if negative then -m else m
    floorToInt64? (.ofRatio negative m 1) = int64? k ↔ KeepsInteger (.text s) k := by
  intro k
  have abs : k.natAbs = m := by
    simp only [k]
    split <;> omega
  have edge := nearest_le_iff m
  rw [KeepsInteger, int64?, abs]
  by_cases near : nearest m ≤ 2 ^ 63
  · rw [floorToInt64?_near negative near]
    by_cases range : -2 ^ 63 ≤ k ∧ k < 2 ^ 63
    · rw [if_pos range, if_pos range, Option.some.injEq, ← nearest_eq_iff]
      -- The greatest word's double is the one that is cut down to it.
      have greatest : nearest (2 ^ 63 - 1) = 2 ^ 63 := rfl
      cases negative with
      | true =>
        simp only [k, if_true] at range ⊢
        rw [ofInt_inj (by omega) range]
        omega
      | false =>
        simp only [k, Bool.false_eq_true, if_false] at range ⊢
        rw [ofInt_inj (by omega) range]
        constructor
        · omega
        · rintro (last | kept)
          · have word : m = 2 ^ 63 - 1 := by omega
            rw [word, greatest]
            rfl
          · omega
    · rw [if_neg range, if_neg range]
      exact iff_of_false (by rintro ⟨⟩) (by omega)
  · have beyond : ¬(-2 ^ 63 ≤ k ∧ k < 2 ^ 63) := by
      simp only [k]
      split <;> omega
    rw [floorToInt64?_far negative (by omega), if_neg beyond, if_neg beyond]
    exact iff_of_true rfl (by omega)

theorem toInt64?_eq_iff {v : Value} {q : ℚ} (h : v.Denotes q) :
    toInt64? v = int64? ⌊q⌋ ↔ KeepsInteger v ⌊q⌋ := by
  cases h with
  | int n =>
    rw [Int.floor_intCast, int64?_toInt]
    exact iff_of_true rfl trivial
  | bool b => cases b <;> exact iff_of_true (by simp [toInt64?, int64?]) trivial
  | decimal d =>
    rw [Decimal.floor_value]
    exact iff_of_true rfl trivial
  | @float x finite =>
    rw [Double.floor_value]
    exact floorToInt64?_eq_iff finite
  | @text s negative m numeral =>
    rw [Int.floor_intCast, toInt64?, Double.ofText?_of_signed? numeral, Option.bind_some]
    exact floorToInt64?_ofRatio negative m s

end Coercion

theorem Value.Denotes.isNull {v : Value} {q : ℚ} (h : v.Denotes q) : v.isNull = false := by
  cases h <;> rfl

/-- A word as a text. -/
def Value.printed (n : Int64) : Value := .text (.ofList (Numeral.ofInt n.toInt))

theorem Value.denotes_printed (n : Int64) : (printed n).Denotes n.toInt := by
  have numeral : Numeral.signed? (Text.trim (String.ofList (Numeral.ofInt n.toInt)).toList) =
      some (decide (n.toInt < 0), n.toInt.natAbs) := by
    rw [String.toList_ofList, Numeral.trim_ofInt, Numeral.signed?_ofInt]
  have denotes := Value.Denotes.text numeral
  have whole : (if decide (n.toInt < 0) = true then -(n.toInt.natAbs : ℤ) else n.toInt.natAbs) =
      n.toInt := by
    split
    · rename_i below
      have negative := of_decide_eq_true below
      omega
    · rename_i above
      have positive : ¬n.toInt < 0 := fun negative => above (decide_eq_true negative)
      omega
  rwa [whole] at denotes

namespace Postgres

/-- What an integer parameter is sent is what coercion makes of a value, whether the
value is tagged or not. -/
theorem encodeArg_int8 {v : Value} {n : Int64} (coerced : SqlType.long.coerce v = .ok (.int n)) :
    ∀ a ∈ [Arg.raw v, .ofType .long v],
      encodeArg (.scalar .int8) a = .ok (some (BigEndian.encodeInt 8 n.toInt)) := by
  have low := n.le_toInt
  have high := n.toInt_lt
  have sent : ∀ w : Value, w.isNull = false → SqlType.long.coerce w = .ok (.int n) →
      encode (.scalar .int8) w = .ok (some (BigEndian.encodeInt 8 n.toInt)) := by
    intro w present long
    have fits : bounded 8 (-2 ^ 63) (2 ^ 63 - 1) n = .ok (BigEndian.encodeInt 8 n.toInt) :=
      if_pos (by omega)
    rw [encode, if_neg (by simp [present]), encodeScalar, integer, shaped, long]
    exact congrArg (Except.map some) fits
  have present : v.isNull = false := by
    cases null : v.isNull with
    | false => rfl
    | true =>
      rw [SqlType.coerce, if_pos (by simp [null])] at coerced
      cases coerced
  simp only [List.forall_mem_cons, List.not_mem_nil, false_implies, implies_true, and_true]
  refine ⟨sent v present coerced, ?_⟩
  rw [Arg.ofType, encodeArg, shaped, coerced]
  exact sent (.int n) rfl rfl

end Postgres

/-- **Coercion to integers is exact just where doubles are.** For the tags of integers
and every value that denotes a number, the outcome is the number's floor or, out of the
range of a word, a failure, unless the way over a double lost it (`KeepsInteger`): of
the printed words those are kept that end in zeros after fifty-three bits, and the greatest.
What coercion makes of a value is what is sent for it to an integer parameter. -/
theorem integer_coercion_exact_iff {tag : SqlType} (integral : tag ∈ [SqlType.int, .long]) :
    (∀ (v : Value) (q : ℚ), v.Denotes q →
      (YieldsExactly ⌊q⌋ (tag.coerce v) ↔ KeepsInteger v ⌊q⌋)) ∧
    (∀ n : Int64, (Value.printed n).Denotes n.toInt ∧
      (tag.coerce (Value.printed n) = .ok (.int n) ↔
        n.toInt = 2 ^ 63 - 1 ∨ 2 ^ excess n.toInt.natAbs ∣ n.toInt.natAbs)) ∧
    (∀ (v : Value) (n : Int64), SqlType.long.coerce v = .ok (.int n) →
      ∀ a ∈ [Arg.raw v, .ofType .long v],
        Postgres.encodeArg (.scalar .int8) a = .ok (some (BigEndian.encodeInt 8 n.toInt))) := by
  have exact : ∀ (v : Value) (q : ℚ), v.Denotes q →
      (YieldsExactly ⌊q⌋ (tag.coerce v) ↔ KeepsInteger v ⌊q⌋) := by
    intro v q denotes
    rw [Coercion.coerce_integral integral denotes.isNull, Coercion.yieldsExactly_iff]
    exact Coercion.toInt64?_eq_iff denotes
  refine ⟨exact, fun n => ⟨Value.denotes_printed n, ?_⟩, fun v n => Postgres.encodeArg_int8⟩
  have range : -2 ^ 63 ≤ n.toInt ∧ n.toInt < 2 ^ 63 := ⟨n.le_toInt, n.toInt_lt⟩
  have kept := exact _ _ (Value.denotes_printed n)
  rw [Int.floor_intCast, YieldsExactly, if_pos range, Int64.ofInt_toInt] at kept
  rw [kept, Value.printed, KeepsInteger, if_pos range]

/-- A numeral with a sign, a leading zero and blanks around it is one of few bits. -/
theorem integer_coercion_exact_iff_numeral :
    SqlType.int ∈ [SqlType.int, .long] ∧ (Value.text " -042\n").Denotes (-42 : ℤ) ∧
      SqlType.int.coerce (.text " -042\n") = .ok (.int (-42)) := by
  have integral : SqlType.int ∈ [SqlType.int, .long] := by simp
  have denotes : (Value.text " -042\n").Denotes (-42 : ℤ) :=
    .text (show Numeral.signed? _ = some (true, 42) from rfl)
  have yields := ((integer_coercion_exact_iff integral).1 _ _ denotes).mpr (by
    rw [Int.floor_intCast, KeepsInteger, if_pos (by decide)]
    exact .inr (by decide))
  rw [Int.floor_intCast, YieldsExactly, if_pos (by decide)] at yields
  exact ⟨integral, denotes, yields⟩

/-- The first integer that no double denotes comes out one less, and the first double
that is too large one less too, where it is to be refused. -/
theorem integer_coercion_inexact :
    (Value.text "9007199254740993").Denotes (9007199254740993 : ℤ) ∧
      SqlType.long.coerce (.text "9007199254740993") = .ok (.int 9007199254740992) ∧
      ¬YieldsExactly 9007199254740993 (SqlType.long.coerce (.text "9007199254740993")) ∧
      (Double.mk 0x43e0000000000000).isFinite = true ∧
      ⌊(Double.mk 0x43e0000000000000).value⌋ = 2 ^ 63 ∧
      SqlType.long.coerce (.float ⟨0x43e0000000000000⟩) = .ok (.int Int64.maxValue) ∧
      ¬YieldsExactly (2 ^ 63) (SqlType.long.coerce (.float ⟨0x43e0000000000000⟩)) := by
  have text : SqlType.long.coerce (.text "9007199254740993") = .ok (.int 9007199254740992) := rfl
  have float : SqlType.long.coerce (.float ⟨0x43e0000000000000⟩) = .ok (.int Int64.maxValue) := rfl
  have numeral : Numeral.signed? (Text.trim "9007199254740993".toList) =
      some (false, 9007199254740993) := rfl
  refine ⟨.text numeral, text, ?_, rfl, ?_, float, ?_⟩
  · rw [text, YieldsExactly, if_pos (by decide)]
    intro same
    injection same with same
    injection same with same
    exact absurd same (by decide)
  · rw [Double.floor_value]
    rfl
  · rw [float, YieldsExactly, if_neg (by decide)]
    rintro ⟨e, ⟨⟩⟩

end SqlBind
