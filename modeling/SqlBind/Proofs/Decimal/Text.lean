/-
Decimals are read as they are written. The digits of a decimal never exceed the limits
on the way, so none of them is rounded off; only the sign of a zero is lost
(`ofText?_toText`).
-/
import SqlBind.Decimal.Text
import SqlBind.Proofs.Number.Digits

namespace SqlBind.Decimal

open Numeral

/-- The decimal, where a zero has no sign. -/
def unsignedZero (d : Decimal) : Decimal := { d with negative := d.negative && d.coefficient != 0 }

theorem digits?_whole {ds : List Char} (digits : ds.all isDigit = true) (d : Digits) (started : Bool)
    (small : valueFrom d.coefficient ds < limit) (rest : List Char) :
    digits? false started d (ds ++ rest) =
      digits? false (started || !ds.isEmpty) ⟨valueFrom d.coefficient ds, d.scale⟩ rest := by
  induction ds generalizing d started with
  | nil => simp [valueFrom]
  | cons c ds ih =>
    rw [List.all_cons, Bool.and_eq_true] at digits
    have next : d.coefficient * 10 + digitValue c < limit :=
      Nat.lt_of_le_of_lt (le_valueFrom _ ds) small
    have later := ih digits.2 ⟨d.coefficient * 10 + digitValue c, d.scale⟩ true small
    rw [List.cons_append, digits?, if_pos digits.1]
    simp only [if_neg (Nat.not_le.mpr next), Bool.false_and, Bool.false_eq_true, if_false, later]
    simp [valueFrom]

/-- Digits behind the point are all read, since there are at most twenty-eight. -/
theorem digits?_places {ds : List Char} (digits : ds.all isDigit = true) (d : Digits)
    (small : valueFrom d.coefficient ds < limit) (short : d.scale + ds.length ≤ maxScale) :
    digits? true true d ds = some ⟨valueFrom d.coefficient ds, d.scale + ds.length⟩ := by
  induction ds generalizing d with
  | nil => rfl
  | cons c ds ih =>
    rw [List.all_cons, Bool.and_eq_true] at digits
    rw [List.length_cons] at short
    have next : d.coefficient * 10 + digitValue c < limit :=
      Nat.lt_of_le_of_lt (le_valueFrom _ ds) small
    have later := ih digits.2 ⟨d.coefficient * 10 + digitValue c, d.scale + 1⟩ small
      (show d.scale + 1 + ds.length ≤ maxScale by omega)
    have length : d.scale + 1 + ds.length = d.scale + (c :: ds).length := by
      rw [List.length_cons]
      omega
    rw [digits?, if_pos digits.1]
    simp only [if_neg (Nat.not_le.mpr next), Bool.true_and, if_true, decide_eq_true_eq]
    by_cases full : maxScale ≤ d.scale + 1
    · -- The last place there is room for is the last one written.
      have last : ds = [] := List.eq_nil_of_length_eq_zero (by omega)
      subst last
      rw [if_pos full]
      split <;> rfl
    · rw [if_neg full, later, length]
      rfl

theorem ofPlain?_signed (negative : Bool) {body : List Char} (d : Digits)
    (first : ∀ c ∈ body.head?, isDigit c = true) (read : digits? false false ⟨0, 0⟩ body = some d) :
    ofPlain? ((if negative then ['-'] else []) ++ body) =
      ofUnsignedZero? negative d.coefficient d.scale := by
  cases negative with
  | true =>
    simp only [if_true, List.cons_append, List.nil_append, ofPlain?, read, Option.bind_some]
  | false =>
    have unsigned : ofPlain? body = (digits? false false ⟨0, 0⟩ body).bind fun d =>
        ofUnsignedZero? false d.coefficient d.scale := by
      unfold ofPlain?
      split
      next negative unsigned same =>
      split at same
      · exact absurd (first _ rfl) (by decide)
      · exact absurd (first _ rfl) (by decide)
      · cases same
        rfl
    simp only [Bool.false_eq_true, if_false, List.nil_append, unsigned, read, Option.bind_some]

/-- The digits of a decimal before and behind its point. -/
theorem toText_parts (d : Decimal) : ∃ whole places : List Char,
    d.toText = .ofList ((if d.negative then ['-'] else []) ++ (whole ++
      (if d.scale = 0 then [] else '.' :: places))) ∧
    whole ≠ [] ∧ whole.all isDigit = true ∧ places.all isDigit = true ∧ places.length = d.scale ∧
    valueFrom (valueFrom 0 whole) places = d.coefficient := by
  have long := le_length_padded (d.scale + 1) d.coefficient
  have digits := all_isDigit_padded (d.scale + 1) d.coefficient
  have denotes := value_padded (d.scale + 1) d.coefficient
  have shown : d.toText = .ofList ((if d.negative then ['-'] else []) ++ (_ ++ _)) :=
    congrArg String.ofList (List.append_assoc ..)
  generalize padded (d.scale + 1) d.coefficient = ds at shown long digits denotes
  have cut := List.take_append_drop (ds.length - d.scale) ds
  rw [← cut, List.all_append, Bool.and_eq_true] at digits
  rw [← cut, value, valueFrom_append] at denotes
  refine ⟨_, _, shown, ?_, digits.1, digits.2, ?_, denotes⟩
  · intro empty
    have length := congrArg List.length empty
    rw [List.length_take, List.length_nil] at length
    omega
  · rw [List.length_drop]
    omega

/-- **A decimal is read as it is written**, but for the sign of a zero. -/
theorem ofText?_toText (d : Decimal) : ofText? d.toText = some d.unsignedZero := by
  obtain ⟨whole, places, shown, present, digits, digits', length, denotes⟩ := d.toText_parts
  have scale := d.scale_le
  have small : valueFrom (valueFrom 0 whole) places < limit := by
    rw [denotes]
    exact d.coefficient_lt
  have started : (false || !whole.isEmpty) = true := by simp [present]
  have read : digits? false false ⟨0, 0⟩ (whole ++ (if d.scale = 0 then [] else '.' :: places)) =
      some ⟨d.coefficient, d.scale⟩ := by
    rw [digits?_whole digits ⟨0, 0⟩ false (Nat.lt_of_le_of_lt (le_valueFrom _ places) small), started]
    split
    · next none =>
      have empty : places = [] := List.eq_nil_of_length_eq_zero (length.trans none)
      have denotes : valueFrom 0 whole = d.coefficient := by rwa [empty] at denotes
      rw [none, digits?, if_pos rfl, denotes]
    · have behind := digits?_places digits' ⟨valueFrom 0 whole, 0⟩ small
        (show 0 + places.length ≤ maxScale by rw [length, Nat.zero_add]; exact scale)
      rw [digits?, if_neg (by decide), if_pos (by rfl), behind, denotes, length, Nat.zero_add]
  have first : ∀ c ∈ (whole ++ (if d.scale = 0 then [] else '.' :: places)).head?, isDigit c = true := by
    cases whole with
    | nil => exact absurd rfl present
    | cons c rest =>
      rintro _ ⟨⟩
      exact (Bool.and_eq_true _ _ ▸ digits).1
  rw [ofText?, shown, String.toList_ofList, ofPlain?_signed _ _ first read,
    ofUnsignedZero?, ofParts?, dif_pos ⟨d.coefficient_lt, scale⟩]
  rfl

theorem trimmed_toText (d : Decimal) : Text.trimmed d.toText = d.toText := by
  obtain ⟨whole, places, shown, -, digits, digits', -, -⟩ := d.toText_parts
  have visible {ds : List Char} (h : ds.all isDigit = true) : ∀ c ∈ ds, Text.isBlank c = false :=
    fun c mem => isBlank_of_isDigit (List.all_eq_true.mp h c mem)
  rw [Text.trimmed, shown, String.toList_ofList, Text.trim_of_forall]
  intro c mem
  simp only [List.mem_append] at mem
  rcases mem with sign | before | behind
  · split at sign
    · cases List.mem_singleton.mp sign
      rfl
    · cases sign
  · exact visible digits c before
  · split at behind
    · cases behind
    · rcases List.mem_cons.mp behind with rfl | digit
      · rfl
      · exact visible digits' c digit

end SqlBind.Decimal
