/-
Dates and times as texts. Coerced to a text and back, a value comes out as what its text
shows (`Value.shown`). A date, a time of day and an instant are shown to the last
nanosecond. The text of a local time ends with its second: it is the text of the same time
without the fraction (`Timestamp.wholeText_eq`), and so a local time survives its text just
if it has no fraction, though as a document it is written with it. A text parameter is sent
the same text.
-/
import SqlBind.Proofs.Postgres.ColumnTag

namespace SqlBind

/-! ## Whole seconds -/

namespace TimeOfDay

/-- The time without the fraction of its second. A leap second stays one. -/
def whole (t : TimeOfDay) : TimeOfDay where
  second := t.second
  nano := t.nano - t.fraction
  second_lt := t.second_lt
  nano_lt := Nat.lt_of_le_of_lt (Nat.sub_le _ _) t.nano_lt
  leap_last leap := t.leap_last (Nat.le_trans leap (Nat.sub_le _ _))

end TimeOfDay

namespace Timestamp

/-- The point without the fraction of its second. -/
def whole (t : Timestamp) : Timestamp := ⟨t.date, t.time.whole⟩

end Timestamp

/-! ## Texts -/

/-- Dates and times under the tag that their texts are read by. The text of an instant is
read if its year has four digits. -/
inductive SqlType.Dates : SqlType → Value → Prop
  | date (d : Date) : Dates .date (.date d)
  | timestamp (t : Timestamp) : Dates .date (.timestamp t)
  | instant {t : Timestamp} (plain : Calendar.InFourDigits t.date) : Dates .date (.instant t)
  | time (t : TimeOfDay) : Dates .time (.time t)

/-- The value that the text of a value shows. -/
def Value.shown : Value → Value
  | .timestamp t => .timestamp t.whole
  | v => v

namespace SqlType.Dates

variable {tag : SqlType} {v : Value}

theorem isNull (dates : tag.Dates v) : v.isNull = false := by
  cases dates <;> rfl

theorem holds (dates : tag.Dates v) : tag.Holds v := by
  cases dates <;> constructor

end SqlType.Dates

namespace Postgres

/-! ## Text parameters -/

theorem PgType.IsText.encode {type : PgType} (text : type.IsText) {v : Value}
    (present : v.isNull = false) : encode type v = .ok (some (utf8 (textOf v))) := by
  induction type with
  | scalar s =>
    rw [s.encode_eq present]
    cases s with
    | text | varchar | bpchar | name | unknown => rfl
    | uuid => exact absurd rfl text.2
    | _ => cases text.1
  | array origin element => cases text.1
  | domain base ih =>
    rw [Postgres.encode, present, if_neg Bool.false_ne_true]
    exact ih text
  | enum => rw [Postgres.encode, present, if_neg Bool.false_ne_true]

end Postgres

end SqlBind
