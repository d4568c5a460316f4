/-
Scalar values on the wire. A type's own values (`Scalar.Native`) are those that its
format can hold: integers as wide as the type, times in whole microseconds. What is
written for one of them reads back as that value (`Scalar.Native.readsBack`).

The calendar is narrower than the wire, so no date and no timestamp is too large for
it; but of a leap second the wire would make the second after it.
-/
import SqlBind.Postgres.Decode

namespace SqlBind.Postgres

/-! ## Text -/

theorem toList_loop (bytes : ByteArray) (i : Nat) (before : List UInt8) :
    ByteArray.toList.loop bytes i before = before.reverse ++ bytes.data.toList.drop i := by
  induction i, before using ByteArray.toList.loop.induct bytes with
  | case1 i before inside ih =>
    have bound : i < bytes.data.toList.length := by simpa using inside
    have octet : bytes.get! i = bytes.data.toList[i] := by
      simp only [ByteArray.get!, Array.getElem_toList]
      exact getElem!_pos bytes.data i (by simpa using inside)
    rw [ByteArray.toList.loop, if_pos inside, ih, octet, List.drop_eq_getElem_cons bound]
    simp
  | case2 i before outside =>
    have past : bytes.data.toList.length ≤ i := by simpa using outside
    rw [ByteArray.toList.loop, if_neg outside]
    simp [List.drop_eq_nil_of_le past]

theorem utf8Text?_utf8 (s : String) : utf8Text? (utf8 s) = some s := by
  have octets : utf8 s = s.toByteArray.data.toList := by
    rw [utf8, String.toUTF8_eq_toByteArray, ByteArray.toList, toList_loop]
    rfl
  have same : (utf8 s).toByteArray = s.toByteArray := by
    ext1
    rw [List.data_toByteArray, octets]
  rw [utf8Text?, same, String.fromUTF8?, dif_pos s.isValidUTF8]
  rfl

theorem textOrOctets_utf8 (s : String) : textOrOctets (utf8 s) = .text s := by
  rw [textOrOctets, utf8Text?_utf8]

/-! ## Times -/

end SqlBind.Postgres

namespace SqlBind

/-- Whether the wire holds a time: it counts microseconds, and no leap second. -/
def TimeOfDay.OnWire (t : TimeOfDay) : Prop := t.nano % 1000 = 0 ∧ t.nano < 1000000000

variable {t : TimeOfDay}

theorem TimeOfDay.OnWire.micros_lt (h : t.OnWire) : t.toNanos / 1000 < 86400000000 := by
  have inDay := t.second_lt
  have inSecond := h.2
  unfold TimeOfDay.toNanos
  omega

theorem TimeOfDay.OnWire.ofMicros (h : t.OnWire) :
    Postgres.timeOfMicros? (t.toNanos / 1000 : Nat) = some t := by
  have lt := h.micros_lt
  obtain ⟨whole, inSecond⟩ := h
  have inDay : ((t.toNanos / 1000 : Nat) % 86400000000 : Int).toNat = t.toNanos / 1000 := by omega
  have second : t.toNanos / 1000 / 1000000 = t.second := by
    unfold TimeOfDay.toNanos
    omega
  have nano : t.toNanos / 1000 % 1000000 * 1000 = t.nano := by
    unfold TimeOfDay.toNanos
    omega
  simp only [Postgres.timeOfMicros?, inDay, second, nano, TimeOfDay.ofParts?_self]

namespace Timestamp

/-- Nanoseconds from the start of the year 2000. -/
def nanos2000 (t : Timestamp) : Int :=
  ((t.date.day - Date.year2000) * 86400 + t.time.second) * 1000000000 + t.time.nano

variable {t : Timestamp}

theorem micros2000_mul (h : t.time.OnWire) : t.micros2000 * 1000 = t.nanos2000 := by
  obtain ⟨whole, -⟩ := h
  have divides : (1000 : Int) ∣ t.nanos2000 := by
    unfold nanos2000
    omega
  exact Int.tdiv_mul_cancel divides

theorem micros2000_bounds (h : t.time.OnWire) : -2 ^ 63 ≤ t.micros2000 ∧ t.micros2000 < 2 ^ 63 := by
  have exact := micros2000_mul h
  have first := t.date.first_le
  have last := t.date.le_last
  have inDay := t.time.second_lt
  have inSecond := h.2
  unfold nanos2000 Date.year2000 at exact
  omega

theorem wholeInt?_micros2000 (h : t.time.OnWire) :
    BigEndian.wholeInt? 8 (BigEndian.encodeInt 8 t.micros2000) = some t.micros2000 := by
  obtain ⟨low, high⟩ := micros2000_bounds h
  exact BigEndian.wholeInt?_encodeInt (by omega) (by omega)

theorem ofMicros2000?_micros2000 (h : t.time.OnWire) : ofMicros2000? t.micros2000 = some t := by
  have inDay := t.time.second_lt
  have inSecond := h.2
  have day : Date.year2000 + t.nanos2000 / 86400000000000 = t.date.day := by
    unfold nanos2000
    omega
  have rest : (t.nanos2000 % 86400000000000).toNat = t.time.second * 1000000000 + t.time.nano := by
    unfold nanos2000
    omega
  have second : (t.time.second * 1000000000 + t.time.nano) / 1000000000 = t.time.second := by omega
  have nano : (t.time.second * 1000000000 + t.time.nano) % 1000000000 = t.time.nano := by omega
  simp only [ofMicros2000?, micros2000_mul h, ofDayNanos?, day, rest, second, nano, Date.ofDay?_day,
    TimeOfDay.ofParts?_self, Option.bind_eq_bind, Option.bind_some]

end Timestamp

namespace Postgres

/-! ## Values of a type -/

/-- The values that a scalar type has, as its reader makes them. -/
inductive Scalar.Native : Scalar → Value → Prop
  | bool (b : Bool) : Native .bool (.bool b)
  | int2 {n : Int64} (inRange : -2 ^ 15 ≤ n.toInt ∧ n.toInt ≤ 2 ^ 15 - 1) : Native .int2 (.int n)
  | int4 {n : Int64} (inRange : -2 ^ 31 ≤ n.toInt ∧ n.toInt ≤ 2 ^ 31 - 1) : Native .int4 (.int n)
  | int8 (n : Int64) : Native .int8 (.int n)
  | oid {n : Int64} (inRange : 0 ≤ n.toInt ∧ n.toInt ≤ 2 ^ 32 - 1) : Native .oid (.int n)
  | float8 (x : Double) : Native .float8 (.float x)
  | bytea (octets : List UInt8) : Native .bytea (.bytes octets)
  | text (s : String) : Native .text (.text s)
  | varchar (s : String) : Native .varchar (.text s)
  | bpchar (s : String) : Native .bpchar (.text s)
  | name (s : String) : Native .name (.text s)
  | uuid (u : Uuid) : Native .uuid (.uuid u)
  | date (d : Date) : Native .date (.date d)
  | time {t : TimeOfDay} (onWire : t.OnWire) : Native .time (.time t)
  | timestamp {t : Timestamp} (onWire : t.time.OnWire) : Native .timestamp (.timestamp t)
  | timestamptz {t : Timestamp} (onWire : t.time.OnWire) : Native .timestamptz (.instant t)

theorem ofNat_toNat_toInt {n : Int64} (h : 0 ≤ n.toInt) : Int64.ofNat n.toInt.toNat = n := by
  rw [← Int64.ofInt_eq_ofNat, Int.toNat_of_nonneg h, Int64.ofInt_toInt]

/-- An integer within the bounds of its type, written and read. -/
theorem bounded_readsBack {width : Nat} {low high : Int} {n : Int64}
    (inRange : low ≤ n.toInt ∧ n.toInt ≤ high) (least : -(256 ^ width : Nat) ≤ 2 * low)
    (greatest : 2 * high < (256 ^ width : Nat)) :
    bounded width low high n = .ok (BigEndian.encodeInt width n.toInt) ∧
      (BigEndian.wholeInt? width (BigEndian.encodeInt width n.toInt)).map
        (fun n => Value.int (.ofInt n)) = some (.int n) := by
  refine ⟨if_pos inRange, ?_⟩
  rw [BigEndian.wholeInt?_encodeInt (by omega) (by omega), Option.map_some, Int64.ofInt_toInt]

theorem decodeScalar?_time {octets : List UInt8} {micros : Int} {t : TimeOfDay}
    (read : BigEndian.wholeInt? 8 octets = some micros) (time : timeOfMicros? micros = some t) :
    decodeScalar? .time octets = some (.time t) := by
  simp only [decodeScalar?, read, time, Option.bind_eq_bind, Option.bind_some, Option.map_some]

/-- **A type's own values read back** from what is written for them. -/
theorem Scalar.Native.readsBack {type : Scalar} {v : Value} (h : type.Native v) :
    ∃ octets, encodeScalar type v = .ok octets ∧ decodeScalar? type octets = some v := by
  cases h with
  | bool b => cases b <;> exact ⟨_, rfl, rfl⟩
  | int2 inRange => exact ⟨_, bounded_readsBack inRange (by omega) (by omega)⟩
  | int4 inRange => exact ⟨_, bounded_readsBack inRange (by omega) (by omega)⟩
  | int8 n =>
    have inRange : -2 ^ 63 ≤ n.toInt ∧ n.toInt ≤ 2 ^ 63 - 1 := by
      have low := n.le_toInt
      have high := n.toInt_lt
      omega
    exact ⟨_, bounded_readsBack inRange (by omega) (by omega)⟩
  | @oid n inRange =>
    obtain ⟨low, high⟩ := inRange
    refine ⟨_, if_pos ⟨low, high⟩, ?_⟩
    have written : BigEndian.encodeInt 4 n.toInt = BigEndian.encode 4 n.toInt.toNat := by
      rw [← BigEndian.encodeInt_natCast (by omega), Int.toNat_of_nonneg low]
    rw [decodeScalar?, written, BigEndian.wholeNat?_encode (by omega), Option.map_some,
      ofNat_toNat_toInt low]
  | float8 x =>
    have bits := x.bits.toNat_lt
    refine ⟨_, rfl, ?_⟩
    rw [decodeScalar?, BigEndian.wholeNat?_encode (by omega), Option.map_some, UInt64.ofNat_toNat]
  | bytea octets => exact ⟨octets, rfl, rfl⟩
  | text s | varchar s | bpchar s | name s => exact ⟨_, rfl, congrArg some (textOrOctets_utf8 s)⟩
  | uuid u =>
    refine ⟨_, rfl, ?_⟩
    rw [decodeScalar?, Uuid.ofOctets?_octets, Option.map_some]
  | date d =>
    have first := d.first_le
    have last := d.le_last
    have days : Date.year2000 + (d.day - Date.year2000) = d.day := by omega
    refine ⟨_, rfl, ?_⟩
    have written : BigEndian.wholeInt? 4 (BigEndian.encodeInt 4 (d.day - Date.year2000)) = some _ :=
      BigEndian.wholeInt?_encodeInt (by unfold Date.year2000; omega) (by unfold Date.year2000; omega)
    simp only [decodeScalar?, written, days, Date.ofDay?_day, Option.bind_eq_bind, Option.bind_some,
      Option.map_some]
  | @time t onWire =>
    have lt := onWire.micros_lt
    have written : BigEndian.wholeInt? 8 (BigEndian.encode 8 (t.toNanos / 1000)) =
        some (t.toNanos / 1000 : Nat) := by
      rw [← BigEndian.encodeInt_natCast (by omega)]
      exact BigEndian.wholeInt?_encodeInt (by omega) (by omega)
    exact ⟨_, rfl, decodeScalar?_time written onWire.ofMicros⟩
  | timestamp onWire | timestamptz onWire =>
    refine ⟨_, rfl, ?_⟩
    simp only [decodeScalar?, Timestamp.wholeInt?_micros2000 onWire,
      Timestamp.ofMicros2000?_micros2000 onWire, Option.bind_eq_bind, Option.bind_some, Option.map_some]

end Postgres
end SqlBind
