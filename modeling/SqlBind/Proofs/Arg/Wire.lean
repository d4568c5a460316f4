/-
Documents of arguments are a normal form: an argument that was read of a document is
read again of its own document (`wire_form_reads_back`). Under each tag a value has one
shape, and coercing what the document of this shape denotes gives the value again
(`Coercion.readsBack`); an object that is none of the shapes of arguments is its own
document.
-/
import SqlBind.Arg.Wire
import SqlBind.Proofs.Calendar.Text
import SqlBind.Proofs.Decimal.Text
import SqlBind.Proofs.Effect
import SqlBind.Proofs.Json.Document

namespace SqlBind

/-! ## What a document keeps -/

/-- The same number with as many places. A zero is the same with either sign. -/
def Decimal.Same (d e : Decimal) : Prop :=
  d.coefficient = e.coefficient ∧ d.scale = e.scale ∧ (d.negative = e.negative ∨ d.coefficient = 0)

inductive Value.Same : Value → Value → Prop
  | refl (v : Value) : Same v v
  | decimal {d e : Decimal} (same : d.Same e) : Same (.decimal d) (.decimal e)

/-- The same argument: variant, tags, element types and values agree. -/
inductive Arg.Same : Arg → Arg → Prop
  | raw (v : Value) : Same (.raw v) (.raw v)
  | literal (fragment : String) : Same (.literal fragment) (.literal fragment)
  | out (type : SqlType) : Same (.out type) (.out type)
  | typed {type : SqlType} {v w : Value} {elementType : Option String} (same : v.Same w) :
    Same (.typed type v elementType) (.typed type w elementType)
  | inOut {type : SqlType} {a b : Arg} (same : Same a b) : Same (.inOut type a) (.inOut type b)

theorem Arg.Same.refl (a : Arg) : a.Same a := by
  induction a with
  | raw v => exact .raw v
  | literal fragment => exact .literal fragment
  | out type => exact .out type
  | typed type v elementType => exact .typed (.refl v)
  | inOut type input ih => exact .inOut ih

/-- A value of which a document tells all: no float that is no number, and no instant of
a year without four digits. -/
def Value.Portable : Value → Prop
  | .float x => x.isFinite = true
  | .instant t => Calendar.InFourDigits t.date
  | _ => True

def Arg.Portable : Arg → Prop
  | .raw v | .typed _ v _ => v.Portable
  | .inOut _ input => input.Portable
  | .literal _ | .out _ => True

theorem Decimal.same_unsignedZero (d : Decimal) : d.Same d.unsignedZero := by
  refine ⟨rfl, rfl, ?_⟩
  by_cases zero : d.coefficient = 0
  · exact .inr zero
  · refine .inl ?_
    simp [unsignedZero, zero]

/-! ## Under a tag -/

namespace Coercion

/-- The value that a shape's document denotes has this shape again. -/
def ReadsBack (type : SqlType) (w : Value) : Prop :=
  ∃ u, type.coerce (.ofJson w.toJson) = .ok u ∧ w.Same u

theorem readsBack_of_present {type : SqlType} {w v : Value} (document : .ofJson w.toJson = v)
    (present : v.isNull = false) {u : Value} (shape : coercePresent type v = .ok u) (same : w.Same u) :
    ReadsBack type w := by
  refine ⟨u, ?_, same⟩
  rw [document, SqlType.coerce, present, Bool.false_and, if_neg (by decide)]
  exact shape

theorem eq_of_orNotCoercible {type : SqlType} {v w : Value} {α : Type} {shape : α → Value}
    {found : Option α} (h : orNotCoercible type v (found.map shape) = .ok w) : ∃ a, w = shape a := by
  cases found with
  | none => cases h
  | some a =>
    cases h
    exact ⟨a, rfl⟩

theorem octets_toJson (bs : List UInt8) :
    octets (Value.ofJsonList (bs.map fun b => .int b.toNat)) = .ok bs := by
  induction bs with
  | nil => rfl
  | cons b bs ih =>
    have bound := b.toNat_lt
    have word : int64? b.toNat = some (.ofInt b.toNat) := if_pos (by omega)
    have whole := toInt_of_int64? word
    have octet : toOctet? (.ofJson (.int b.toNat)) = some b := by
      rw [Value.ofJson, word]
      simp only [toOctet?, Value.asInt64?, Option.bind_some, whole]
      rw [if_pos (by omega)]
      simp
    rw [List.map_cons, Value.ofJsonList, octets, octet, ih]
    rfl

theorem bytes_of_coercePresent {v w : Value} (h : coercePresent .binary v = .ok w) :
    ∃ bs, w = .bytes bs := by
  cases v with
  | text | bytes =>
    cases h
    exact ⟨_, rfl⟩
  | array items =>
    rw [coercePresent] at h
    cases listed : octets items with
    | error e =>
      rw [listed] at h
      cases h
    | ok bs =>
      rw [listed] at h
      cases h
      exact ⟨bs, rfl⟩
  | _ => cases h

/-- A date, a local time or an instant, which is what dates are coerced into. -/
def IsDate : Value → Prop
  | .date _ | .timestamp _ | .instant _ => True
  | _ => False

theorem isDate_of_toDate? {v w : Value} (h : toDate? v = some w) : IsDate w := by
  cases v with
  | date | timestamp | instant =>
    cases h
    trivial
  | int millis =>
    obtain ⟨t, -, rfl⟩ := Option.map_eq_some_iff.mp h
    trivial
  | text s =>
    simp only [toDate?, Option.or_eq_some_iff, Option.map_eq_some_iff] at h
    rcases h with ⟨_, -, rfl⟩ | ⟨-, ⟨_, -, rfl⟩ | ⟨-, ⟨_, -, rfl⟩ | ⟨-, _, -, rfl⟩⟩⟩ <;> trivial
  | _ => cases h

/-- The text of a date, of a local time or of an instant is tried as all three; only the
reader of its own kind takes it. -/
theorem toDate?_date (d : Date) : toDate? (.text (.ofList d.text)) = some (.date d) := by
  simp only [toDate?, String.toList_ofList, Text.trim_of_forall d.not_blank_text,
    Timestamp.ofInstant?_date, Timestamp.ofSpaced?_date, Timestamp.ofMarked?_date, Date.ofText?_text]
  rfl

theorem toDate?_timestamp (t : Timestamp) : toDate? (.text (.ofList t.text)) = some (.timestamp t) := by
  simp only [toDate?, String.toList_ofList, t.trim_text, Timestamp.ofInstant?_text,
    Timestamp.ofSpaced?_text]
  rfl

theorem toDate?_instant {t : Timestamp} (plain : Calendar.InFourDigits t.date) :
    toDate? (.text (.ofList t.instantText)) = some (.instant t) := by
  simp only [toDate?, String.toList_ofList, t.trim_instantText,
    Timestamp.ofInstant?_instantText plain]
  rfl

theorem toTime?_time (t : TimeOfDay) : toTime? (.text (.ofList t.text)) = some t := by
  rw [toTime?, String.toList_ofList, Text.trim_of_forall t.not_blank_text, TimeOfDay.ofText?_text]

theorem readsBack_date {w : Value} (date : IsDate w) (portable : w.Portable) : ReadsBack .date w := by
  cases w with
  | date d =>
    have document : Value.ofJson (Value.date d).toJson = .text (.ofList d.text) := rfl
    refine readsBack_of_present document rfl ?_ (.refl _)
    rw [coercePresent, toDate?_date]
    rfl
  | timestamp t =>
    have document : Value.ofJson (Value.timestamp t).toJson = .text (.ofList t.text) := rfl
    refine readsBack_of_present document rfl ?_ (.refl _)
    rw [coercePresent, toDate?_timestamp]
    rfl
  | instant t =>
    have document : Value.ofJson (Value.instant t).toJson = .text (.ofList t.instantText) := rfl
    refine readsBack_of_present document rfl ?_ (.refl _)
    rw [coercePresent, toDate?_instant portable]
    rfl
  | _ => exact date.elim

/-- **A value that was coerced is coerced again**, of its own document. -/
theorem readsBack {type : SqlType} {j : Json} (document : j.Document) (scalar : type ≠ .array) {w : Value}
    (coerced : type.coerce (.ofJson j) = .ok w) (portable : w.Portable) : ReadsBack type w := by
  have again := Value.ofJson_toJson document
  unfold SqlType.coerce at coerced
  split at coerced
  · next null =>
    cases coerced
    refine ⟨.null, ?_, .refl _⟩
    rw [Bool.and_eq_true] at null
    rw [SqlType.coerce, if_pos (by rw [null.2]; rfl)]
  · next present =>
    cases type with
    | int | long =>
      obtain ⟨n, rfl⟩ := eq_of_orNotCoercible coerced
      have document : Value.ofJson (Value.int n).toJson = .int n := by
        rw [Value.toJson, Value.ofJson, int64?_toInt]
      exact readsBack_of_present document rfl rfl (.refl _)
    | double | float =>
      obtain ⟨x, rfl⟩ := eq_of_orNotCoercible coerced
      have document : Value.ofJson (Value.float x).toJson = .float x := by
        rw [Value.toJson_float portable, Value.ofJson]
      exact readsBack_of_present document rfl rfl (.refl _)
    | decimal =>
      obtain ⟨d, rfl⟩ := eq_of_orNotCoercible coerced
      have document : Value.ofJson (Value.decimal d).toJson = .text d.toText := rfl
      refine readsBack_of_present document rfl ?_ (.decimal d.same_unsignedZero)
      rw [coercePresent, toDecimal?, Decimal.trimmed_toText, Decimal.ofText?_toText]
      rfl
    | boolean | string =>
      cases coerced
      exact readsBack_of_present rfl rfl rfl (.refl _)
    | binary =>
      obtain ⟨bs, rfl⟩ := bytes_of_coercePresent coerced
      have document : Value.ofJson (Value.bytes bs).toJson =
          .array (Value.ofJsonList (bs.map fun b => .int b.toNat)) := rfl
      refine readsBack_of_present document rfl ?_ (.refl _)
      rw [coercePresent, octets_toJson]
      rfl
    | date =>
      refine readsBack_date (isDate_of_toDate? (v := .ofJson j) ?_) portable
      cases found : toDate? (.ofJson j) with
      | none =>
        rw [coercePresent, found] at coerced
        cases coerced
      | some _ =>
        rw [coercePresent, found] at coerced
        cases coerced
        rfl
    | time =>
      obtain ⟨t, rfl⟩ := eq_of_orNotCoercible coerced
      have document : Value.ofJson (Value.time t).toJson = .text (.ofList t.text) := rfl
      refine readsBack_of_present document rfl ?_ (.refl _)
      rw [coercePresent, toTime?_time]
      rfl
    | array => exact absurd rfl scalar
    | json | jsonb | outCursor | raw =>
      cases coerced
      have filled : (Value.ofJson j).isNull = false := by simpa using present
      exact readsBack_of_present again filled rfl (.refl _)

end Coercion

/-! ## Arguments -/

theorem SqlType.ofTag?_tag (type : SqlType) : ofTag? type.tag = some type := by
  cases type <;> decide

theorem SqlType.ofText?_tag (type : SqlType) : ofText? type.tag = some type := by
  cases type <;> decide

namespace Arg

/-- The argument of its document. -/
def ReadsBack (a : Arg) : Prop := ∃ b, ofJson a.toJson = .ok b ∧ a.Same b

/-- An object that has no shape of an argument is its own document. -/
theorem readsBack_object {members : List (String × Json)} {a : Arg}
    (read : ofJson (.obj members) = .ok a) (same : a = .raw (.json (.obj members))) : a.ReadsBack := by
  subst same
  exact ⟨_, read, .refl _⟩

theorem ofJson_tag (type : SqlType) (content : Json) :
    ofJson (.obj [(type.tag, content)]) = ofTagged type content := by
  have named : type.tag ≠ "SQL" := by
    cases type <;> decide
  rw [ofJson, ofMember, if_neg named, SqlType.ofTag?_tag]

theorem ofTagged_scalar {type : SqlType} (scalar : type ≠ .array) (content : Json) :
    ofTagged type content = coerced type (.ofJson content) := if_neg scalar

theorem toJson_ofType (type : SqlType) (v : Value) :
    (ofType type v).toJson = .obj [(type.tag, v.toJson)] := by
  cases v <;> rfl

theorem readsBack_tagged {type : SqlType} {content : Json} (document : content.Document) {a : Arg}
    (read : ofTagged type content = .ok a) (portable : a.Portable) : a.ReadsBack := by
  by_cases list : type = .array
  · subst list
    cases document with
    | arr all =>
      next items =>
      cases items with
      | nil => cases read
      | cons first items =>
        cases first with
        | str elementType =>
          cases read
          have again := Value.ofJsonList_toJsonList fun j mem => all j (List.mem_cons_of_mem _ mem)
          have listed : ofTagged .array (.arr (.str elementType ::
              Value.toJsonList (Value.ofJsonList items))) =
                .ok (array elementType (Value.ofJsonList items)) := by
            rw [ofTagged, if_pos rfl, again]
          exact ⟨_, (ofJson_tag .array _).trans listed, .refl _⟩
        | _ => cases read
    | _ => cases read
  · rw [ofTagged_scalar list, coerced] at read
    cases shape : type.coerce (.ofJson content) with
    | error e =>
      rw [shape] at read
      cases read
    | ok w =>
      rw [shape] at read
      cases read
      obtain ⟨u, again, same⟩ := Coercion.readsBack document list shape portable
      refine ⟨ofType type u, ?_, .typed same⟩
      rw [toJson_ofType, ofJson_tag, ofTagged_scalar list, coerced, again]
      rfl

theorem ofJson_plain {j : Json} (plain : ∀ members, j ≠ .obj members) :
    ofJson j = .ok (.raw (.ofJson j)) := by
  cases j with
  | obj members => exact absurd rfl (plain members)
  | _ => rfl

theorem readsBack_fragment {content : Json} {a : Arg} (read : ofFragment content = .ok a) :
    a.ReadsBack := by
  cases content with
  | str fragment =>
    cases read
    exact ⟨_, rfl, .refl _⟩
  | _ => cases read

theorem readsBack_out (type : SqlType) : (out type).ReadsBack := by
  refine ⟨_, ?_, .refl _⟩
  rw [toJson, ofJson, ofMember, if_neg (by decide)]
  have tag : SqlType.ofTag? "OUT" = none := by decide
  rw [tag, if_pos rfl, outType, SqlType.ofText?_tag]
  rfl

theorem readsBack_inOut {input : Arg} (type : SqlType) (again : input.ReadsBack) :
    (inOut type input).ReadsBack := by
  obtain ⟨b, read, same⟩ := again
  refine ⟨.inOut type b, ?_, .inOut same⟩
  rw [toJson, ofJson, if_pos ⟨rfl, rfl⟩, outType, SqlType.ofText?_tag, read]
  rfl

theorem readsBack_member {key : String} {content : Json} (document : content.Document) {a : Arg}
    (read : ofMember key content = .ok a) (portable : a.Portable) : a.ReadsBack := by
  have whole : ofJson (.obj [(key, content)]) = .ok a := read
  unfold ofMember at read
  split at read
  · exact readsBack_fragment read
  · split at read
    · exact readsBack_tagged document read portable
    · split at read
      · cases found : outType content with
        | error e =>
          rw [found] at read
          cases read
        | ok type =>
          rw [found] at read
          cases read
          exact readsBack_out type
      · cases read
        exact readsBack_object whole rfl

/-- **The document of an argument is a normal form**: an argument that was read of a
document is read of its own document again. -/
theorem wire_form_reads_back {j : Json} (document : j.Document) {a : Arg} (read : ofJson j = .ok a)
    (portable : a.Portable) : ∃ b, ofJson a.toJson = .ok b ∧ a.Same b := by
  induction j using ofJson.induct generalizing a with
  | case1 key content =>
    cases document with | obj all =>
    exact readsBack_member (all _ List.mem_cons_self) read portable
  | case2 first a second b names ih =>
    cases document with | obj all =>
    rw [ofJson, if_pos names] at read
    obtain ⟨type, -, read⟩ := Except.bind_ok_iff.mp read
    obtain ⟨input, inner, read⟩ := Except.bind_ok_iff.mp read
    cases read
    exact readsBack_inOut type (ih (all (second, b) (by simp)) inner portable)
  | case3 first a second b other names ih =>
    cases document with | obj all =>
    rw [ofJson, if_neg other, if_pos names] at read
    obtain ⟨type, -, read⟩ := Except.bind_ok_iff.mp read
    obtain ⟨input, inner, read⟩ := Except.bind_ok_iff.mp read
    cases read
    exact readsBack_inOut type (ih (all (first, a) (by simp)) inner portable)
  | case4 first a second b other other' =>
    have whole := read
    rw [ofJson, if_neg other, if_neg other'] at read
    cases read
    exact readsBack_object whole rfl
  | case5 members one two =>
    have whole := read
    rw [ofJson] at read
    · cases read
      exact readsBack_object whole rfl
    · exact one
    · exact two
  | case6 j one two object =>
    have plain : ∀ members, j ≠ .obj members := object
    rw [ofJson_plain plain] at read
    cases read
    refine ⟨_, ofJson_plain (Value.toJson_plain document plain), ?_⟩
    rw [toJson, Value.ofJson_toJson document]
    exact .refl _

/-- A leap second that is passed into an output parameter, in another zone than it comes back in. -/
theorem wire_form_reads_back_leapSecond :
    let j : Json := .obj [("VALUE", .obj [("DATE", .str " 2017-01-01 00:59:60.5+01:00")]),
      ("OUT", .str "date")]
    let leap : Timestamp := ⟨⟨17166, by decide, by decide⟩,
      ⟨86399, 1500000000, by decide, by decide, by decide⟩⟩
    let a : Arg := .inOut .date (.typed .date (.instant leap) none)
    j.Document ∧ ofJson j = .ok a ∧ a.Portable ∧ ∃ b, ofJson a.toJson = .ok b ∧ a.Same b := by
  intro j leap a
  have document : j.Document := by
    refine .obj fun m mem => ?_
    rcases List.mem_cons.mp mem with rfl | mem
    · refine .obj fun m mem => ?_
      cases List.mem_singleton.mp mem
      exact .str _
    · cases List.mem_singleton.mp mem
      exact .str _
  have instant : Timestamp.ofInstant? (Text.trim " 2017-01-01 00:59:60.5+01:00".toList) = some leap := by
    decide +kernel
  have tag : SqlType.ofText? "date" = some .date := by decide
  have input : ofJson (.obj [("DATE", .str " 2017-01-01 00:59:60.5+01:00")]) =
      .ok (ofType .date (.instant leap)) := by
    refine (ofJson_tag .date _).trans ?_
    rw [ofTagged_scalar (by decide), coerced, Value.ofJson, SqlType.coerce]
    simp only [Value.isNull, Coercion.coercePresent, Coercion.toDate?, instant]
    rfl
  have read : ofJson j = .ok a := by
    rw [ofJson, if_neg (by decide), if_pos ⟨rfl, rfl⟩, outType, tag, input]
    rfl
  have portable : a.Portable := ⟨by decide, by decide⟩
  exact ⟨document, read, portable, wire_form_reads_back document read portable⟩

end Arg
end SqlBind
