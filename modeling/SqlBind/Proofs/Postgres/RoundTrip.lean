/-
Values of structured types on the wire. Arrays, domains and enumerations are made of
types to any depth, and so are the values that they have (`PgType.Native`): whatever is
written for one reads back as that value (`native_values_read_back`). An array is a row
of cells, each after its length; since the reader of the row takes exactly the cells
that were written (`cells?_encodeCells`), no element can run into the next.
-/
import SqlBind.Proofs.Effect
import SqlBind.Proofs.Postgres.Scalar

namespace SqlBind.Postgres

/-- Whether what is written for a value is short enough to be an element. -/
def PgType.Fits (type : PgType) (v : Value) : Prop :=
  ∀ octets, encode type v = .ok (some octets) → octets.length < lengthLimit

/-- The values that a type has, as its reader makes them. -/
def PgType.Native : PgType → Value → Prop
  | .scalar s, v => s.Native v
  | .array _ element, .array items =>
    items.length < lengthLimit ∧ ∀ v ∈ items, v = .null ∨ element.Native v ∧ element.Fits v
  | .domain base, v => base.Native v
  | .enum, .text _ => True
  | _, _ => False

/-! ## Cells -/

/-- Whether a cell's length can be written. -/
def Sendable (cell : Cell) : Prop := ∀ octets, cell = some octets → octets.length < lengthLimit

theorem encodeCell_reads {cell : Cell} (h : Sendable cell) :
    ∃ octets, encodeCell cell = .ok octets ∧ ∀ count rest,
      cells? (count + 1) (octets ++ rest) = (cells? count rest).map (cell :: ·) := by
  cases cell with
  | none =>
    refine ⟨_, rfl, fun count rest => ?_⟩
    have length : BigEndian.int? 4 (BigEndian.encodeInt 4 (-1) ++ rest) = some (-1, rest) :=
      BigEndian.int?_encodeInt_append (by decide) (by decide) rest
    simp only [cells?, length, Option.bind_eq_bind, Option.bind_some]
    cases cells? count rest <;> rfl
  | some octets =>
    have short := h octets rfl
    refine ⟨_, if_pos short, fun count rest => ?_⟩
    unfold lengthLimit at short
    have length : BigEndian.int? 4 (BigEndian.encode 4 octets.length ++ (octets ++ rest)) =
        some ((octets.length : Int), octets ++ rest) := BigEndian.int?_encode_append (by omega) _
    have positive : ¬(octets.length : Int) < 0 := by omega
    have content : BigEndian.take? (octets.length : Int).toNat (octets ++ rest) = some (octets, rest) :=
      BigEndian.take?_append (Int.toNat_natCast _).symm
    simp only [List.append_assoc, cells?, length, content, if_neg positive, Option.bind_eq_bind,
      Option.bind_some]
    cases cells? count rest <;> rfl

/-- A row of cells is written, and its reader finds exactly those. -/
theorem cells?_encodeCells {cells : List Cell} (h : ∀ cell ∈ cells, Sendable cell) :
    ∃ content, encodeCells cells = .ok content ∧ cells? cells.length content = some cells := by
  induction cells with
  | nil => exact ⟨[], rfl, rfl⟩
  | cons cell cells ih =>
    obtain ⟨first, written, reads⟩ := encodeCell_reads (h cell List.mem_cons_self)
    obtain ⟨others, rest, read⟩ := ih fun cell mem => h cell (List.mem_cons_of_mem _ mem)
    refine ⟨first ++ others, ?_, ?_⟩
    · rw [encodeCells, written, rest]
      rfl
    · rw [List.length_cons, reads, read, Option.map_some]

/-- An array of cells is written, and its reader finds exactly those. -/
theorem arrayCells?_encodeArray (origin : ArrayOrigin) (element : PgType) {cells : List Cell}
    (count : cells.length < lengthLimit) (h : ∀ cell ∈ cells, Sendable cell) :
    ∃ octets, encodeArray origin element cells = .ok octets ∧ arrayCells? octets = some cells := by
  obtain ⟨content, written, read⟩ := cells?_encodeCells h
  refine ⟨BigEndian.encode 4 1 ++ BigEndian.encode 4 (if cells.any Option.isNone then 1 else 0)
      ++ BigEndian.encode 4 element.oid ++ BigEndian.encode 4 cells.length
      ++ BigEndian.encode 4 (firstIndex origin) ++ content, ?_, ?_⟩
  · rw [encodeArray, written]
    exact if_pos count
  · unfold lengthLimit at count
    have dimensions (rest : List UInt8) :
        BigEndian.int? 4 (BigEndian.encode 4 1 ++ rest) = some (1, rest) :=
      BigEndian.int?_encode_append (by decide) rest
    have length (rest : List UInt8) :
        BigEndian.int? 4 (BigEndian.encode 4 cells.length ++ rest) = some ((cells.length : Int), rest) :=
      BigEndian.int?_encode_append (by omega) rest
    have positive : ¬(cells.length : Int) < 0 := by omega
    simp only [arrayCells?, List.append_assoc, dimensions, length, BigEndian.nat?_encode_append,
      Option.bind_eq_bind, Option.bind_some, if_neg positive, Int.toNat_natCast, read]
    rfl

/-! ## Values -/

theorem encode_null (type : PgType) : encode type .null = .ok none := by
  cases type <;> rfl

/-- The cells of an array's elements, each of which is `NULL` or reads back, and the
elements again. -/
theorem encode_elements {element : PgType} {items : List Value}
    (h : ∀ v ∈ items, v = .null ∨ element.Fits v ∧
      ∃ octets, encode element v = .ok (some octets) ∧ decode? element octets = some v) :
    ∃ cells, items.mapM (encode element) = .ok cells ∧ cells.length = items.length ∧
      (∀ cell ∈ cells, Sendable cell) ∧ cellValues? (decode? element) cells = some items := by
  induction items with
  | nil => exact ⟨[], rfl, rfl, by simp, rfl⟩
  | cons v items ih =>
    obtain ⟨cells, written, length, sendable, read⟩ := ih fun v mem => h v (List.mem_cons_of_mem _ mem)
    rcases h v List.mem_cons_self with rfl | ⟨fits, octets, first, back⟩
    · refine ⟨none :: cells, ?_, ?_, ?_, ?_⟩
      · rw [List.mapM_cons, encode_null, written]
        rfl
      · rw [List.length_cons, List.length_cons, length]
      · simpa [Sendable] using sendable
      · rw [cellValues?, read, Option.map_some]
    · refine ⟨some octets :: cells, ?_, ?_, ?_, ?_⟩
      · rw [List.mapM_cons, first, written]
        rfl
      · rw [List.length_cons, List.length_cons, length]
      · intro cell mem
        rcases List.mem_cons.mp mem with rfl | later
        · rintro _ ⟨⟩
          exact fits octets first
        · exact sendable cell later
      · rw [cellValues?, back, read]
        rfl

theorem Scalar.Native.isNull {type : Scalar} {v : Value} (h : type.Native v) : v.isNull = false := by
  cases h <;> rfl

theorem PgType.Native.isNull {type : PgType} {v : Value} (h : type.Native v) : v.isNull = false := by
  induction type with
  | scalar s => exact Scalar.Native.isNull h
  | domain base ih => exact ih h
  | array origin element ih | enum => cases v <;> first | rfl | exact h.elim

/-- **A type's own values read back**, of whatever arrays and domains the type is made:
each is written, and its octets are read as the same value again. -/
theorem native_values_read_back (type : PgType) (v : Value) (native : type.Native v) :
    ∃ octets, encode type v = .ok (some octets) ∧ decode? type octets = some v := by
  have present := native.isNull
  induction type generalizing v with
  | scalar s =>
    obtain ⟨octets, written, read⟩ := Scalar.Native.readsBack native
    refine ⟨octets, ?_, read⟩
    simp only [encode, present, Bool.false_eq_true, if_false, written]
    rfl
  | array origin element ih =>
    cases v with
    | array items =>
      obtain ⟨count, elements⟩ := native
      obtain ⟨cells, written, length, sendable, read⟩ := @encode_elements element items fun v mem => by
        rcases elements v mem with null | ⟨native, fits⟩
        · exact .inl null
        · exact .inr ⟨fits, ih v native native.isNull⟩
      obtain ⟨octets, row, cellsRead⟩ :=
        arrayCells?_encodeArray origin element (by rw [length]; exact count) sendable
      refine ⟨octets, ?_, ?_⟩
      · simp only [encode, present, Bool.false_eq_true, if_false, Postgres.items, written]
        change (encodeArray origin element cells >>= fun octets => .ok (some octets)) = _
        rw [row]
        rfl
      · simp only [decode?, cellsRead, Option.bind_eq_bind, Option.bind_some, read, Option.map_some]
    | _ => exact native.elim
  | domain base ih =>
    obtain ⟨octets, written, read⟩ := ih v native present
    refine ⟨octets, ?_, read⟩
    simp only [encode, present, Bool.false_eq_true, if_false, written]
  | enum =>
    cases v with
    | text s => exact ⟨_, rfl, congrArg some (textOrOctets_utf8 s)⟩
    | _ => exact native.elim

/-- Lists of days, themselves in a list: one with a day before the year 2000 and a `NULL`,
a `NULL` in place of a list, and a list of nothing. -/
theorem native_values_read_back_nested :
    let type : PgType := .array .made (.domain (.array .listed (.scalar .date)))
    let v : Value := .array [.array [.date ⟨-1, by decide, by decide⟩, .null], .null, .array []]
    type.Native v ∧ ∃ octets, encode type v = .ok (some octets) ∧ decode? type octets = some v := by
  intro type v
  have short (element : PgType) (v : Value) (octets : List UInt8)
      (written : encode element v = .ok (some octets)) (length : octets.length < lengthLimit) :
      element.Fits v := by
    intro others h
    cases written.symm.trans h
    exact length
  have native : type.Native v := by
    refine ⟨by decide, ?_⟩
    simp only [List.mem_cons, List.not_mem_nil, or_false, forall_eq_or_imp, forall_eq]
    refine ⟨.inr ⟨⟨by decide, ?_⟩, short _ _ _ rfl (by decide)⟩, .inl trivial,
      .inr ⟨⟨by decide, ?_⟩, short _ _ _ rfl (by decide)⟩⟩
    · simp only [List.mem_cons, List.not_mem_nil, or_false, forall_eq_or_imp, forall_eq]
      exact ⟨.inr ⟨.date _, short _ _ _ rfl (by decide)⟩, .inl trivial⟩
    · simp
  exact ⟨native, native_values_read_back type v native⟩

end SqlBind.Postgres
