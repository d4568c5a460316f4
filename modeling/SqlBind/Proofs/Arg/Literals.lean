/-
Literals and documents. The document of a literal is an object like any other, and a
document that a user gives may be the same object. A value under a tag is written under
its tag, and so is read as a value whatever it holds; but a document without a tag is
written as it stands. If it has the shape of a literal, it is read as one
(`literals_read_back_iff`), in a row as well as inside an output.
-/
import SqlBind.Proofs.Arg.Wire
import SqlBind.Proofs.TwoRuns

namespace SqlBind

/-- The fragment of the literal that an argument is or that it passes in. -/
def Arg.fragment? : Arg → Option String
  | .literal fragment => some fragment
  | .inOut _ input => input.fragment?
  | .raw _ | .typed .. | .out _ => none

/-- The document that an argument is without a tag, or that it passes in so. -/
def Arg.rawDocument? : Arg → Option Json
  | .raw (.json j) => some j
  | .inOut _ input => input.rawDocument?
  | _ => none

/-- A document that is read as a literal, or as outputs around one. -/
inductive Json.Marks (fragment : String) : Json → Prop
  | literal : Marks fragment (.obj [("SQL", .str fragment)])
  | input {tag : String} {type : SqlType} {j : Json} (known : SqlType.ofText? tag = some type)
      (marks : Marks fragment j) : Marks fragment (.obj [("OUT", .str tag), ("VALUE", j)])
  | inputFirst {tag : String} {type : SqlType} {j : Json}
      (known : SqlType.ofText? tag = some type) (marks : Marks fragment j) :
      Marks fragment (.obj [("VALUE", j), ("OUT", .str tag)])

namespace Arg

/-! ## Reading -/

theorem outType_eq_ok {j : Json} {type : SqlType} :
    outType j = .ok type ↔ ∃ tag, j = .str tag ∧ SqlType.ofText? tag = some type := by
  cases j with
  | str tag =>
    rw [outType]
    cases known : SqlType.ofText? tag <;> simp [known]
  | _ => exact iff_of_false (by rintro ⟨⟩) (by rintro ⟨_, ⟨⟩, _⟩)

/-- What stands under a tag is a value under a tag. -/
theorem ofTagged_eq_ok {type : SqlType} {content : Json} {b : Arg}
    (read : ofTagged type content = .ok b) : ∃ v elementType, b = .typed type v elementType := by
  by_cases list : type = .array
  · subst list
    cases content with
    | arr items =>
      cases items with
      | nil => cases read
      | cons first items =>
        cases first with
        | str elementType =>
          cases read
          exact ⟨_, _, rfl⟩
        | _ => cases read
    | _ => cases read
  · rw [ofTagged_scalar list, coerced] at read
    cases shape : type.coerce (.ofJson content) with
    | error e =>
      rw [shape] at read
      cases read
    | ok w =>
      rw [shape] at read
      cases read
      exact ⟨w, none, rfl⟩

theorem ofFragment_eq_ok {content : Json} {b : Arg} (read : ofFragment content = .ok b) :
    ∃ fragment, content = .str fragment ∧ b = .literal fragment := by
  cases content with
  | str fragment =>
    cases read
    exact ⟨fragment, rfl, rfl⟩
  | _ => cases read

/-- Of the objects with one member, that of a literal alone is read with a literal. -/
theorem ofMember_fragment {key : String} {content : Json} {b : Arg} {s : String}
    (read : ofMember key content = .ok b) (fragment : b.fragment? = some s) :
    key = "SQL" ∧ content = .str s := by
  unfold ofMember at read
  split at read
  · rename_i named
    obtain ⟨f, rfl, rfl⟩ := ofFragment_eq_ok read
    cases fragment
    exact ⟨named, rfl⟩
  · split at read
    · obtain ⟨v, elementType, rfl⟩ := ofTagged_eq_ok read
      cases fragment
    · split at read
      · cases found : outType content with
        | error e =>
          rw [found] at read
          cases read
        | ok type =>
          rw [found] at read
          cases read
          cases fragment
      · cases read
        cases fragment

/-- An output with an input is read of both of its members. -/
theorem ofJson_output_eq_ok {output input : Json} {b : Arg} :
    ofJson (.obj [("OUT", output), ("VALUE", input)]) = .ok b ↔
      ∃ tag type a, output = .str tag ∧ SqlType.ofText? tag = some type ∧ ofJson input = .ok a ∧
        b = .inOut type a := by
  rw [ofJson, if_pos ⟨rfl, rfl⟩]
  constructor
  · intro read
    obtain ⟨type, out, read⟩ := Except.bind_ok_iff.mp read
    obtain ⟨a, inner, read⟩ := Except.bind_ok_iff.mp read
    obtain ⟨tag, text, known⟩ := outType_eq_ok.mp out
    cases read
    exact ⟨tag, type, a, text, known, inner, rfl⟩
  · rintro ⟨tag, type, a, rfl, known, inner, rfl⟩
    rw [outType_eq_ok.mpr ⟨tag, rfl, known⟩, inner]
    rfl

/-- The order of the members does not matter. -/
theorem ofJson_outputLast (output input : Json) :
    ofJson (.obj [("VALUE", input), ("OUT", output)]) =
      ofJson (.obj [("OUT", output), ("VALUE", input)]) := by
  rw [ofJson, if_neg (by decide), if_pos ⟨rfl, rfl⟩, ofJson, if_pos ⟨rfl, rfl⟩]

theorem marks_of_ofJson {j : Json} {b : Arg} {s : String} (read : ofJson j = .ok b)
    (fragment : b.fragment? = some s) : j.Marks s := by
  induction j using ofJson.induct generalizing b with
  | case1 key content =>
    obtain ⟨rfl, rfl⟩ := ofMember_fragment read fragment
    exact .literal
  | case2 first output second input names ih =>
    obtain ⟨rfl, rfl⟩ := names
    obtain ⟨tag, type, a, rfl, known, inner, rfl⟩ := ofJson_output_eq_ok.mp read
    exact .input known (ih inner fragment)
  | case3 first input second output other names ih =>
    obtain ⟨rfl, rfl⟩ := names
    rw [ofJson_outputLast] at read
    obtain ⟨tag, type, a, rfl, known, inner, rfl⟩ := ofJson_output_eq_ok.mp read
    exact .inputFirst known (ih inner fragment)
  | case4 first a second b other other' =>
    rw [ofJson, if_neg other, if_neg other'] at read
    cases read
    cases fragment
  | case5 members one two =>
    rw [ofJson] at read
    · cases read
      cases fragment
    · exact one
    · exact two
  | case6 j one two object =>
    rw [ofJson_plain object] at read
    cases read
    cases fragment

theorem ofJson_of_marks {j : Json} {s : String} (marks : j.Marks s) :
    ∃ b, ofJson j = .ok b ∧ b.fragment? = some s := by
  induction marks with
  | literal => exact ⟨.literal s, rfl, rfl⟩
  | @input tag type j known _ ih =>
    obtain ⟨b, inner, fragment⟩ := ih
    exact ⟨.inOut type b, ofJson_output_eq_ok.mpr ⟨tag, type, b, rfl, known, inner, rfl⟩, fragment⟩
  | @inputFirst tag type j known _ ih =>
    obtain ⟨b, inner, fragment⟩ := ih
    refine ⟨.inOut type b, ?_, fragment⟩
    rw [ofJson_outputLast]
    exact ofJson_output_eq_ok.mpr ⟨tag, type, b, rfl, known, inner, rfl⟩

/-- A literal is read of its own document alone. -/
theorem ofJson_eq_literal {j : Json} {s : String} :
    ofJson j = .ok (.literal s) ↔ j = .obj [("SQL", .str s)] := by
  constructor
  · intro read
    cases marks_of_ofJson read rfl with
    | literal => rfl
    | input known marks =>
      obtain ⟨_, _, _, _, _, _, output⟩ := ofJson_output_eq_ok.mp read
      cases output
    | inputFirst known marks =>
      rw [ofJson_outputLast] at read
      obtain ⟨_, _, _, _, _, _, output⟩ := ofJson_output_eq_ok.mp read
      cases output
  · rintro rfl
    rfl

end Arg

/-! ## Writing -/

/-- Only a document is written as an object. -/
theorem Value.toJson_eq_obj {v : Value} {members : List (String × Json)} :
    v.toJson = .obj members ↔ v = .json (.obj members) := by
  constructor
  · intro object
    cases v with
    | json j => exact congrArg Value.json object
    | float x =>
      rw [toJson, Json.ofDouble] at object
      split at object <;> cases object
    | _ => cases object
  · rintro rfl
    rfl

namespace Json.Marks

theorem obj {j : Json} {s : String} (marks : j.Marks s) : ∃ members, j = .obj members := by
  cases marks <;> exact ⟨_, rfl⟩

theorem member_iff {key : String} {content : Json} {s : String} :
    Json.Marks s (.obj [(key, content)]) ↔ key = "SQL" ∧ content = .str s := by
  constructor
  · intro marks
    cases marks
    exact ⟨rfl, rfl⟩
  · rintro ⟨rfl, rfl⟩
    exact .literal

theorem input_iff {type : SqlType} {j : Json} {s : String} :
    Json.Marks s (.obj [("OUT", .str type.tag), ("VALUE", j)]) ↔ j.Marks s := by
  constructor
  · intro marks
    generalize output : Json.obj [("OUT", .str type.tag), ("VALUE", j)] = whole at marks
    cases marks with
    | literal => simp at output
    | input known marks =>
      cases output
      exact marks
    | inputFirst known marks => simp at output
  · exact .input type.ofText?_tag

end Json.Marks

namespace Arg

theorem toJson_typed (type : SqlType) (v : Value) (elementType : Option String) :
    ∃ content, (typed type v elementType).toJson = .obj [(type.tag, content)] := by
  cases v <;> cases elementType <;> exact ⟨_, rfl⟩

theorem tag_ne_literal (type : SqlType) : type.tag ≠ "SQL" := by
  cases type <;> decide

/-- What is written with the mark of a literal is one, or a document without a tag that
has the mark itself. -/
theorem toJson_marks (a : Arg) (s : String) :
    a.toJson.Marks s ↔ a.fragment? = some s ∨ ∃ j, a.rawDocument? = some j ∧ j.Marks s := by
  induction a with
  | raw v =>
    constructor
    · intro marks
      obtain ⟨members, object⟩ := marks.obj
      obtain rfl := Value.toJson_eq_obj.mp object
      exact .inr ⟨_, rfl, marks⟩
    · rintro (⟨⟨⟩⟩ | ⟨j, document, marks⟩)
      cases v with
      | json =>
        cases document
        exact marks
      | _ => cases document
  | typed type v elementType =>
    obtain ⟨content, document⟩ := toJson_typed type v elementType
    rw [document, Json.Marks.member_iff]
    exact iff_of_false (fun named => tag_ne_literal type named.1)
      (by rintro (⟨⟨⟩⟩ | ⟨_, ⟨⟩, _⟩))
  | literal fragment =>
    rw [toJson, Json.Marks.member_iff]
    simp [fragment?, rawDocument?]
  | out type =>
    rw [toJson, Json.Marks.member_iff]
    simp [fragment?, rawDocument?]
  | inOut type input ih =>
    rw [toJson, Json.Marks.input_iff]
    exact ih

/-- What is written as a literal is one, or a document without a tag that looks like one. -/
theorem reads_literal (a : Arg) (s : String) : ofJson a.toJson = .ok (.literal s) ↔
    a = .literal s ∨ a = .raw (.json (.obj [("SQL", .str s)])) := by
  rw [ofJson_eq_literal]
  cases a with
  | raw v => simp [toJson, Value.toJson_eq_obj]
  | typed type v elementType =>
    obtain ⟨content, document⟩ := toJson_typed type v elementType
    simp [document, tag_ne_literal]
  | literal fragment => simp [toJson]
  | out type => simp [toJson]
  | inOut type input => simp [toJson]

end Arg

/-! ## Rows -/

namespace Row

/-- The members of a row's document are read one by one. -/
theorem ofMembers_toJson {entries read : List (String × Arg)}
    (h : Arg.ofMembers (entries.map fun entry => (entry.1, entry.2.toJson)) = .ok read) :
    read.map Prod.fst = entries.map Prod.fst ∧
      ∀ column, (OrderedMap.lookup entries column).map (fun a => Arg.ofJson a.toJson) =
        (OrderedMap.lookup read column).map .ok := by
  induction entries generalizing read with
  | nil =>
    cases h
    exact ⟨rfl, fun _ => rfl⟩
  | cons entry rest ih =>
    obtain ⟨b, first, h⟩ := Except.bind_ok_iff.mp h
    obtain ⟨others, later, h⟩ := Except.bind_ok_iff.mp h
    cases h
    obtain ⟨names, found⟩ := ih later
    refine ⟨congrArg (entry.1 :: ·) names, fun column => ?_⟩
    rw [OrderedMap.lookup, OrderedMap.lookup]
    split
    · exact congrArg some first
    · exact found column

/-- A row that is read of a row's document has its columns, each read of its own document. -/
theorem ofJson_toJson {row read : Row} (h : ofJson row.toJson = .ok read) :
    read.keys = row.keys ∧ ∀ column, (row.get? column).map (fun a => Arg.ofJson a.toJson) =
      (read.get? column).map .ok := by
  rw [toJson, ofJson] at h
  cases members : Arg.ofMembers (row.toList.map fun entry => (entry.1, entry.2.toJson)) with
  | error e =>
    rw [members] at h
    cases h
  | ok entries =>
    rw [members] at h
    cases h
    obtain ⟨names, found⟩ := ofMembers_toJson members
    have kept : (OrderedMap.ofList entries).toList = entries :=
      OrderedMap.toList_ofList (by rw [names]; exact row.nodup)
    refine ⟨?_, fun column => ?_⟩
    · rw [OrderedMap.keys, kept, names]
      rfl
    · rw [OrderedMap.get?, OrderedMap.get?, kept]
      exact found column

/-- The literals of a row that was written and read. -/
theorem literal_reads_back {row read : Row} (h : ofJson row.toJson = .ok read)
    (column s : String) :
    (read.get? column).bind Arg.literal? = some s ↔
      (row.get? column).bind Arg.literal? = some s ∨
        row.get? column = some (.raw (.json (.obj [("SQL", .str s)]))) := by
  have found := (ofJson_toJson h).2 column
  have literal (a : Arg) : a.literal? = some s ↔ a = .literal s := by
    cases a <;> simp [Arg.literal?]
  cases stored : row.get? column with
  | none =>
    cases again : read.get? column with
    | none => simp
    | some b =>
      rw [stored, again] at found
      cases found
  | some a =>
    cases again : read.get? column with
    | none =>
      rw [stored, again] at found
      cases found
    | some b =>
      rw [stored, again] at found
      have first : Arg.ofJson a.toJson = .ok b := Option.some.inj found
      simp only [Option.bind_some, Option.some.injEq, literal]
      rw [← Arg.reads_literal, first, Except.ok.injEq]

/-- A document without a tag that has the shape of a literal. -/
def HoldsMark (row : Row) (column s : String) : Prop :=
  row.get? column = some (.raw (.json (.obj [("SQL", .str s)])))

theorem agrees_iff {row read : Row} (h : ofJson row.toJson = .ok read) :
    row.Agrees read ↔ ∀ column s, ¬row.HoldsMark column s := by
  constructor
  · intro agrees column s mark
    have spliced := (literal_reads_back h column s).mpr (.inr mark)
    rw [← agrees.literal, mark] at spliced
    cases spliced
  · intro unmarked
    refine ⟨(ofJson_toJson h).1.symm, fun column => Option.ext fun s => ?_⟩
    rw [literal_reads_back h]
    exact ⟨.inl, fun either => either.resolve_right (unmarked column s)⟩

end Row

/-- **An argument that is written and read has a literal just if it had one, or had a
document without a tag that has the shape of one**, itself or in what it passes into
outputs. No other value comes to be one, and no value under a tag. The literals of a row
that is written and read are those it had and the documents without a tag of this shape;
without the latter the row agrees with what it was in all that reaches the SQL. -/
theorem literals_read_back_iff (a : Arg) (s : String) (row : Row) :
    ((∃ b, Arg.ofJson a.toJson = .ok b ∧ b.fragment? = some s) ↔
      a.fragment? = some s ∨ ∃ j, a.rawDocument? = some j ∧ j.Marks s) ∧
    ∀ read : Row, Row.ofJson row.toJson = .ok read →
      (∀ column s, (read.get? column).bind Arg.literal? = some s ↔
        (row.get? column).bind Arg.literal? = some s ∨ row.HoldsMark column s) ∧
      (row.Agrees read ↔ ∀ column s, ¬row.HoldsMark column s) := by
  refine ⟨?_, fun read h => ⟨Row.literal_reads_back h, Row.agrees_iff h⟩⟩
  rw [← Arg.toJson_marks]
  constructor
  · rintro ⟨b, read, fragment⟩
    exact Arg.marks_of_ofJson read fragment
  · exact Arg.ofJson_of_marks

/-- A document that has the shape of a literal, but under a tag; and a row with it, with a
document that has a member more, and with a number that is read from its text. -/
theorem literals_read_back_iff_tagged :
    let mark : Json := .obj [("SQL", .str "now()")]
    let longer : Json := .obj [("SQL", .str "now()"), ("n", .null)]
    let tagged : Arg := .typed .json (.json mark) none
    let row : Row := .ofList [("doc", tagged), ("at", .literal "now()"),
      ("note", .raw (.json longer)), ("n", .typed .int (.text "7") none)]
    let read : Row := .ofList [("doc", tagged), ("at", .literal "now()"),
      ("note", .raw (.json longer)), ("n", .typed .int (.int 7) none)]
    (¬∃ b, Arg.ofJson tagged.toJson = .ok b ∧ b.fragment? = some "now()") ∧
      Row.ofJson row.toJson = .ok read ∧ row.Agrees read := by
  intro mark longer tagged row read
  obtain ⟨argument, rows⟩ := literals_read_back_iff tagged "now()" row
  have back : Row.ofJson row.toJson = .ok read := rfl
  refine ⟨fun literal => ?_, back, (rows read back).2.mpr fun column s held => ?_⟩
  · rcases argument.mp literal with fragment | ⟨j, document, -⟩
    · cases fragment
    · cases document
  · change OrderedMap.lookup [("doc", _), ("at", _), ("note", _), ("n", _)] column = _ at held
    simp only [OrderedMap.lookup] at held
    repeat' split at held
    all_goals simp [tagged, longer] at held

/-- A document that is to be stored comes to be spliced when its row is written and read. -/
theorem document_reads_back_literal :
    let document : Arg := .raw (.json (.obj [("SQL", .str "now()")]))
    let row : Row := .ofList [("note", document)]
    let read : Row := .ofList [("note", .literal "now()")]
    (document.fragment? = none ∧ Arg.ofJson document.toJson = .ok (.literal "now()")) ∧
      Row.ofJson row.toJson = .ok read ∧
      Insert.buildWith { table := "t", row } .postgres "id" =
        .ok ⟨"INSERT INTO t (note) SELECT ? RETURNING *", [document]⟩ ∧
      Insert.buildWith { table := "t", row := read } .postgres "id" =
        .ok ⟨"INSERT INTO t (note) SELECT now() RETURNING *", []⟩ :=
  ⟨⟨rfl, rfl⟩, rfl, rfl, rfl⟩

end SqlBind
