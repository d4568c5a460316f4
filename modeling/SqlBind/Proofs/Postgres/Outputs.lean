/-
The outputs of a procedure. The columns of the row that a procedure answers are a list, in
which a name may come twice, but its values are read into a record, which has one for each
name. A call lays the one beside the other by position. So each value is judged by the type
of its own column just if no name comes twice; then each cursor is fetched, in the order of
the columns, and every other value is an output (`outputs_judged_by_own_column`). A name
that comes again takes the place of its first column, and the values after it move up.
-/
import Mathlib.Data.List.Nodup
import SqlBind.Postgres.Session
import SqlBind.Proofs.Effect

namespace SqlBind.Postgres

variable {fields : List Field} {values : List Value}

/-! ## Rows -/

/-- The values of a row, each read as the type of its own column, from position `index` on. -/
def rowValues (index : Nat) : List Field → List Cell → Except DbError (List Value)
  | [], _ => .ok []
  | field :: fields, cells =>
    match decodeCell? field.type (cells.head?.getD none) with
    | none => .error (.decode field.name (.column index))
    | some v => (rowValues (index + 1) fields cells.tail).map (v :: ·)

/-- The values of rows, or the first failure. -/
def rowsValues (fields : List Field) (rows : List (List Cell)) : Except DbError (List (List Value)) :=
  rows.mapM (rowValues 0 fields)

/-- The values of columns, each with the name of its own. -/
def named (fields : List Field) (values : List Value) : List (String × Value) :=
  (fields.map Field.name).zip values

theorem rowValues_cons {index : Nat} {field : Field} {cells : List Cell} {v : Value}
    (read : decodeCell? field.type (cells.head?.getD none) = some v) :
    rowValues index (field :: fields) cells =
      (rowValues (index + 1) fields cells.tail).map (v :: ·) := by
  rw [rowValues, read]

theorem length_rowValues {index : Nat} {cells : List Cell}
    (read : rowValues index fields cells = .ok values) : values.length = fields.length := by
  induction fields generalizing index cells values with
  | nil =>
    cases read
    rfl
  | cons field fields ih =>
    cases cell : decodeCell? field.type (cells.head?.getD none) with
    | none =>
      rw [rowValues, cell] at read
      cases read
    | some v =>
      rw [rowValues_cons cell] at read
      cases later : rowValues (index + 1) fields cells.tail with
      | error e =>
        rw [later] at read
        cases read
      | ok others =>
        rw [later] at read
        cases read
        exact congrArg (· + 1) (ih later)

theorem length_rowsValues {rows : List (List Cell)} {all : List (List Value)}
    (read : rowsValues fields rows = .ok all) : ∀ values ∈ all, values.length = fields.length := by
  induction rows generalizing all with
  | nil =>
    cases read
    exact fun _ => nofun
  | cons row rows ih =>
    rw [rowsValues, List.mapM_cons] at read
    obtain ⟨values, first, read⟩ := Except.bind_ok_iff.mp read
    obtain ⟨others, later, read⟩ := Except.bind_ok_iff.mp read
    cases read
    intro values mem
    rcases List.mem_cons.mp mem with rfl | mem
    · exact length_rowValues first
    · exact ih later values mem

/-- A row is read as its values are, and these are put into the record by name. -/
theorem readRow_eq (record : Record) (index : Nat) (fields : List Field) (cells : List Cell) :
    readRow record index fields cells = (rowValues index fields cells).map fun values =>
      (named fields values).foldl (fun record entry => record.insert entry.1 entry.2) record := by
  induction fields generalizing record index cells with
  | nil => rfl
  | cons field fields ih =>
    cases cell : decodeCell? field.type (cells.head?.getD none) with
    | none => rw [readRow, rowValues, cell]; rfl
    | some v =>
      rw [rowValues_cons cell, readRow, cell]
      change readRow (record.insert field.name v) (index + 1) fields cells.tail = _
      rw [ih]
      cases rowValues (index + 1) fields cells.tail <;> rfl

/-- The record that a row's values make. -/
def recordOf (fields : List Field) (values : List Value) : Record := .ofList (named fields values)

theorem readRows_eq (fields : List Field) (rows : List (List Cell)) : readRows fields rows =
    (rowsValues fields rows).map (List.map (recordOf fields)) := by
  induction rows with
  | nil => rfl
  | cons row rows ih =>
    rw [readRows, readRow_eq, ih, rowsValues, rowsValues, List.mapM_cons]
    cases rowValues 0 fields row with
    | error e => rfl
    | ok values => cases rows.mapM (rowValues 0 fields) <;> rfl

/-! ## Values and columns -/

/-- A value with its name, beside the column that it is judged by. -/
abbrev Judged := ColumnMeta × String × Value

/-- Each value beside its own column. -/
def ownColumns (fields : List Field) (values : List Value) : List Judged :=
  (fields.map Field.columnMeta).zip (named fields values)

/-- What the record holds, beside the columns by position. -/
def byPosition (fields : List Field) (values : List Value) : List Judged :=
  (fields.map Field.columnMeta).zip (recordOf fields values).toList

/-- Each value beside its own column if these have distinct names, and by position else. -/
def ownIfDistinct (fields : List Field) (values : List Value) : List Judged :=
  if (fields.map Field.name).Nodup then ownColumns fields values else byPosition fields values

theorem names_named (length : values.length = fields.length) :
    (named fields values).map Prod.fst = fields.map Field.name :=
  List.map_fst_zip (by rw [List.length_map]; omega)

theorem names_ownColumns (length : values.length = fields.length) :
    (ownColumns fields values).map (fun entry => entry.2.1) = fields.map Field.name := by
  have entries : (ownColumns fields values).map Prod.snd = named fields values :=
    List.map_snd_zip (by rw [named, List.length_zip, List.length_map, List.length_map]; omega)
  rw [← names_named length, ← entries, List.map_map]
  rfl

theorem nodup_names_byPosition :
    ((byPosition fields values).map fun entry => entry.2.1).Nodup := by
  have taken : ((byPosition fields values).map Prod.snd).Sublist (recordOf fields values).toList := by
    rw [byPosition, List.zip_eq_zip_take_min, List.map_snd_zip (by simp)]
    exact List.take_sublist _ _
  have distinct := (taken.map Prod.fst).nodup (recordOf fields values).nodup
  rwa [List.map_map] at distinct

/-- The columns of a row with a name that comes twice are laid beside other values. -/
theorem byPosition_eq_ownColumns_iff (length : values.length = fields.length) :
    byPosition fields values = ownColumns fields values ↔ (fields.map Field.name).Nodup := by
  constructor
  · intro same
    -- what is laid beside the columns by position comes from a record, whose names are distinct
    rw [← names_ownColumns length, ← same]
    exact nodup_names_byPosition
  · intro distinct
    have kept : (recordOf fields values).toList = named fields values :=
      OrderedMap.toList_ofList (by rw [names_named length]; exact distinct)
    rw [byPosition, kept]
    rfl

/-! ## Calls -/

/-- The name of an output that is a cursor, and the cursor it names. -/
def cursorOf? : Judged → Option (String × String)
  | (column, name, .text cursor) => if column.type = .outCursor then some (name, cursor) else none
  | _ => none

/-- An output that is none. -/
def outputOf? (entry : Judged) : Option (String × Value) :=
  if (cursorOf? entry).isSome then none else some entry.2

theorem outputOf?_eq_some {entry : Judged} {output : String × Value}
    (judged : outputOf? entry = some output) : output.1 = entry.2.1 := by
  rw [outputOf?] at judged
  split at judged <;> cases judged
  rfl

theorem cursorOf?_eq_some {entry : Judged} {cursor : String × String}
    (judged : cursorOf? entry = some cursor) : cursor.1 = entry.2.1 := by
  obtain ⟨column, name, v⟩ := entry
  cases v with
  | text text =>
    rw [cursorOf?] at judged
    split at judged <;> cases judged
    rfl
  | _ => cases judged

/-- What is sorted out of judged values has their names, in their order. -/
theorem names_filterMap {α : Type} {sort : Judged → Option (String × α)}
    (kept : ∀ {entry found}, sort entry = some found → found.1 = entry.2.1) (entries : List Judged) :
    ((entries.filterMap sort).map Prod.fst).Sublist (entries.map fun entry => entry.2.1) := by
  induction entries with
  | nil => exact .slnil
  | cons entry rest ih =>
    cases sorted : sort entry with
    | none =>
      rw [List.filterMap_cons_none sorted]
      exact ih.cons _
    | some found =>
      rw [List.filterMap_cons_some sorted, List.map_cons, List.map_cons, kept sorted]
      exact ih.cons_cons _

namespace Server

variable {m : Type → Type} [Monad m]

/-- The outcome of a call: the rows of each cursor, fetched in the order of the columns,
and beside them all other outputs. -/
def report (server : Server m) (entries : List Judged) : ExceptT DbError m CallOutcome := do
  let cursors := entries.filterMap cursorOf?
  let sets ← cursors.mapM fun cursor => server.query (fetchAll cursor.2)
  return ⟨.ofList (entries.filterMap outputOf?), .ofList ((cursors.map Prod.fst).zip sets)⟩

/-- A call that judges the values of the first row by the columns they are laid beside. -/
def callBy (judge : List Field → List Value → List Judged) (server : Server m) (s : Statement) :
    ExceptT DbError m CallOutcome := do
  let (fields, execution) ← server.executed s
  match execution.ending with
  | .error e => throw e.toDbError
  | .ok _ =>
    match ← rowsValues fields execution.rows with
    | [] => return .empty
    | values :: _ => server.report (judge fields values)

theorem sortOutputs_cursor (server : Server m) (outcome : CallOutcome) {entry : Judged}
    {name cursor : String} (named : cursorOf? entry = some (name, cursor)) (rest : List Judged) :
    server.sortOutputs outcome (entry :: rest) = server.query (fetchAll cursor) >>= fun rows =>
      server.sortOutputs { outcome with cursors := outcome.cursors.insert name rows } rest := by
  obtain ⟨⟨column, type, databaseType⟩, label, v⟩ := entry
  cases v with
  | text text =>
    by_cases output : type = .outCursor
    · subst output
      cases named
      rfl
    · rw [cursorOf?, if_neg output] at named
      cases named
  | _ => cases named

theorem sortOutputs_output (server : Server m) (outcome : CallOutcome) {entry : Judged}
    (plain : cursorOf? entry = none) (rest : List Judged) :
    server.sortOutputs outcome (entry :: rest) = server.sortOutputs
      { outcome with outputs := outcome.outputs.insert entry.2.1 entry.2.2 } rest := by
  obtain ⟨⟨column, type, databaseType⟩, label, v⟩ := entry
  cases v with
  | text text =>
    have other : type ≠ .outCursor := by
      intro output
      rw [cursorOf?, if_pos output] at plain
      cases plain
    cases type <;> first | rfl | exact absurd rfl other
  | _ => cases type <;> rfl

variable [LawfulMonad m]

/-- The outputs that are sorted one by one are reported, after those that were before. The
induction is on what is left to be sorted, with any outcome so far. -/
theorem sortOutputs_eq (server : Server m) (outcome : CallOutcome) (entries : List Judged) :
    server.sortOutputs outcome entries = do
      let cursors := entries.filterMap cursorOf?
      let sets ← cursors.mapM fun cursor => server.query (fetchAll cursor.2)
      return ⟨(entries.filterMap outputOf?).foldl (fun m entry => m.insert entry.1 entry.2)
          outcome.outputs,
        ((cursors.map Prod.fst).zip sets).foldl (fun m entry => m.insert entry.1 entry.2)
          outcome.cursors⟩ := by
  induction entries generalizing outcome with
  | nil =>
    rw [sortOutputs]
    simp only [List.filterMap_nil, List.mapM_nil, pure_bind]
    rfl
  | cons entry rest ih =>
    cases judged : cursorOf? entry with
    | none =>
      have output : outputOf? entry = some entry.2 := by rw [outputOf?, judged]; rfl
      rw [sortOutputs_output server outcome judged, ih, List.filterMap_cons_none judged,
        List.filterMap_cons_some output]
      rfl
    | some cursor =>
      have output : outputOf? entry = none := by rw [outputOf?, judged]; rfl
      rw [sortOutputs_cursor server outcome judged, List.filterMap_cons_some judged,
        List.filterMap_cons_none output]
      simp only [ih, List.mapM_cons, bind_assoc, pure_bind]
      rfl

/-- A call reports the first row of its query. -/
theorem call_eq_report (server : Server m) (s : Statement) :
    server.call s = server.query s >>= fun result =>
      match result.rows with
      | [] => pure .empty
      | row :: _ => server.report (result.columns.zip row.toList) := by
  rw [call]
  refine bind_congr fun result => ?_
  cases result.rows with
  | nil => rfl
  | cons row rest => exact sortOutputs_eq server .empty _

/-- A call lays what its record holds beside the columns by position. -/
theorem call_eq_callBy (server : Server m) (s : Statement) :
    server.call s = server.callBy byPosition s := by
  rw [call_eq_report, query, callBy, bind_assoc]
  congr 1
  funext ⟨fields, rows, ending⟩
  cases ending with
  | error e => exact ExceptT.bind_error e.toDbError _
  | ok tag =>
    simp only [readRows_eq, bind_assoc]
    cases rowsValues fields rows with
    | error e => simp only [Except.map, ExceptT.bind_error]
    | ok rows =>
      simp only [Except.map, ExceptT.bind_ok, pure_bind]
      cases rows <;> rfl

/-- A call judges as many values as there are columns. -/
theorem callBy_congr (server : Server m) (s : Statement)
    {judge judge' : List Field → List Value → List Judged}
    (same : ∀ {fields values}, values.length = fields.length →
      judge fields values = judge' fields values) :
    server.callBy judge s = server.callBy judge' s := by
  rw [callBy, callBy]
  refine bind_congr fun ⟨fields, rows, ending⟩ => ?_
  cases ending with
  | error e => rfl
  | ok tag =>
    cases read : rowsValues fields rows with
    | error e => simp only [read, ExceptT.bind_error]
    | ok all =>
      simp only [read, ExceptT.bind_ok]
      cases all with
      | nil => rfl
      | cons values rest =>
        exact congrArg server.report (same (length_rowsValues read values List.mem_cons_self))

end Server

/-- No output is lost when they are reported by name: they are all there, in the order of
their columns, and each cursor is there with the rows fetched from it. -/
structure AllReported (entries : List Judged) : Prop where
  outputs : (OrderedMap.ofList (entries.filterMap outputOf?)).toList = entries.filterMap outputOf?
  cursors (sets : List ResultSet) (length : sets.length = (entries.filterMap cursorOf?).length) :
    (OrderedMap.ofList (((entries.filterMap cursorOf?).map Prod.fst).zip sets)).toList =
      ((entries.filterMap cursorOf?).map Prod.fst).zip sets

theorem allReported (length : values.length = fields.length)
    (distinct : (fields.map Field.name).Nodup) : AllReported (ownColumns fields values) := by
  rw [← names_ownColumns length] at distinct
  refine ⟨OrderedMap.toList_ofList ?_, fun sets length => OrderedMap.toList_ofList ?_⟩
  · exact (names_filterMap outputOf?_eq_some _).nodup distinct
  · rw [List.map_fst_zip (by rw [List.length_map]; exact Nat.le_of_eq length.symm)]
    exact (names_filterMap cursorOf?_eq_some _).nodup distinct

/-- **A call judges each output by its own column just if no column name comes twice.** The
texts of cursor columns name cursors, which are fetched in the order of the columns, and all
else are outputs. If the names are distinct, each value is judged by its own column, and
none is lost; if they are not, what is laid beside the columns are other values. -/
theorem outputs_judged_by_own_column {m : Type → Type} [Monad m] [LawfulMonad m]
    (server : Server m) (s : Statement) :
    server.call s = server.callBy ownIfDistinct s ∧
      ∀ {fields : List Field} {values : List Value}, values.length = fields.length →
        (byPosition fields values = ownColumns fields values ↔ (fields.map Field.name).Nodup) ∧
        ((fields.map Field.name).Nodup → AllReported (ownColumns fields values)) := by
  have same {fields : List Field} {values : List Value} (length : values.length = fields.length) :
      byPosition fields values = ownIfDistinct fields values := by
    rw [ownIfDistinct]
    split
    · next distinct => exact (byPosition_eq_ownColumns_iff length).mpr distinct
    · rfl
  refine ⟨?_, fun length => ⟨byPosition_eq_ownColumns_iff length, allReported length⟩⟩
  rw [server.call_eq_callBy, server.callBy_congr s same]

/-- A server that answers the procedure `p` with a row and all else with none, and keeps
what it was asked. -/
def procedureServer (fields : List Field) (row : List Cell) : Server (StateM (List String)) where
  prepare := fun sql _ => do
    modify (· ++ [sql])
    if sql = "CALL p()" then return .ok ⟨[], fields, fun _ => return ⟨[row], .ok "CALL"⟩⟩
    else return .ok ⟨[], [], fun _ => return ⟨[], .ok "FETCH 0"⟩⟩
  command := fun _ => return .ok ()
  newLatch := return ⟨return false, return false⟩
  within := fun _ action => some <$> action

/-- What a procedure answered: its outputs, the names of its cursors and what the server
was asked. -/
structure Answered (called : Except DbError CallOutcome × List String)
    (outputs : List (String × Value)) (cursors asked : List String) : Prop where
  outputs : called.1.map (fun outcome => outcome.outputs.toList) = .ok outputs
  cursors : called.1.map (fun outcome => outcome.cursors.keys) = .ok cursors
  asked : called.2 = asked

set_option maxRecDepth 2000 in
/-- A number and a cursor, each under a name of its own. -/
theorem outputs_judged_by_own_column_cursor :
    let fields : List Field := [⟨"n", .scalar .int4⟩, ⟨"c", .scalar .refcursor⟩]
    let server := procedureServer fields [some [0, 0, 0, 1], some [99, 117, 114]]
    server.call (.bare "CALL p()") = server.callBy ownIfDistinct (.bare "CALL p()") ∧
      byPosition fields [.int 1, .text "cur"] = ownColumns fields [.int 1, .text "cur"] ∧
      AllReported (ownColumns fields [.int 1, .text "cur"]) ∧
      Answered (server.call (.bare "CALL p()") []) [("n", .int 1)] ["c"]
        ["CALL p()", "FETCH ALL FROM \"cur\""] := by
  intro fields server
  obtain ⟨called, outputs⟩ := outputs_judged_by_own_column server (.bare "CALL p()")
  have distinct : (fields.map Field.name).Nodup := by decide
  have own := @outputs fields [.int 1, .text "cur"] rfl
  exact ⟨called, own.1.mpr distinct, own.2 distinct, rfl, rfl, rfl⟩

set_option maxRecDepth 2000 in
/-- Of a number under a name that comes twice only one place is left, and the cursor after
it is laid beside a column of numbers: it is reported as an output and not fetched. -/
theorem repeated_name_moves_cursor :
    let server := procedureServer
      [⟨"a", .scalar .int4⟩, ⟨"a", .scalar .int4⟩, ⟨"c", .scalar .refcursor⟩]
      [some [0, 0, 0, 1], some [0, 0, 0, 1], some [99, 117, 114]]
    Answered (server.callBy ownColumns (.bare "CALL p()") []) [("a", .int 1)] ["c"]
        ["CALL p()", "FETCH ALL FROM \"cur\""] ∧
      Answered (server.call (.bare "CALL p()") []) [("a", .int 1), ("c", .text "cur")] []
        ["CALL p()"] :=
  ⟨⟨rfl, rfl, rfl⟩, ⟨rfl, rfl, rfl⟩⟩

end SqlBind.Postgres
