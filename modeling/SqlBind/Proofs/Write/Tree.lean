/-
The five statements that write rows, as syntax. Each has a tree, in which every
column stands with what the row has for it, and the parts of the statement are
those of the printed tree (`fills_parts` of each): the same SQL, and for each
bind the row's value for the column at whose place it stands.
-/
import SqlBind.Proofs.Write.Syntax
import SqlBind.Write.Delete
import SqlBind.Write.Insert
import SqlBind.Write.Merge
import SqlBind.Write.Update

namespace SqlBind

/-! ## Columns with a row's values -/

namespace Row

/-- What a row has for a column: its argument, or `NULL`, under the type that the column declares. -/
def value (row : Row) (column : Column) : Arg := (row.argFor column.name).boxed column.type

/-- What stands for a row's value: a literal is spliced in, all else is bound. -/
def term (row : Row) (column : Column) : Term :=
  match row.argFor column.name with
  | .literal fragment => .fragment fragment
  | _ => .bind

/-- A column with what stands for a row's value. -/
def item (row : Row) (column : Column) : Item := ⟨column, row.term column⟩

end Row

/-- A column with its value in the query `nv`. -/
def Column.reference (column : Column) : Item := ⟨column, .newValue column.name⟩

/-- The statement that a tree makes with a row's values: one argument for each bind. -/
def RowSyntax.statement (tree : RowSyntax) (row : Row) : Statement :=
  ⟨tree.text, tree.bound.map row.value⟩

theorem Arg.isLiteral_boxed (arg : Arg) (type : Option SqlType) :
    (arg.boxed type).isLiteral = arg.isLiteral := by
  cases type <;> cases arg <;> rfl

theorem Part.text_slot_of_not_isLiteral {arg : Arg} (h : arg.isLiteral = false) :
    Part.text (.slot arg) = "?" := by
  cases arg <;> first | rfl | cases h

theorem Part.bound?_slot_of_not_isLiteral {arg : Arg} (h : arg.isLiteral = false) :
    Part.bound? (.slot arg) = some arg := by
  cases arg <;> first | rfl | cases h

/-- A row either has a literal for a column, which is spliced in as it is, or a value that is bound. -/
theorem Row.value_cases (row : Row) (column : Column) :
    (∃ fragment, row.argFor column.name = .literal fragment ∧ row.value column = .literal fragment ∧
      row.term column = .fragment fragment) ∨
    ((row.value column).isLiteral = false ∧ row.term column = .bind) := by
  cases h : row.argFor column.name with
  | literal fragment =>
    refine .inl ⟨fragment, rfl, ?_, ?_⟩
    · rw [Row.value, h]; cases column.type <;> rfl
    · rw [Row.term, h]
  | raw | typed | out | inOut =>
    refine .inr ⟨?_, ?_⟩
    · rw [Row.value, h, Arg.isLiteral_boxed]; rfl
    · rw [Row.term, h]

/-! ## Parts that are filled chunks -/

/-- Parts with the text of chunks, and with a row's values where the chunks bind. -/
structure Fills (row : Row) (parts : List Part) (chunks : List Chunk) : Prop where
  text : String.join (parts.map Part.text) = Chunk.textOf chunks
  bound : parts.filterMap Part.bound? = (Chunk.bound chunks).map row.value

namespace Fills

variable {row : Row}

theorem nil : Fills row [] [] := ⟨rfl, rfl⟩

theorem sql (text : String) : Fills row [.sql text] [.sql text] := ⟨rfl, rfl⟩

/-- SQL that chunks print in several pieces, none of which binds. -/
theorem texts {text : String} {chunks : List Chunk} (ht : text = Chunk.textOf chunks)
    (hb : Chunk.bound chunks = []) : Fills row [.sql text] chunks := by
  refine ⟨?_, ?_⟩
  · simp [Part.text, ht]
  · rw [hb]; rfl

theorem append {ps qs : List Part} {cs ds : List Chunk} (hp : Fills row ps cs)
    (hq : Fills row qs ds) : Fills row (ps ++ qs) (cs ++ ds) := by
  refine ⟨?_, ?_⟩
  · rw [List.map_append, String.join_append, hp.text, hq.text, Chunk.textOf_append]
  · rw [List.filterMap_append, hp.bound, hq.bound, Chunk.bound_append, List.map_append]

theorem slot (column : Column) : Fills row [row.slot column] [.item (row.item column)] := by
  have part : row.slot column = .slot (row.value column) := rfl
  rcases row.value_cases column with ⟨fragment, -, value, term⟩ | ⟨value, term⟩
  · refine ⟨?_, ?_⟩
    · simp [part, value, Part.text, Chunk.text, Row.item, term, Term.text]
    · simp only [part, value, Row.item, term]
      rfl
  · refine ⟨?_, ?_⟩
    · simp [part, Part.text_slot_of_not_isLiteral value, Chunk.text, Row.item, term, Term.text]
    · simp only [part, List.filterMap_cons, Part.bound?_slot_of_not_isLiteral value, Chunk.bound_item,
        Row.item, term]
      rfl

theorem assignment (column : Column) :
    Fills row (row.assignment column) (Chunk.assigned (row.item column)) :=
  (sql (column.name ++ " = ")).append (slot column)

/-- A part that shows a column's value in `nv` binds nothing. -/
theorem reference (before : String) (column : Column) :
    Fills row [.sql (before ++ Merge.newValue column)] [.sql before, .item column.reference] :=
  texts (by simp [Chunk.text, Column.reference, Term.text, Merge.newValue]) rfl

theorem separated (separator : String) {columns : List Column} {f : Column → List Part}
    {g : Column → List Chunk} (h : ∀ c ∈ columns, Fills row (f c) (g c)) :
    Fills row (Part.separated separator (columns.map f))
      (Chunk.separated separator (columns.map g)) := by
  induction columns with
  | nil => exact nil
  | cons c cs ih =>
    have first : Fills row (f c) (g c) := h c (by simp)
    have others := ih fun d hd => h d (by simp [hd])
    cases cs with
    | nil => exact first
    | cons d rest => exact first.append ((sql separator).append others)

theorem values (columns : List Column) :
    Fills row (Part.separated ", " (columns.map fun c => [row.slot c]))
      (Chunk.values (columns.map row.item)) := by
  rw [Chunk.values, List.map_map]
  exact separated ", " fun c _ => slot c

theorem assignments (separator : String) (columns : List Column) :
    Fills row (Part.separated separator (columns.map row.assignment))
      (Chunk.separated separator ((columns.map row.item).map Chunk.assigned)) := by
  rw [List.map_map]
  exact separated separator fun c _ => assignment c

theorem clause (keyword separator : String) (columns : List Column) :
    Fills row
      (if columns.isEmpty then []
        else .sql keyword :: Part.separated separator (columns.map row.assignment))
      (Chunk.clause keyword separator (columns.map row.item)) := by
  unfold Chunk.clause
  rw [List.isEmpty_map]
  split
  · exact nil
  · exact (sql keyword).append (assignments separator columns)

theorem returning (dialect : Dialect) :
    Fills row (returningAll dialect) (RowSyntax.returningChunks dialect.isPostgres) := by
  cases dialect with
  | oracle => exact nil
  | postgres => exact sql _

/-- Parts that fill a tree's chunks make the tree's statement. -/
theorem ofParts {parts : List Part} {tree : RowSyntax} (h : Fills row parts tree.chunks) :
    Statement.ofParts parts = tree.statement row := by
  rw [Statement.ofParts, h.text, h.bound]
  rfl

end Fills

/-! ## The trees of the statements -/

/-- The insertion of checked columns. -/
def Insert.tree (insert : Insert) (dialect : Dialect) (columns : List Column) (key : String) :
    RowSyntax :=
  .insert insert.table (columns.map insert.row.item) dialect.isOracle
    (if (insert.row.get? key).any Insert.isConcrete then
      some (insert.row.item (.declared columns key)) else none)
    dialect.isPostgres

/-- The update that sets checked columns. -/
def Update.tree (update : Update) (dialect : Dialect) (columns : List Column) (key : String) :
    RowSyntax :=
  .update update.table ((columns.filter fun c => c.name ≠ key).map update.row.item)
    (update.row.item (.declared columns key)) dialect.isPostgres

/-- The deletion of the row with a key, whose type is not declared. -/
def Delete.tree (delete : Delete) (key : String) : RowSyntax :=
  .delete delete.table [delete.row.item (.bare key)]

/-- The deletion of the rows that agree with a condition, no column of which has a declared type. -/
def DeleteAll.tree (delete : DeleteAll) : RowSyntax :=
  .delete delete.table (delete.condition.columns.map delete.condition.item)

namespace Merge

/-- The Oracle upsert. -/
def oracleTree (merge : Merge) (plan : Plan) : RowSyntax :=
  .merge merge.table (plan.unique.map merge.row.item) (plan.updates.map merge.row.item)
    (plan.inserts.map merge.row.item)

/-- What PostgreSQL inserts in a column: unique values are taken from `nv`. -/
def insertedItem (merge : Merge) (plan : Plan) (column : Column) : Item :=
  if (plan.unique.map Column.name).contains column.name then column.reference
  else merge.row.item column

/-- The PostgreSQL upsert. -/
def postgresTree (merge : Merge) (plan : Plan) : RowSyntax :=
  .upsert merge.table (plan.unique.map merge.row.item) (plan.unique.map Column.reference)
    (if plan.updates.isEmpty then plan.unique.map Column.reference
      else plan.updates.map merge.row.item)
    (plan.inserts.map (merge.insertedItem plan))

def tree (merge : Merge) (dialect : Dialect) (plan : Plan) : RowSyntax :=
  match dialect with
  | .oracle => merge.oracleTree plan
  | .postgres => merge.postgresTree plan

end Merge

/-! ## Parts and trees -/

theorem Insert.fills_guard (insert : Insert) (columns : List Column) (key : String) :
    Fills insert.row (insert.guard columns key)
      (RowSyntax.guardChunks insert.table
        (if (insert.row.get? key).any isConcrete then
          some (insert.row.item (.declared columns key)) else none)) := by
  unfold Insert.guard
  cases insert.row.get? key with
  | none => exact .nil
  | some arg =>
    rw [Option.any_some]
    by_cases concrete : isConcrete arg = true
    · simp only [concrete, if_true]
      exact (Fills.sql _).append ((Fills.slot _).append (.sql ")"))
    · simp only [concrete]
      exact .nil

/-- The names of items are those of the columns they are made for. -/
theorem Item.nameList_map {item : Column → Item} (h : ∀ c, (item c).column = c)
    (columns : List Column) : Item.nameList (columns.map item) = Column.nameList columns := by
  have same : (columns.map item).map Item.column = columns := by
    rw [List.map_map]
    exact (List.map_congr_left fun c _ => h c).trans (List.map_id _)
  rw [Item.nameList, same]

theorem Merge.column_insertedItem (merge : Merge) (plan : Plan) (column : Column) :
    (merge.insertedItem plan column).column = column := by
  unfold Merge.insertedItem
  split <;> rfl

theorem Insert.fills_parts (insert : Insert) (dialect : Dialect) (columns : List Column)
    (key : String) :
    Fills insert.row (insert.parts dialect columns key) (insert.tree dialect columns key).chunks := by
  have dual : Fills insert.row (if dialect.isOracle then [.sql " FROM DUAL"] else [])
      (if dialect.isOracle then [.sql " FROM DUAL"] else []) := by
    cases dialect with
    | oracle => exact .sql _
    | postgres => exact .nil
  rw [Insert.parts, Insert.tree, RowSyntax.chunks, Item.nameList_map fun c => rfl]
  exact ((((Fills.sql _).append (.values columns)).append dual).append
    (insert.fills_guard columns key)).append (.returning dialect)

theorem Update.fills_parts (update : Update) (dialect : Dialect) (columns : List Column)
    (key : String) :
    Fills update.row (update.parts dialect columns key) (update.tree dialect columns key).chunks := by
  rw [Update.parts, Update.tree, RowSyntax.chunks]
  exact (((Fills.sql _).append (.assignments ", " _)).append
    ((Fills.sql _).append (.slot (.declared columns key)))).append (.returning dialect)

theorem Delete.fills_parts (delete : Delete) (key : String) :
    Fills delete.row (delete.parts key) (delete.tree key).chunks := by
  have start : Fills delete.row [.sql ("DELETE FROM " ++ delete.table ++ " WHERE ")]
      [.sql ("DELETE FROM " ++ delete.table), .sql " WHERE "] := .texts (by simp [Chunk.text]) rfl
  exact start.append (.assignment (.bare key))

theorem DeleteAll.fills_parts (delete : DeleteAll) :
    Fills delete.condition delete.parts delete.tree.chunks := by
  have start : Fills delete.condition [.sql ("DELETE FROM " ++ delete.table)] _ := .sql _
  have clause := start.append (.clause " WHERE " " AND " delete.condition.columns)
  rw [DeleteAll.parts, List.isEmpty_map]
  exact clause

theorem Merge.fills_oracleParts (merge : Merge) (plan : Plan) :
    Fills merge.row (merge.oracleParts plan) (merge.oracleTree plan).chunks := by
  rw [Merge.oracleParts, Merge.oracleTree, RowSyntax.chunks, Item.nameList_map fun c => rfl]
  exact ((((((Fills.sql _).append (.assignments " AND " _)).append (.sql ")")).append
    (.clause " WHEN MATCHED THEN UPDATE SET " ", " plan.updates)).append (.sql _)).append
    (.values plan.inserts)).append (.sql ")")

/-- PostgreSQL updates the columns that may be, or sets the unique ones to themselves. -/
theorem Merge.fills_postgresSet (merge : Merge) (plan : Plan) :
    Fills merge.row (Part.separated ", " (merge.postgresSet plan))
      (Chunk.separated ", " ((if plan.updates.isEmpty then plan.unique.map Column.reference
        else plan.updates.map merge.row.item).map Chunk.assigned)) := by
  unfold Merge.postgresSet
  split
  · rw [List.map_map]
    exact .separated ", " fun c _ => .reference (c.name ++ " = ") c
  · exact .assignments ", " plan.updates

theorem Merge.fills_postgresValue (merge : Merge) (plan : Plan) (column : Column) :
    Fills merge.row [merge.postgresValue plan column] [.item (merge.insertedItem plan column)] := by
  unfold Merge.postgresValue Merge.insertedItem
  split
  · exact .texts (by simp [Chunk.text, Column.reference, Term.text, Merge.newValue]) rfl
  · exact .slot column

/-- The comparisons of the stored row with `nv`. -/
def Merge.comparisons (unique : List Column) : List Chunk :=
  Chunk.separated " AND " ((unique.map Column.reference).map fun i =>
    [.sql ("t." ++ i.column.name ++ " = "), .item i])

theorem Merge.textOf_comparisons (unique : List Column) :
    Chunk.textOf (comparisons unique) =
      " AND ".intercalate (unique.map fun c => "t." ++ c.name ++ " = " ++ newValue c) := by
  rw [comparisons, Chunk.textOf_separated, List.map_map, List.map_map]
  refine congrArg _ (List.map_congr_left fun c _ => ?_)
  simp [Chunk.text, Column.reference, Term.text, newValue]

theorem Merge.bound_comparisons (unique : List Column) : Chunk.bound (comparisons unique) = [] := by
  have compared : Chunk.bound (comparisons unique) =
      (unique.map Column.reference).filterMap Item.bound? := by
    refine Chunk.bound_separated " AND " (fun i => ?_) _
    exact Chunk.bound_item i
  rw [compared, List.filterMap_map]
  exact List.filterMap_eq_nil_iff.mpr fun _ _ => rfl

theorem Merge.fills_postgresParts (merge : Merge) (plan : Plan) :
    Fills merge.row (merge.postgresParts plan) (merge.postgresTree plan).chunks := by
  have inserted : Fills merge.row (Part.separated ", " (plan.inserts.map fun c =>
      [merge.postgresValue plan c])) (Chunk.values (plan.inserts.map (merge.insertedItem plan))) := by
    rw [Chunk.values, List.map_map]
    exact .separated ", " fun c _ => merge.fills_postgresValue plan c
  have condition : Fills merge.row
      [.sql (" FROM nv WHERE "
        ++ " AND ".intercalate (plan.unique.map fun c => "t." ++ c.name ++ " = " ++ newValue c)
        ++ " RETURNING t.*) INSERT INTO " ++ merge.table ++ " (" ++ Column.nameList plan.inserts
        ++ ") SELECT ")]
      ([.sql " FROM nv WHERE "] ++ comparisons plan.unique ++ [.sql (" RETURNING t.*) INSERT INTO "
        ++ merge.table ++ " (" ++ Column.nameList plan.inserts ++ ") SELECT ")]) := by
    refine .texts ?_ ?_
    · simp [Chunk.text, textOf_comparisons, String.append_assoc]
    · rw [Chunk.bound_append, Chunk.bound_append, bound_comparisons]
      rfl
  have whole := ((((((Fills.sql ("WITH nv (" ++ Column.nameList plan.unique ++ ") AS (VALUES (")).append
    (.values plan.unique)).append (.sql (")), upsert AS (UPDATE " ++ merge.table ++ " t SET "))).append
    (merge.fills_postgresSet plan)).append condition).append inserted).append
    (.sql " FROM nv WHERE NOT EXISTS (SELECT 1 FROM upsert LIMIT 1)")
  rw [Merge.postgresParts, Merge.postgresTree, RowSyntax.chunks, Item.nameList_map fun c => rfl,
    Item.nameList_map (merge.column_insertedItem plan)]
  simpa only [List.append_assoc, comparisons] using whole

theorem Merge.fills_parts (merge : Merge) (dialect : Dialect) (plan : Plan) :
    Fills merge.row (merge.parts dialect plan) (merge.tree dialect plan).chunks := by
  cases dialect with
  | oracle => exact merge.fills_oracleParts plan
  | postgres => exact merge.fills_postgresParts plan

end SqlBind
