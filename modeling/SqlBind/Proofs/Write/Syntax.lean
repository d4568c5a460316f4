/-
The syntax of the statements that write a row. A tree names its columns with
what stands for each of their values, and printing it puts every value where SQL
looks for its column: after `column =`, or at the column's place in the list
that goes with a list of names.
-/
import SqlBind.Write.Basic

namespace SqlBind

/-- What stands for a column's value. -/
inductive Term where
  /-- A question mark. -/
  | bind
  /-- SQL that is spliced in. -/
  | fragment (sql : String)
  /-- The value that the query `nv` has for a column. -/
  | newValue (name : String)
  deriving DecidableEq, Repr

def Term.text : Term → String
  | .bind => "?"
  | .fragment sql => sql
  | .newValue name => "nv." ++ name

/-- A column with what stands for its value. -/
structure Item where
  column : Column
  term : Term
  deriving DecidableEq, Repr

/-- The names in an item. -/
def Item.names (i : Item) : List String :=
  match i.term with
  | .newValue name => [i.column.name, name]
  | _ => [i.column.name]

/-- The column whose value an item binds, if it binds one. -/
def Item.bound? (i : Item) : Option Column :=
  match i.term with
  | .bind => some i.column
  | _ => none

/-- The SQL that an item splices in. -/
def Item.fragment? (i : Item) : Option String :=
  match i.term with
  | .fragment sql => some sql
  | _ => none

/-- A stretch of a printed statement: fixed SQL, or the place of a column's value. -/
inductive Chunk where
  | sql (text : String)
  | item (i : Item)
  deriving DecidableEq, Repr

namespace Chunk

def text : Chunk → String
  | .sql text => text
  | .item i => i.term.text

/-- The text of several chunks. -/
def textOf (chunks : List Chunk) : String := String.join (chunks.map text)

/-- The column at whose place a chunk has a bind, if it has one. -/
def bound? : Chunk → Option Column
  | .sql _ => none
  | .item i => i.bound?

/-- The columns at whose places the binds of chunks stand. -/
def bound (chunks : List Chunk) : List Column := chunks.filterMap bound?

/-- The binds of chunks that start at offset `n`, each with the column at whose place it stands. -/
def placesFrom (n : Nat) : List Chunk → List (Nat × Column)
  | [] => []
  | chunk :: rest =>
    (chunk.bound?.map (n, ·)).toList ++ placesFrom (n + chunk.text.length) rest

/-- Groups of chunks with a text between each two. -/
def separated (separator : String) : List (List Chunk) → List Chunk
  | [] => []
  | [group] => group
  | group :: rest => group ++ .sql separator :: separated separator rest

/-- `column = value`. -/
def assigned (i : Item) : List Chunk := [.sql (i.column.name ++ " = "), .item i]

/-- The values of a list. -/
def values (items : List Item) : List Chunk := separated ", " (items.map fun i => [.item i])

/-- A clause of assignments, left out if there are none. -/
def clause (keyword separator : String) (items : List Item) : List Chunk :=
  if items.isEmpty then [] else .sql keyword :: separated separator (items.map assigned)

end Chunk

/-- The names of a list of columns. -/
def Item.nameList (items : List Item) : String := Column.nameList (items.map Item.column)

/-- A statement that writes a row. -/
inductive RowSyntax where
  | insert (table : String) (inserted : List Item) (fromDual : Bool) (guard : Option Item)
      (returning : Bool)
  | update (table : String) (set : List Item) (key : Item) (returning : Bool)
  | delete (table : String) (conditions : List Item)
  | merge (table : String) (on set inserted : List Item)
  /-- An update of the rows that match the values of `nv`, and an insertion if there was none. -/
  | upsert (table : String) (new on set inserted : List Item)
  deriving DecidableEq, Repr

namespace RowSyntax

def table : RowSyntax → String
  | .insert table .. | .update table .. | .delete table _ | .merge table .. | .upsert table .. => table

/-- The items of a statement. -/
def items : RowSyntax → List Item
  | .insert _ inserted _ guard _ => inserted ++ guard.toList
  | .update _ set key _ => set ++ [key]
  | .delete _ conditions => conditions
  | .merge _ on set inserted => on ++ set ++ inserted
  | .upsert _ new on set inserted => new ++ set ++ on ++ inserted

/-- The names in a statement. -/
def names (tree : RowSyntax) : List String := tree.table :: tree.items.flatMap Item.names

/-- The SQL that a statement splices in. -/
def fragments (tree : RowSyntax) : List String := tree.items.filterMap Item.fragment?

/-- The condition of an insertion that no row with the key is there. -/
def guardChunks (table : String) : Option Item → List Chunk
  | none => []
  | some key =>
    [.sql (" WHERE NOT EXISTS (SELECT 1 FROM " ++ table ++ " WHERE " ++ key.column.name ++ " = "),
      .item key, .sql ")"]

def returningChunks (returning : Bool) : List Chunk :=
  if returning then [.sql " RETURNING *"] else []

/-- A statement as it is printed. -/
def chunks : RowSyntax → List Chunk
  | .insert table inserted fromDual guard returning =>
    [.sql ("INSERT INTO " ++ table ++ " (" ++ Item.nameList inserted ++ ") SELECT ")]
      ++ Chunk.values inserted
      ++ (if fromDual then [.sql " FROM DUAL"] else [])
      ++ guardChunks table guard
      ++ returningChunks returning
  | .update table set key returning =>
    [.sql ("UPDATE " ++ table ++ " SET ")]
      ++ Chunk.separated ", " (set.map Chunk.assigned)
      ++ [.sql (" WHERE " ++ table ++ "." ++ key.column.name ++ " = "), .item key]
      ++ returningChunks returning
  | .delete table conditions =>
    [.sql ("DELETE FROM " ++ table)] ++ Chunk.clause " WHERE " " AND " conditions
  | .merge table on set inserted =>
    [.sql ("MERGE INTO " ++ table ++ " USING dual ON (")]
      ++ Chunk.separated " AND " (on.map Chunk.assigned)
      ++ [.sql ")"]
      ++ Chunk.clause " WHEN MATCHED THEN UPDATE SET " ", " set
      ++ [.sql (" WHEN NOT MATCHED THEN INSERT (" ++ Item.nameList inserted ++ ") VALUES (")]
      ++ Chunk.values inserted
      ++ [.sql ")"]
  | .upsert table new on set inserted =>
    [.sql ("WITH nv (" ++ Item.nameList new ++ ") AS (VALUES (")]
      ++ Chunk.values new
      ++ [.sql (")), upsert AS (UPDATE " ++ table ++ " t SET ")]
      ++ Chunk.separated ", " (set.map Chunk.assigned)
      ++ [.sql " FROM nv WHERE "]
      ++ Chunk.separated " AND " (on.map fun i => [.sql ("t." ++ i.column.name ++ " = "), .item i])
      ++ [.sql (" RETURNING t.*) INSERT INTO " ++ table ++ " (" ++ Item.nameList inserted
        ++ ") SELECT ")]
      ++ Chunk.values inserted
      ++ [.sql " FROM nv WHERE NOT EXISTS (SELECT 1 FROM upsert LIMIT 1)"]

/-- The SQL of a statement. -/
def text (tree : RowSyntax) : String := Chunk.textOf tree.chunks

/-- The columns at whose places a statement has its binds, in order. -/
def bound (tree : RowSyntax) : List Column := Chunk.bound tree.chunks

end RowSyntax

/-! ## Places -/

namespace Chunk

@[simp] theorem textOf_nil : textOf [] = "" := String.join_nil

@[simp] theorem textOf_cons (chunk : Chunk) (chunks : List Chunk) :
    textOf (chunk :: chunks) = chunk.text ++ textOf chunks := String.join_cons

theorem textOf_sql (sql : String) : textOf [.sql sql] = sql := by
  rw [textOf_cons, textOf_nil, String.append_empty, text]

@[simp] theorem textOf_append (xs ys : List Chunk) : textOf (xs ++ ys) = textOf xs ++ textOf ys := by
  simp only [textOf, List.map_append, String.join_append]

@[simp] theorem bound_append (xs ys : List Chunk) : bound (xs ++ ys) = bound xs ++ bound ys :=
  List.filterMap_append

theorem textOf_separated (separator : String) (groups : List (List Chunk)) :
    textOf (separated separator groups) = separator.intercalate (groups.map textOf) := by
  induction groups with
  | nil => rfl
  | cons group groups ih =>
    cases groups with
    | nil => simp [separated]
    | cons next rest =>
      rw [separated, textOf_append, textOf_cons, ih]
      · simp only [text, List.map_cons, String.intercalate_cons_cons, String.append_assoc]
      · simp

/-- Groups of chunks that show one item each bind what the items do. -/
theorem bound_separated (separator : String) {group : Item → List Chunk}
    (h : ∀ i, bound (group i) = i.bound?.toList) (items : List Item) :
    bound (separated separator (items.map group)) = items.filterMap Item.bound? := by
  induction items with
  | nil => rfl
  | cons i items ih =>
    have first : bound (group i) ++ items.filterMap Item.bound? =
        (i :: items).filterMap Item.bound? := by
      rw [h, List.filterMap_cons]
      cases i.bound? <;> rfl
    cases items with
    | nil =>
      rw [List.map_cons, List.map_nil, separated, ← first]
      exact (List.append_nil _).symm
    | cons next rest =>
      rw [List.map_cons, List.map_cons, separated, bound_append, ← first, ← ih]
      · rfl
      · simp

theorem bound_item (i : Item) : bound [.item i] = i.bound?.toList := by
  unfold bound
  rw [List.filterMap_cons, bound?]
  cases i.bound? <;> rfl

theorem bound_values (items : List Item) : bound (values items) = items.filterMap Item.bound? :=
  bound_separated ", " bound_item items

theorem bound_assignments (separator : String) (items : List Item) :
    bound (separated separator (items.map assigned)) = items.filterMap Item.bound? := by
  refine bound_separated separator (fun i => ?_) items
  exact bound_item i

theorem bound_clause (keyword separator : String) (items : List Item) :
    bound (clause keyword separator items) = items.filterMap Item.bound? := by
  unfold clause
  split
  · next empty =>
    rw [List.isEmpty_iff.mp empty]
    rfl
  · exact bound_assignments separator items

theorem placesFrom_append (n : Nat) (xs ys : List Chunk) :
    placesFrom n (xs ++ ys) = placesFrom n xs ++ placesFrom (n + (textOf xs).length) ys := by
  induction xs generalizing n with
  | nil => simp [placesFrom]
  | cons chunk xs ih =>
    rw [List.cons_append, placesFrom, placesFrom, ih, textOf_cons, String.length_append,
      Nat.add_assoc, List.append_assoc]

theorem map_snd_placesFrom (n : Nat) (chunks : List Chunk) :
    (placesFrom n chunks).map Prod.snd = bound chunks := by
  induction chunks generalizing n with
  | nil => rfl
  | cons chunk chunks ih =>
    rw [placesFrom, List.map_append, ih, bound, bound, List.filterMap_cons]
    cases chunk.bound? <;> rfl

end Chunk

/-- A statement binds what its items do, in their order. -/
theorem RowSyntax.bound_eq (tree : RowSyntax) : tree.bound = tree.items.filterMap Item.bound? := by
  have text (t : String) : Chunk.bound [.sql t] = [] := rfl
  have keyed (t : String) (i : Item) : Chunk.bound [.sql t, .item i] = [i].filterMap Item.bound? := by
    rw [List.filterMap_cons]
    exact (Chunk.bound_item i).trans (by cases i.bound? <;> rfl)
  have returned (returning : Bool) : Chunk.bound (returningChunks returning) = [] := by
    cases returning <;> rfl
  cases tree with
  | insert table inserted fromDual guard returning =>
    have dual : Chunk.bound (if fromDual then [.sql " FROM DUAL"] else []) = [] := by
      cases fromDual <;> rfl
    have guarded : Chunk.bound (guardChunks table guard) = guard.toList.filterMap Item.bound? := by
      cases guard with
      | none => rfl
      | some key =>
        change Chunk.bound ([.sql _, .item key] ++ [.sql ")"]) = _
        rw [Chunk.bound_append, keyed, text, List.append_nil]
        rfl
    simp only [bound, chunks, items, Chunk.bound_append, text, Chunk.bound_values, dual, guarded, returned,
      List.filterMap_append, List.nil_append, List.append_nil]
  | update table set key returning =>
    simp only [bound, chunks, items, Chunk.bound_append, text, keyed, Chunk.bound_assignments, returned,
      List.filterMap_append, List.nil_append, List.append_nil]
  | delete table conditions =>
    simp only [bound, chunks, items, Chunk.bound_append, text, Chunk.bound_clause, List.nil_append]
  | merge table on set inserted =>
    simp only [bound, chunks, items, Chunk.bound_append, text, Chunk.bound_assignments,
      Chunk.bound_clause, Chunk.bound_values, List.filterMap_append, List.nil_append, List.append_nil]
  | upsert table new on set inserted =>
    have compared : Chunk.bound (Chunk.separated " AND " (on.map fun i =>
        [.sql ("t." ++ i.column.name ++ " = "), .item i])) = on.filterMap Item.bound? := by
      refine Chunk.bound_separated " AND " (fun i => ?_) on
      exact Chunk.bound_item i
    simp only [bound, chunks, items, Chunk.bound_append, text, compared, Chunk.bound_assignments,
      Chunk.bound_values, List.filterMap_append, List.nil_append, List.append_nil]

end SqlBind
