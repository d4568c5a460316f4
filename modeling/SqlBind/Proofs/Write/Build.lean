/-
What the builders build. A `Write` is any of the five statements that write a
row, with all that its builder is given. Building first looks at names alone
(`Write.check`); if nothing is wrong with them, the statement is the tree of the
write, printed, with the row's values (`Write.build_eq`), and every name in it
passed the check (`Write.check_names`).
-/
import SqlBind.Proofs.Effect
import SqlBind.Proofs.Identifier.Reading
import SqlBind.Proofs.Write.Tree

namespace SqlBind

/-- The roles of an upsert's columns, for unique columns that are all among them. -/
def Merge.roles (merge : Merge) (columns : List Column) : Merge.Plan where
  unique := merge.unique.map (Column.declared columns)
  updates := columns.filter fun c =>
    !merge.unique.contains c.name && !merge.protectedColumns.contains c.name
  inserts := columns

/-- A row to be written, in one of five ways. Where the key column may be left out,
the fallback is the one that is used then. -/
inductive Write where
  | insert (insert : Insert) (fallback : String)
  | update (update : Update) (fallback : String)
  | delete (delete : Delete) (fallback : String)
  | deleteAll (delete : DeleteAll)
  | merge (merge : Merge)

namespace Write

/-- The row whose values are written or compared. -/
def row : Write → Row
  | .insert i _ => i.row
  | .update u _ => u.row
  | .delete d _ => d.row
  | .deleteAll d => d.condition
  | .merge m => m.row

/-- The columns that are written: those asked for, or the row's own. -/
def columns : Write → List Column
  | .insert i _ => i.columns.getD i.row.columns
  | .update u _ => u.columns.getD u.row.columns
  | .delete .. => []
  | .deleteAll d => d.condition.columns
  | .merge m => m.columns.getD m.row.columns

/-- The statement. -/
def build (dialect : Dialect) : Write → Except DbError Statement
  | .insert i fallback => i.buildWith dialect fallback
  | .update u fallback => u.buildWith dialect fallback
  | .delete d fallback => d.buildWith fallback
  | .deleteAll d => d.build
  | .merge m => m.build dialect

/-- The parts of the statement. -/
def parts (dialect : Dialect) (write : Write) : List Part :=
  match write with
  | .insert i fallback => i.parts dialect write.columns (i.key.getD fallback)
  | .update u fallback => u.parts dialect write.columns (u.key.getD fallback)
  | .delete d fallback => d.parts (d.key.getD fallback)
  | .deleteAll d => d.parts
  | .merge m => m.parts dialect (m.roles write.columns)

/-- The syntax of the statement. -/
def tree (dialect : Dialect) (write : Write) : RowSyntax :=
  match write with
  | .insert i fallback => i.tree dialect write.columns (i.key.getD fallback)
  | .update u fallback => u.tree dialect write.columns (u.key.getD fallback)
  | .delete d fallback => d.tree (d.key.getD fallback)
  | .deleteAll d => d.tree
  | .merge m => m.tree dialect (m.roles write.columns)

/-- What is checked of the names before a statement is built, those of the columns
that are written among them. -/
def checkWith (names : List String) : Write → Except DbError Unit
  | .insert i fallback => do
    Identifier.check i.table
    Identifier.check (i.key.getD fallback)
    Identifier.checkAll names
    if names.isEmpty then .error (.validation (.insertWithoutColumns i.table)) else .ok ()
  | .update u fallback => do
    let key := u.key.getD fallback
    Identifier.check u.table
    Identifier.check key
    Identifier.checkAll names
    if names.all fun name => name = key then
      .error (.validation (.updateWithoutColumns u.table key))
    else .ok ()
  | .delete d fallback => do
    Identifier.check d.table
    Identifier.check (d.key.getD fallback)
  | .deleteAll d => do
    Identifier.check d.table
    Identifier.checkAll names
  | .merge m => do
    Identifier.check m.table
    if m.unique.isEmpty then
      .error (.validation (.mergeWithoutKey m.table))
    else
      Identifier.checkAll names
      match m.unique.find? fun name => !names.contains name with
      | some name => .error (.unknownUniqueColumn name)
      | none => .ok ()

/-- What is checked before a statement is built, whatever the dialect and whatever
the row's values. -/
def check (write : Write) : Except DbError Unit := write.checkWith (write.columns.map Column.name)

theorem fills_parts (write : Write) (dialect : Dialect) :
    Fills write.row (write.parts dialect) (write.tree dialect).chunks := by
  cases write with
  | insert i _ => exact i.fills_parts dialect _ _
  | update u _ => exact u.fills_parts dialect _ _
  | delete d _ => exact d.fills_parts _
  | deleteAll d => exact d.fills_parts
  | merge m => exact m.fills_parts dialect _

end Write

/-! ## Names that resolve -/

/-- Names resolve to the first columns so named, unless one of them is no column's. -/
theorem Merge.resolve_eq (columns : List Column) (names : List String) :
    resolve columns names =
      match names.find? fun name => !(columns.map Column.name).contains name with
      | some name => .error (.unknownUniqueColumn name)
      | none => .ok (names.map (Column.declared columns)) := by
  induction names with
  | nil => rfl
  | cons name rest ih =>
    rw [resolve, ih, List.find?_cons]
    cases first : columns.find? fun c => c.name = name with
    | none =>
      have absent : name ∉ columns.map Column.name := by
        intro mem
        obtain ⟨c, hc, named⟩ := List.mem_map.mp mem
        have other := List.find?_eq_none.mp first c hc
        simp [named] at other
      simp [absent]
    | some c =>
      have named : c.name = name := by simpa using List.find?_some first
      have present : name ∈ columns.map Column.name :=
        List.mem_map.mpr ⟨c, List.mem_of_find?_eq_some first, named⟩
      have declared : Column.declared columns name = c := by
        rw [Column.declared, first, Option.bind_some, ← named]
      simp only [List.contains_iff_mem.mpr present, Bool.not_true, List.map_cons, declared]
      cases rest.find? fun name => !(columns.map Column.name).contains name <;> rfl

theorem Merge.plan_eq (merge : Merge) (columns : List Column) :
    merge.plan columns =
      match merge.unique.find? fun name => !(columns.map Column.name).contains name with
      | some name => .error (.unknownUniqueColumn name)
      | none => .ok (merge.roles columns) := by
  rw [plan, resolve_eq]
  cases merge.unique.find? fun name => !(columns.map Column.name).contains name <;> rfl

/-! ## What is built -/

/-- The columns to write are used once they are checked. -/
theorem Row.writtenColumns_bind {α : Type} (row : Row) (asked : Option (List Column))
    (f : List Column → Except DbError α) :
    row.writtenColumns asked >>= f =
      Identifier.checkAll ((asked.getD row.columns).map Column.name) >>= fun _ =>
        f (asked.getD row.columns) := by
  simp only [Row.writtenColumns]
  cases Identifier.checkAll ((asked.getD row.columns).map Column.name) <;> rfl

namespace Write

/-- Building checks names and, if nothing is wrong with them, puts the parts together. -/
theorem build_eq_parts (write : Write) (dialect : Dialect) :
    write.build dialect = write.check.map fun _ => .ofParts (write.parts dialect) := by
  -- Both sides make the same checks in the same order; each is taken off until a test is left.
  cases write with
  | insert i fallback =>
    simp only [build, Insert.buildWith, check, checkWith, Row.writtenColumns_bind, Except.map_bind]
    refine bind_congr fun _ => bind_congr fun _ => bind_congr fun _ => ?_
    rw [columns, List.isEmpty_map]
    split <;> rfl
  | update u fallback =>
    simp only [build, Update.buildWith, check, checkWith, Row.writtenColumns_bind, Except.map_bind]
    refine bind_congr fun _ => bind_congr fun _ => bind_congr fun _ => ?_
    rw [columns, List.all_map]
    simp only [Function.comp_def]
    split <;> rfl
  | delete d fallback =>
    simp only [build, Delete.buildWith, check, checkWith, Except.map_bind]
    refine bind_congr fun _ => ?_
    cases Identifier.check (d.key.getD fallback) <;> rfl
  | deleteAll d =>
    have names : (columns (.deleteAll d)).map Column.name = d.condition.keys := by
      rw [columns, Row.columns, List.map_map]
      exact List.map_id _
    simp only [build, DeleteAll.build, check, checkWith, Except.map_bind, names]
    refine bind_congr fun _ => ?_
    cases Identifier.checkAll d.condition.keys <;> rfl
  | merge m =>
    simp only [build, Merge.build, check, checkWith, Except.map_bind]
    refine bind_congr fun _ => ?_
    split
    · rfl
    · rw [Row.writtenColumns_bind, Except.map_bind]
      refine bind_congr fun _ => ?_
      rw [Merge.plan_eq]
      simp only [columns]
      split <;> rfl

/-- **What is built is the tree**, printed, with a row's values for its binds, if
nothing is wrong with the names. -/
theorem build_eq (write : Write) (dialect : Dialect) :
    write.build dialect = write.check.map fun _ => (write.tree dialect).statement write.row := by
  rw [build_eq_parts, (write.fills_parts dialect).ofParts]

end Write

/-! ## The names in what is built -/

/-- An item that mentions no name but its column's. -/
def Item.Own (item : Column → Item) : Prop := ∀ c, ∀ name ∈ (item c).names, name = c.name

theorem Row.own_item (row : Row) : Item.Own row.item := by
  intro c name mem
  rcases row.value_cases c with ⟨fragment, -, -, term⟩ | ⟨-, term⟩ <;>
    simpa [Item.names, Row.item, term] using mem

theorem Column.own_reference : Item.Own Column.reference := by
  intro c name mem
  simpa [Item.names, Column.reference] using mem

theorem Merge.own_insertedItem (merge : Merge) (plan : Plan) : Item.Own (merge.insertedItem plan) := by
  intro c
  unfold Merge.insertedItem
  split
  · exact Column.own_reference c
  · exact merge.row.own_item c

/-- The names of a statement pass the check if its table's does and those of its items do. -/
theorem RowSyntax.check_names {tree : RowSyntax} (table : Identifier.check tree.table = .ok ())
    (items : ∀ i ∈ tree.items, ∀ name ∈ i.names, Identifier.check name = .ok ()) :
    ∀ name ∈ tree.names, Identifier.check name = .ok () := by
  intro name mem
  rcases List.mem_cons.mp mem with rfl | mem
  · exact table
  · obtain ⟨i, hi, mem⟩ := List.mem_flatMap.mp mem
    exact items i hi name mem

/-- The item made for a column has names that pass the check if the column's does. -/
theorem Item.Own.check {item : Column → Item} (own : Item.Own item) {c : Column}
    (h : Identifier.check c.name = .ok ()) :
    ∀ name ∈ (item c).names, Identifier.check name = .ok () := by
  intro name mem
  rw [own c name mem]
  exact h

theorem Item.Own.checkAll {item : Column → Item} (own : Item.Own item) {columns : List Column}
    (h : ∀ c ∈ columns, Identifier.check c.name = .ok ()) :
    ∀ i ∈ columns.map item, ∀ name ∈ i.names, Identifier.check name = .ok () := by
  intro i mem
  obtain ⟨c, hc, rfl⟩ := List.mem_map.mp mem
  exact own.check (h c hc)

theorem Merge.check_names {merge : Merge} {columns : List Column} (dialect : Dialect)
    (table : Identifier.check merge.table = .ok ())
    (names : ∀ c ∈ columns, Identifier.check c.name = .ok ())
    (among : ∀ name ∈ merge.unique, name ∈ columns.map Column.name) :
    ∀ name ∈ (merge.tree dialect (merge.roles columns)).names, Identifier.check name = .ok () := by
  have unique : ∀ c ∈ (merge.roles columns).unique, Identifier.check c.name = .ok () := by
    intro c hc
    obtain ⟨name, mem, rfl⟩ := List.mem_map.mp hc
    obtain ⟨d, hd, named⟩ := List.mem_map.mp (among name mem)
    exact named ▸ names d hd
  have updates : ∀ c ∈ (merge.roles columns).updates, Identifier.check c.name = .ok () :=
    fun c hc => names c (List.mem_filter.mp hc).1
  have item := merge.row.own_item
  cases dialect with
  | oracle =>
    refine RowSyntax.check_names table fun i mem => ?_
    simp only [tree, oracleTree, RowSyntax.items, List.mem_append] at mem
    rcases mem with (mem | mem) | mem
    · exact item.checkAll unique i mem
    · exact item.checkAll updates i mem
    · exact item.checkAll names i mem
  | postgres =>
    refine RowSyntax.check_names table fun i mem => ?_
    simp only [tree, postgresTree, RowSyntax.items, List.mem_append] at mem
    rcases mem with ((mem | mem) | mem) | mem
    · exact item.checkAll unique i mem
    · split at mem
      · exact Column.own_reference.checkAll unique i mem
      · exact item.checkAll updates i mem
    · exact Column.own_reference.checkAll unique i mem
    · exact (merge.own_insertedItem _).checkAll names i mem

/-- Every name in a write's syntax passes the check if the write does. -/
theorem Write.check_names {write : Write} {dialect : Dialect} (h : write.check = .ok ()) :
    ∀ name ∈ (write.tree dialect).names, Identifier.check name = .ok () := by
  have checked {columns : List Column}
      (h : Identifier.checkAll (columns.map Column.name) = .ok ()) :
      ∀ c ∈ columns, Identifier.check c.name = .ok () :=
    fun c hc => Identifier.check_of_checkAll h _ (List.mem_map_of_mem hc)
  cases write with
  | insert insert fallback =>
    simp only [check, checkWith, Except.bind_ok_iff] at h
    obtain ⟨_, table, _, key, _, names, -⟩ := h
    refine RowSyntax.check_names table fun i mem => ?_
    simp only [tree, Insert.tree, RowSyntax.items, List.mem_append] at mem
    rcases mem with mem | mem
    · exact (Row.own_item _).checkAll (checked names) i mem
    · split at mem
      · cases List.mem_singleton.mp mem
        exact (Row.own_item _).check key
      · cases mem
  | update update fallback =>
    simp only [check, checkWith, Except.bind_ok_iff] at h
    obtain ⟨_, table, _, key, _, names, -⟩ := h
    refine RowSyntax.check_names table fun i mem => ?_
    simp only [tree, Update.tree, RowSyntax.items, List.mem_append] at mem
    rcases mem with mem | mem
    · exact (Row.own_item _).checkAll (fun c hc => checked names c (List.mem_filter.mp hc).1) i mem
    · cases List.mem_singleton.mp mem
      exact (Row.own_item _).check key
  | delete delete fallback =>
    simp only [check, checkWith, Except.bind_ok_iff] at h
    obtain ⟨_, table, key⟩ := h
    refine RowSyntax.check_names table fun i mem => ?_
    cases List.mem_singleton.mp mem
    exact (Row.own_item _).check key
  | deleteAll delete =>
    simp only [check, checkWith, Except.bind_ok_iff] at h
    obtain ⟨_, table, names⟩ := h
    exact RowSyntax.check_names table ((Row.own_item _).checkAll (checked names))
  | merge merge =>
    simp only [check, checkWith, Except.bind_ok_iff] at h
    obtain ⟨_, table, h⟩ := h
    split at h
    · cases h
    · simp only [Except.bind_ok_iff] at h
      obtain ⟨_, names, h⟩ := h
      split at h
      · cases h
      · next found =>
        refine merge.check_names dialect table (checked names) fun name mem => ?_
        simpa using List.find?_eq_none.mp found name mem

end SqlBind
