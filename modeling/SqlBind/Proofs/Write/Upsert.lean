/-
What an upsert means, read off its syntax and its arguments. The two dialects print
different statements and pass different arguments, and both mean the same: which
stored row is looked for, what is set in it, and what is inserted if there is none
(`dialects_mean_the_same`).

A statement is read from left to right. Each bind takes the next argument, and a
value of `nv` is the entry that the list of `nv` has under its name.
-/
import SqlBind.Proofs.Write.Build

namespace SqlBind

/-! ## Reading a statement with its arguments -/

/-- The entry under a name, if there is exactly one. -/
def soleEntry (entries : List (String × Arg)) (name : String) : Option Arg :=
  match entries.filter fun entry => entry.1 = name with
  | [(_, arg)] => some arg
  | _ => none

/-- The value that a term stands for, and the arguments that it leaves. -/
def Term.read (nv : List (String × Arg)) : Term → List Arg → Option (Arg × List Arg)
  | .bind, [] => none
  | .bind, arg :: args => some (arg, args)
  | .fragment sql, args => some (.literal sql, args)
  | .newValue name, args => (soleEntry nv name).map (·, args)

/-- The columns and values of items, and the arguments that they leave. -/
def Item.read (nv : List (String × Arg)) : List Item → List Arg →
    Option (List (String × Arg) × List Arg)
  | [], args => some ([], args)
  | i :: items, args => do
    let (value, args) ← i.term.read nv args
    let (entries, args) ← Item.read nv items args
    some ((i.column.name, value) :: entries, args)

/-- An upsert. -/
structure Upsert where
  table : String
  /-- The columns by which the stored row is found, and what they are compared with. -/
  condition : List (String × Arg)
  /-- What is set in the row that is found, if there is a branch for it. -/
  updates : Option (List (String × Arg))
  /-- What is inserted if there is no such row. -/
  inserts : List (String × Arg)

/-- The upsert that a statement denotes with its arguments, all of which it takes. -/
def RowSyntax.upsert? (tree : RowSyntax) (args : List Arg) : Option Upsert :=
  match tree with
  | .merge table on set inserted => do
    let (condition, args) ← Item.read [] on args
    let (updates, args) ← Item.read [] set args
    let (inserts, args) ← Item.read [] inserted args
    let updates := if set.isEmpty then none else some updates
    if args.isEmpty then some { table, condition, updates, inserts } else none
  | .upsert table new on set inserted => do
    let (nv, args) ← Item.read [] new args
    let (updates, args) ← Item.read nv set args
    let (condition, args) ← Item.read nv on args
    let (inserts, args) ← Item.read nv inserted args
    if args.isEmpty then some { table, condition, updates := some updates, inserts } else none
  | _ => none

theorem soleEntry_of_mem {entries : List (String × Arg)} (distinct : (entries.map Prod.fst).Nodup)
    {name : String} {arg : Arg} (mem : (name, arg) ∈ entries) : soleEntry entries name = some arg := by
  induction entries with
  | nil => cases mem
  | cons entry rest ih =>
    obtain ⟨absent, distinct⟩ := List.nodup_cons.mp distinct
    rcases List.mem_cons.mp mem with rfl | mem
    · have others : rest.filter (fun entry => entry.1 = name) = [] := by
        refine List.filter_eq_nil_iff.mpr fun entry hm => ?_
        intro same
        exact absent (List.mem_map.mpr ⟨entry, hm, of_decide_eq_true same⟩)
      rw [soleEntry, List.filter_cons_of_pos (by simp), others]
    · have other : entry.1 ≠ name := by
        intro same
        exact absent (List.mem_map.mpr ⟨(name, arg), mem, same.symm⟩)
      rw [soleEntry, List.filter_cons_of_neg (by simpa using other)]
      exact ih distinct mem

/-! ## A row's columns and its arguments -/

namespace Row

/-- A column's name and the row's value for it. -/
def entry (row : Row) (column : Column) : String × Arg := (column.name, row.value column)

/-- What a row binds for columns: their values, but for its literals. -/
def args (row : Row) (columns : List Column) : List Arg :=
  (columns.map row.value).filter fun arg => !arg.isLiteral

theorem args_append (row : Row) (xs ys : List Column) :
    row.args (xs ++ ys) = row.args xs ++ row.args ys := by
  rw [args, List.map_append, List.filter_append]
  rfl

/-- A column, or its value in `nv`. -/
def itemOrReference (row : Row) (inNv : Column → Bool) (column : Column) : Item :=
  if inNv column then column.reference else row.item column

variable {row : Row} {inNv : Column → Bool}

theorem args_filter_cons {c : Column} (given : inNv c = false) (columns : List Column) :
    row.args ((c :: columns).filter fun c => !inNv c) =
      row.args [c] ++ row.args (columns.filter fun c => !inNv c) := by
  rw [List.filter_cons_of_pos (by simp [given]), ← args_append]
  rfl

/-- What columns bind is what the row binds for those that are not taken from `nv`. -/
theorem args_eq (columns : List Column) :
    ((columns.map (row.itemOrReference inNv)).filterMap Item.bound?).map row.value =
      row.args (columns.filter fun c => !inNv c) := by
  induction columns with
  | nil => rfl
  | cons c columns ih =>
    rw [List.map_cons, List.filterMap_cons]
    cases given : inNv c with
    | true =>
      simp only [itemOrReference, given, if_true, List.filter_cons]
      exact ih
    | false =>
      rw [args_filter_cons given, ← ih]
      rcases row.value_cases c with ⟨fragment, -, value, term⟩ | ⟨value, term⟩
      · simp [itemOrReference, given, Item.bound?, item, term, args, value, Arg.isLiteral]
      · simp [itemOrReference, given, Item.bound?, item, term, args, value]

/-- What stands for a value is read as the value, and takes what the row binds for it. -/
theorem read_term (nv : List (String × Arg)) (column : Column) (rest : List Arg) :
    (row.term column).read nv (row.args [column] ++ rest) = some (row.value column, rest) := by
  rcases row.value_cases column with ⟨fragment, -, value, term⟩ | ⟨value, term⟩
  · rw [term, value, args]
    simp [Term.read, value, Arg.isLiteral]
  · rw [term, args]
    simp [Term.read, value]

/-- **Columns are read as the row's entries**, whether bound, spliced in or taken
from `nv`, and take just the arguments that the row binds for them. -/
theorem read_items {nv : List (String × Arg)} {columns : List Column}
    (known : ∀ c ∈ columns, inNv c = true → soleEntry nv c.name = some (row.value c))
    (rest : List Arg) :
    Item.read nv (columns.map (row.itemOrReference inNv))
        (row.args (columns.filter fun c => !inNv c) ++ rest) =
      some (columns.map row.entry, rest) := by
  -- A column of `nv` takes no argument; any other takes what the row binds for it alone.
  induction columns with
  | nil => rfl
  | cons c columns ih =>
    have others := ih fun d hd => known d (List.mem_cons_of_mem _ hd)
    rw [List.map_cons, Item.read]
    cases given : inNv c with
    | true =>
      have value : soleEntry nv c.name = some (row.value c) := known c (by simp) given
      have item : row.itemOrReference inNv c = c.reference := if_pos given
      rw [List.filter_cons_of_neg (by simp [given]), item, Column.reference, Term.read, value]
      simp only [Option.map_some, Option.bind_eq_bind, Option.bind_some, others]
      rfl
    | false =>
      have item : row.itemOrReference inNv c = row.item c := if_neg (by simp [given])
      rw [args_filter_cons given, List.append_assoc, item, Row.item, read_term]
      simp only [Option.bind_eq_bind, Option.bind_some, others]
      rfl

/-- No column is taken from `nv`. -/
theorem itemOrReference_false : row.itemOrReference (fun _ => false) = row.item := rfl

/-- Every column is taken from `nv`. -/
theorem itemOrReference_true : row.itemOrReference (fun _ => true) = Column.reference := rfl

theorem args_items (row : Row) (columns : List Column) :
    ((columns.map row.item).filterMap Item.bound?).map row.value = row.args columns := by
  rw [← itemOrReference_false, args_eq, List.filter_eq_self.mpr (by simp)]

theorem args_references (row : Row) (columns : List Column) :
    ((columns.map Column.reference).filterMap Item.bound?).map row.value = [] := by
  rw [← @itemOrReference_true row, args_eq, List.filter_eq_nil_iff.mpr (by simp)]
  rfl

theorem read_own (row : Row) (nv : List (String × Arg)) (columns : List Column) (rest : List Arg) :
    Item.read nv (columns.map row.item) (row.args columns ++ rest) =
      some (columns.map row.entry, rest) := by
  have read := @read_items row (fun _ => false) nv columns (fun _ _ given => by cases given) rest
  rwa [itemOrReference_false, List.filter_eq_self.mpr (by simp)] at read

theorem read_references {nv : List (String × Arg)} {columns : List Column}
    (known : ∀ c ∈ columns, soleEntry nv c.name = some (row.value c)) (rest : List Arg) :
    Item.read nv (columns.map Column.reference) rest = some (columns.map row.entry, rest) := by
  have read := @read_items row (fun _ => true) nv columns (fun c mem _ => known c mem) rest
  rwa [itemOrReference_true, List.filter_eq_nil_iff.mpr (by simp)] at read

end Row

/-! ## The two upserts -/

namespace Merge

theorem args_oracleTree (merge : Merge) (plan : Plan) :
    (merge.oracleTree plan).bound.map merge.row.value =
      merge.row.args (plan.unique ++ plan.updates ++ plan.inserts) := by
  simp only [oracleTree, RowSyntax.bound_eq, RowSyntax.items, List.filterMap_append, List.map_append,
    Row.args_items, Row.args_append]

/-- Whether PostgreSQL takes the value of a column from `nv`. -/
def Plan.inNv (plan : Plan) (column : Column) : Bool := (plan.unique.map Column.name).contains column.name

theorem args_postgresTree (merge : Merge) (plan : Plan) :
    (merge.postgresTree plan).bound.map merge.row.value =
      merge.row.args (plan.unique ++ plan.updates ++ plan.inserts.filter fun c => !plan.inNv c) := by
  have inserted : merge.insertedItem plan = merge.row.itemOrReference plan.inNv := rfl
  have set : ((if plan.updates.isEmpty then plan.unique.map Column.reference
      else plan.updates.map merge.row.item).filterMap Item.bound?).map merge.row.value =
        merge.row.args plan.updates := by
    split
    · next empty =>
      rw [Row.args_references, List.isEmpty_iff.mp empty]
      rfl
    · exact Row.args_items _ _
  simp only [postgresTree, RowSyntax.bound_eq, RowSyntax.items, List.filterMap_append, List.map_append,
    Row.args_items, Row.args_references, inserted, Row.args_eq, set, Row.args_append, List.append_nil]

/-- The upsert that Oracle is asked for. -/
theorem upsert?_oracleTree (merge : Merge) (plan : Plan) :
    (merge.oracleTree plan).upsert? (merge.row.args (plan.unique ++ plan.updates ++ plan.inserts)) =
      some {
        table := merge.table
        condition := plan.unique.map merge.row.entry
        updates := if plan.updates.isEmpty then none else some (plan.updates.map merge.row.entry)
        inserts := plan.inserts.map merge.row.entry } := by
  have last := merge.row.read_own [] plan.inserts []
  rw [List.append_nil] at last
  simp only [oracleTree, RowSyntax.upsert?, Row.args_append, List.append_assoc, Row.read_own, last,
    Option.bind_eq_bind, Option.bind_some, List.isEmpty_nil, List.isEmpty_map]
  rfl

/-- The upsert that PostgreSQL is asked for, if each unique column is there once. -/
theorem upsert?_postgresTree (merge : Merge) (plan : Plan)
    (distinct : (plan.unique.map Column.name).Nodup)
    (among : ∀ c ∈ plan.inserts, plan.inNv c = true → c ∈ plan.unique) :
    (merge.postgresTree plan).upsert?
        (merge.row.args (plan.unique ++ plan.updates ++ plan.inserts.filter fun c => !plan.inNv c)) =
      some {
        table := merge.table
        condition := plan.unique.map merge.row.entry
        updates := some ((if plan.updates.isEmpty then plan.unique else plan.updates).map merge.row.entry)
        inserts := plan.inserts.map merge.row.entry } := by
  have known : ∀ c ∈ plan.unique,
      soleEntry (plan.unique.map merge.row.entry) c.name = some (merge.row.value c) := by
    intro c mem
    refine soleEntry_of_mem ?_ (List.mem_map_of_mem (f := merge.row.entry) mem)
    rwa [List.map_map]
  have set (rest : List Arg) :
      Item.read (plan.unique.map merge.row.entry) (if plan.updates.isEmpty then
        plan.unique.map Column.reference else plan.updates.map merge.row.item)
        (merge.row.args plan.updates ++ rest) =
      some ((if plan.updates.isEmpty then plan.unique else plan.updates).map merge.row.entry, rest) := by
    split
    · next empty =>
      rw [List.isEmpty_iff.mp empty]
      exact Row.read_references known rest
    · exact Row.read_own _ _ _ _
  have last := Row.read_items (fun c mem given => known c (among c mem given)) []
  rw [List.append_nil] at last
  have inserted : merge.insertedItem plan = merge.row.itemOrReference plan.inNv := rfl
  simp only [postgresTree, RowSyntax.upsert?, Row.args_append, List.append_assoc, Row.read_own, set,
    Row.read_references known, inserted, last, Option.bind_eq_bind, Option.bind_some]
  rfl

end Merge

/-- A column is the first with its name if no two have one name. -/
theorem Column.declared_self {columns : List Column} (distinct : (columns.map Column.name).Nodup)
    {c : Column} (mem : c ∈ columns) : Column.declared columns c.name = c := by
  induction columns with
  | nil => cases mem
  | cons d rest ih =>
    obtain ⟨absent, distinct⟩ := List.nodup_cons.mp distinct
    rcases List.mem_cons.mp mem with rfl | mem
    · rw [Column.declared, List.find?_cons_of_pos (by simp)]
      rfl
    · have other : d.name ≠ c.name := fun same => absent (same ▸ List.mem_map_of_mem mem)
      rw [Column.declared, List.find?_cons_of_neg (by simpa using other)]
      exact ih distinct mem

/-- The columns of an upsert have distinct names if those that are asked for do. -/
theorem Merge.nodup_columns {merge : Merge}
    (distinct : ∀ columns ∈ merge.columns, (columns.map Column.name).Nodup) :
    ((Write.merge merge).columns.map Column.name).Nodup := by
  rw [Write.columns]
  cases asked : merge.columns with
  | some columns => exact distinct columns asked
  | none =>
    rw [Option.getD_none, Row.columns, List.map_map]
    exact (List.map_id _).symm ▸ merge.row.nodup

/-- **The dialects mean the same upsert.** Both fail with one error, or both are built.
Then both compare the unique columns with the same values and insert the same
values in all columns; and both set the columns that are neither unique nor
protected, if there are any. If there are none, Oracle has no branch for a row that
matches, and PostgreSQL sets the unique columns to what they were compared with.
PostgreSQL passes the arguments that Oracle does, without those of the unique
columns that are inserted. -/
theorem dialects_mean_the_same (merge : Merge) (unique : merge.unique.Nodup)
    (distinct : ∀ columns ∈ merge.columns, (columns.map Column.name).Nodup) :
    let columns := (Write.merge merge).columns
    let matched := merge.unique.map (Column.declared columns)
    let updated := columns.filter fun c => c.name ∉ merge.unique ∧ c.name ∉ merge.protectedColumns
    (∃ e, merge.build .oracle = .error e ∧ merge.build .postgres = .error e) ∨
    ∃ o p : Statement, merge.build .oracle = .ok o ∧ merge.build .postgres = .ok p ∧
      o.sql = ((Write.merge merge).tree .oracle).text ∧
      p.sql = ((Write.merge merge).tree .postgres).text ∧
      ((Write.merge merge).tree .oracle).upsert? o.args = some {
        table := merge.table
        condition := matched.map merge.row.entry
        updates := if updated.isEmpty then none else some (updated.map merge.row.entry)
        inserts := columns.map merge.row.entry } ∧
      ((Write.merge merge).tree .postgres).upsert? p.args = some {
        table := merge.table
        condition := matched.map merge.row.entry
        updates := some ((if updated.isEmpty then matched else updated).map merge.row.entry)
        inserts := columns.map merge.row.entry } ∧
      o.args = merge.row.args (matched ++ updated ++ columns) ∧
      p.args = merge.row.args (matched ++ updated ++ columns.filter fun c => c.name ∉ merge.unique) := by
  intro columns matched updated
  have named : matched.map Column.name = merge.unique := by
    rw [List.map_map]
    exact List.map_id _
  have updates : (merge.roles columns).updates = updated := by
    refine List.filter_congr fun c _ => ?_
    simp
  have inserts : ((merge.roles columns).inserts.filter fun c => !(merge.roles columns).inNv c) =
      columns.filter fun c => c.name ∉ merge.unique := by
    refine List.filter_congr fun c _ => ?_
    simp [Merge.Plan.inNv, Merge.roles, named, matched]
  have among : ∀ c ∈ columns, (merge.roles columns).inNv c = true → c ∈ matched := by
    intro c mem given
    have wanted : c.name ∈ merge.unique := by
      rw [← named]
      exact List.contains_iff_mem.mp given
    rw [← Column.declared_self (Merge.nodup_columns distinct) mem]
    exact List.mem_map_of_mem wanted
  have oracle : merge.build .oracle = _ := Write.build_eq (.merge merge) .oracle
  have postgres : merge.build .postgres = _ := Write.build_eq (.merge merge) .postgres
  have argsO := merge.args_oracleTree (merge.roles columns)
  have argsP := merge.args_postgresTree (merge.roles columns)
  have readO := merge.upsert?_oracleTree (merge.roles columns)
  have readP := merge.upsert?_postgresTree (merge.roles columns) (by rwa [← named] at unique) among
  rw [updates] at argsO readO
  rw [updates, inserts] at argsP readP
  rw [oracle, postgres]
  cases (Write.merge merge).check with
  | error e => exact .inl ⟨e, rfl, rfl⟩
  | ok u =>
    refine .inr ⟨_, _, rfl, rfl, rfl, rfl, ?_, ?_, argsO, argsP⟩
    · exact (congrArg _ argsO).trans readO
    · exact (congrArg _ argsP).trans readP

/-- Stock of an article, found by its number; the key is inserted but never updated. -/
def Merge.stock : Merge where
  table := "stock"
  row := .ofList [("id", .raw (.int 1)), ("sku", .raw (.text "A1")), ("at", .literal "now()")]
  unique := ["sku"]
  columns := some [⟨"id", some .long⟩, ⟨"sku", some .string⟩, ⟨"qty", none⟩, ⟨"at", none⟩]
  protectedColumns := ["id"]

theorem dialects_mean_the_same_stock :
    Merge.stock.unique.Nodup ∧ (∀ columns ∈ Merge.stock.columns, (columns.map Column.name).Nodup) ∧
    ∃ o p, Merge.stock.build .oracle = .ok o ∧ Merge.stock.build .postgres = .ok p ∧
      o.args.length = 5 ∧ p.args.length = 4 := by
  have unique : Merge.stock.unique.Nodup := by decide
  have distinct : ∀ columns ∈ Merge.stock.columns, (columns.map Column.name).Nodup := by decide
  refine ⟨unique, distinct, ?_⟩
  rcases dialects_mean_the_same Merge.stock unique distinct with
    ⟨e, failed, -⟩ | ⟨o, p, oracle, postgres, -, -, -, -, argsO, argsP⟩
  · cases failed
  · refine ⟨o, p, oracle, postgres, ?_, ?_⟩
    · rw [argsO]
      rfl
    · rw [argsP]
      rfl

end SqlBind
