/-
The guard of an insertion, which lets it insert a row once. It is there just if the
row has a key that stored ones can be compared with, whether the key is inserted or
not; it is the statement's last bind, and what it binds is what was bound for the
key where the key is inserted first (`guard_tests_inserted_key`). The dialects put
fixed text before it and after it, and nothing else of the statement is theirs.
-/
import SqlBind.Proofs.Write.Alignment
import SqlBind.Proofs.Write.Upsert

namespace SqlBind

open Placeholder

/-- Whether an argument is an output of a procedure call, with or without an input. -/
def Arg.isOutput : Arg → Bool
  | .out _ | .inOut .. => true
  | _ => false

theorem Column.declared_first {before after : List Column} {c : Column} {name : String}
    (named : c.name = name) (first : ∀ d ∈ before, d.name ≠ name) :
    Column.declared (before ++ c :: after) name = c := by
  have none : before.find? (fun d => d.name = name) = Option.none :=
    List.find?_eq_none.mpr fun d mem => by simpa using first d mem
  rw [Column.declared, List.find?_append, none, List.find?_cons_of_pos (by simpa using named),
    ← named]
  rfl

theorem Column.declared_absent {columns : List Column} {name : String} (absent : ∀ c ∈ columns, c.name ≠ name) :
    Column.declared columns name = .bare name := by
  have none : columns.find? (fun d => d.name = name) = Option.none :=
    List.find?_eq_none.mpr fun d mem => by simpa using absent d mem
  rw [Column.declared, none]
  rfl

namespace Insert

variable (insert : Insert)

/-- The row has a key: a value that is not `NULL`, with or without a type, and neither
SQL that is spliced in nor an output. -/
def HasKey (key : String) : Prop :=
  ∃ arg, insert.row.get? key = some arg ∧ arg.isNull = false ∧ arg.isLiteral = false ∧
    arg.isOutput = false

/-- The insertion up to the values it selects. -/
def selection (columns : List Column) : String :=
  "INSERT INTO " ++ insert.table ++ " (" ++ Column.nameList columns ++ ") SELECT "
    ++ ", ".intercalate (columns.map fun c => (insert.row.term c).text)

/-- All that stands before the guard. -/
def beforeGuard (columns : List Column) (dialect : Dialect) : String :=
  insert.selection columns ++ if dialect.isOracle then " FROM DUAL" else ""

/-- All that stands behind it. -/
def afterGuard (dialect : Dialect) : String := if dialect.isPostgres then " RETURNING *" else ""

/-- The guard up to the slot of the key. -/
def guardOpening (key : String) : String :=
  " WHERE NOT EXISTS (SELECT 1 FROM " ++ insert.table ++ " WHERE " ++ key ++ " = "

/-- The arguments of an insertion whose last one is the key. -/
structure TestsKey (columns : List Column) (key : String) (args : List Arg) : Prop where
  last : ∃ tested, args = insert.row.args columns ++ [tested]
  /-- The key is what the first column so named binds, under the type that it declares. -/
  inserted : ∀ before c after, columns = before ++ c :: after → c.name = key →
    (∀ d ∈ before, d.name ≠ key) → args[(insert.row.args before).length]? = args.getLast?
  /-- A key that is not inserted is tested as the row has it. -/
  given : (∀ c ∈ columns, c.name ≠ key) → args.getLast? = insert.row.get? key

variable {insert} {columns : List Column} {key : String}

theorem hasKey_iff : insert.HasKey key ↔ (insert.row.get? key).any isConcrete = true := by
  rw [HasKey]
  cases insert.row.get? key with
  | none => simp
  | some arg =>
    cases arg <;> simp [isConcrete, Arg.isNull, Arg.isLiteral, Arg.isOutput]

theorem HasKey.argFor (h : insert.HasKey key) :
    insert.row.get? key = some (insert.row.argFor key) ∧
      (insert.row.argFor key).isLiteral = false := by
  obtain ⟨arg, found, -, noLiteral, -⟩ := h
  rw [Row.argFor, found]
  exact ⟨rfl, noLiteral⟩

/-- The key is bound, not spliced in, whatever type is declared for it. -/
theorem HasKey.bound (h : insert.HasKey key) {column : Column} (named : column.name = key) :
    insert.row.term column = .bind ∧ insert.row.args [column] = [insert.row.value column] := by
  obtain ⟨-, noLiteral⟩ := h.argFor
  rcases insert.row.value_cases column with ⟨fragment, literal, -, -⟩ | ⟨value, term⟩
  · rw [named] at literal
    rw [literal] at noLiteral
    cases noLiteral
  · exact ⟨term, by simp [Row.args, value]⟩

/-- **The key that is tested is the key that is inserted**, if it is. -/
theorem HasKey.testsKey (h : insert.HasKey key) : insert.TestsKey columns key
    (insert.row.args columns ++ [insert.row.value (.declared columns key)]) where
  last := ⟨_, rfl⟩
  inserted := by
    rintro before c after rfl named first
    have there : insert.row.args (before ++ c :: after) =
        insert.row.args before ++ insert.row.value c :: insert.row.args after := by
      rw [← List.singleton_append, Row.args_append, Row.args_append, (h.bound named).2,
        List.singleton_append]
    rw [Column.declared_first named first, List.getLast?_concat, there, List.append_assoc,
      List.getElem?_append_right (Nat.le_refl _), Nat.sub_self]
    rfl
  given := by
    intro absent
    rw [Column.declared_absent absent, List.getLast?_append, h.argFor.1]
    rfl

/-! ## The statement that is built -/

/-- The key in the guard, if the insertion is guarded. -/
def guardItem? (insert : Insert) (columns : List Column) (key : String) : Option Item :=
  if (insert.row.get? key).any isConcrete then some (insert.row.item (.declared columns key)) else none

/-- The condition of an insertion. -/
def condition (insert : Insert) (key : String) : String :=
  if (insert.row.get? key).any isConcrete then insert.guardOpening key ++ "?" ++ ")" else ""

theorem textOf_guardChunks (insert : Insert) (columns : List Column) (key : String) :
    Chunk.textOf (RowSyntax.guardChunks insert.table (insert.guardItem? columns key)) =
      insert.condition key := by
  rw [condition, guardItem?]
  split
  · next concrete =>
    have h : insert.HasKey key := hasKey_iff.mpr concrete
    have slot : (insert.row.item (.declared columns key)).term = .bind := (h.bound rfl).1
    rw [RowSyntax.guardChunks, Chunk.textOf_cons, Chunk.textOf_cons, Chunk.textOf_cons,
      Chunk.textOf_nil, Chunk.text, Chunk.text, Chunk.text, slot, String.append_empty,
      ← String.append_assoc]
    rfl
  · rfl

theorem textOf_values (row : Row) (columns : List Column) :
    Chunk.textOf (Chunk.values (columns.map row.item)) =
      ", ".intercalate (columns.map fun c => (row.term c).text) := by
  rw [Chunk.values, Chunk.textOf_separated, List.map_map, List.map_map]
  refine congrArg _ (List.map_congr_left fun c _ => ?_)
  simp [Chunk.text, Row.item]

/-- The chunks before the guard. -/
def head (insert : Insert) (columns : List Column) (dialect : Dialect) : List Chunk :=
  [.sql ("INSERT INTO " ++ insert.table ++ " (" ++ Column.nameList columns ++ ") SELECT ")]
    ++ Chunk.values (columns.map insert.row.item)
    ++ (if dialect.isOracle then [.sql " FROM DUAL"] else [])

theorem textOf_head (insert : Insert) (columns : List Column) (dialect : Dialect) :
    Chunk.textOf (insert.head columns dialect) = insert.beforeGuard columns dialect := by
  have dual : Chunk.textOf (if dialect.isOracle then [.sql " FROM DUAL"] else []) =
      if dialect.isOracle then " FROM DUAL" else "" := by
    split
    · exact Chunk.textOf_sql _
    · rfl
  unfold beforeGuard selection
  simp only [head, Chunk.textOf_append, Chunk.textOf_cons, Chunk.textOf_nil, String.append_empty, dual,
    textOf_values, Chunk.text, String.append_assoc]

theorem chunks_tree (insert : Insert) (dialect : Dialect) (columns : List Column) (key : String) :
    (insert.tree dialect columns key).chunks = insert.head columns dialect ++
      RowSyntax.guardChunks insert.table (insert.guardItem? columns key) ++
        RowSyntax.returningChunks dialect.isPostgres := by
  rw [tree, RowSyntax.chunks, Item.nameList_map fun c => rfl]
  rfl

theorem text_tree (insert : Insert) (dialect : Dialect) (columns : List Column) (key : String) :
    (insert.tree dialect columns key).text =
      insert.beforeGuard columns dialect ++ insert.condition key ++ afterGuard dialect := by
  have returned : Chunk.textOf (RowSyntax.returningChunks dialect.isPostgres) = afterGuard dialect := by
    rw [RowSyntax.returningChunks, afterGuard]
    split
    · exact Chunk.textOf_sql _
    · rfl
  rw [RowSyntax.text, chunks_tree, Chunk.textOf_append, Chunk.textOf_append, textOf_head,
    textOf_guardChunks, returned]

theorem args_tree (insert : Insert) (dialect : Dialect) (columns : List Column) (key : String) :
    (insert.tree dialect columns key).bound.map insert.row.value =
      insert.row.args columns ++ if (insert.row.get? key).any isConcrete then
        [insert.row.value (.declared columns key)] else [] := by
  rw [tree, RowSyntax.bound_eq, RowSyntax.items, List.filterMap_append, List.map_append,
    Row.args_items]
  congr 1
  split
  · next concrete =>
    have h : insert.HasKey key := hasKey_iff.mpr concrete
    rw [← (h.bound rfl).2, ← Row.args_items]
    rfl
  · rfl

/-- The last bind of a guarded insertion stands in the guard. -/
theorem HasKey.getLast?_placesFrom (h : insert.HasKey key) (dialect : Dialect) :
    ((Chunk.placesFrom 0 (insert.tree dialect columns key).chunks).map Prod.fst).getLast? =
      some (insert.beforeGuard columns dialect ++ insert.guardOpening key).length := by
  have slot : (insert.row.item (.declared columns key)).bound? = some (.declared columns key) := by
    have term : insert.row.term (.declared columns key) = .bind := (h.bound rfl).1
    rw [Item.bound?, Row.item, term]
  have guarded (n : Nat) : Chunk.placesFrom n (RowSyntax.guardChunks insert.table
      (some (insert.row.item (.declared columns key)))) =
        [(n + (insert.guardOpening key).length, .declared columns key)] := by
    rw [RowSyntax.guardChunks, Chunk.placesFrom, Chunk.placesFrom, Chunk.placesFrom, Chunk.placesFrom,
      Chunk.bound?, Chunk.bound?, Chunk.bound?, slot]
    rfl
  have returned (n : Nat) (returning : Bool) :
      Chunk.placesFrom n (RowSyntax.returningChunks returning) = [] := by
    cases returning <;> rfl
  rw [chunks_tree, guardItem?, if_pos (hasKey_iff.mp h), Chunk.placesFrom_append, Chunk.placesFrom_append, guarded,
    returned, textOf_head, List.append_nil, List.map_append, List.getLast?_append, Nat.zero_add,
    String.length_append]
  rfl

/-- What an insertion splices in are the literals of the columns that it inserts. -/
theorem HasKey.fragments (h : insert.HasKey key) {dialect : Dialect}
    (contained : ∀ c ∈ columns, ∀ sql, insert.row.argFor c.name = .literal sql → SelfContained sql) :
    ∀ sql ∈ (insert.tree dialect columns key).fragments, SelfContained sql := by
  intro sql mem
  obtain ⟨i, inItems, shown⟩ := List.mem_filterMap.mp mem
  simp only [tree, RowSyntax.items, List.mem_append, if_pos (hasKey_iff.mp h), Option.toList_some,
    List.mem_singleton] at inItems
  rcases inItems with inColumns | rfl
  · obtain ⟨c, hc, rfl⟩ := List.mem_map.mp inColumns
    rcases insert.row.value_cases c with ⟨fragment, literal, -, term⟩ | ⟨-, term⟩
    · rw [Item.fragment?, Row.item, term] at shown
      cases shown
      exact contained c hc sql literal
    · rw [Item.fragment?, Row.item, term] at shown
      cases shown
  · rw [Item.fragment?, Row.item, (h.bound rfl).1] at shown
    cases shown

/-- The reader finds as many binds in a guarded insertion as it has arguments, and the
last of them in the guard. -/
theorem HasKey.guard_is_last (h : insert.HasKey key) {dialect : Dialect}
    (names : ∀ name ∈ (insert.tree dialect columns key).names, Identifier.check name = .ok ())
    (contained : ∀ c ∈ columns, ∀ sql, insert.row.argFor c.name = .literal sql → SelfContained sql) :
    let tree := insert.tree dialect columns key
    (offsets tree.text).length = (tree.bound.map insert.row.value).length ∧
      (offsets tree.text).getLast? =
        some (insert.beforeGuard columns dialect ++ insert.guardOpening key).length := by
  intro tree
  obtain ⟨found, -⟩ := RowSyntax.offsets_text names (h.fragments contained) insert.row
  rw [found]
  refine ⟨?_, h.getLast?_placesFrom dialect⟩
  rw [List.length_map, List.length_map, RowSyntax.bound, ← Chunk.map_snd_placesFrom 0, List.length_map]

end Insert

/-- **An insertion is guarded just if the row has a key, and tests the key it inserts.**
For the same insertions both dialects fail with the same error, or both are built, with
the same arguments and, but for ` FROM DUAL` before the guard and ` RETURNING *` at the
end, with the same text. Without a key there is no guard, and the arguments are those of
the columns. With a key, the guard has a slot, and one more argument is there, the key as
it was bound where it is inserted first; if what is spliced in is self-contained, the
last bind of the statement is this slot. -/
theorem guard_tests_inserted_key (insert : Insert) (fallback : String) :
    let key := insert.key.getD fallback
    let columns := insert.columns.getD insert.row.columns
    (∃ e, ∀ dialect, insert.buildWith dialect fallback = .error e) ∨
    ∃ condition args,
      (∀ dialect, insert.buildWith dialect fallback =
        .ok ⟨insert.beforeGuard columns dialect ++ condition ++ Insert.afterGuard dialect, args⟩) ∧
      ((¬insert.HasKey key ∧ condition = "" ∧ args = insert.row.args columns) ∨
        (insert.HasKey key ∧ condition = insert.guardOpening key ++ "?" ++ ")" ∧
          insert.TestsKey columns key args ∧
          ((∀ c ∈ columns, ∀ sql, insert.row.argFor c.name = .literal sql → SelfContained sql) →
            ∀ dialect,
              let places := offsets
                (insert.beforeGuard columns dialect ++ condition ++ Insert.afterGuard dialect)
              places.length = args.length ∧ places.getLast? =
                some (insert.beforeGuard columns dialect ++ insert.guardOpening key).length))) := by
  intro key columns
  have built (dialect : Dialect) : insert.buildWith dialect fallback =
      (Write.insert insert fallback).check.map fun _ =>
        (insert.tree dialect columns key).statement insert.row :=
    Write.build_eq (.insert insert fallback) dialect
  cases checked : (Write.insert insert fallback).check with
  | error e => exact .inl ⟨e, fun dialect => by rw [built, checked]; rfl⟩
  | ok u =>
    have statement (dialect : Dialect) : insert.buildWith dialect fallback =
        .ok ⟨insert.beforeGuard columns dialect ++ insert.condition key ++ Insert.afterGuard dialect,
          insert.row.args columns ++ if (insert.row.get? key).any Insert.isConcrete then
            [insert.row.value (.declared columns key)] else []⟩ := by
      rw [built, checked, ← insert.text_tree dialect columns key, ← insert.args_tree dialect columns key]
      rfl
    refine .inr ⟨_, _, statement, ?_⟩
    by_cases h : insert.HasKey key
    · have concrete := Insert.hasKey_iff.mp h
      refine .inr ⟨h, if_pos concrete, ?_, fun contained dialect => ?_⟩
      · rw [if_pos concrete]
        exact h.testsKey
      · have names : ∀ name ∈ (insert.tree dialect columns key).names,
            Identifier.check name = .ok () := Write.check_names checked
        rw [← insert.text_tree dialect columns key, ← insert.args_tree dialect columns key]
        exact h.guard_is_last names contained
    · have vague : ¬(insert.row.get? key).any Insert.isConcrete = true := fun concrete =>
        h (Insert.hasKey_iff.mpr concrete)
      refine .inl ⟨h, if_neg vague, ?_⟩
      rw [if_neg vague, List.append_nil]

/-- A message whose key is inserted twice, first as a `LONG` and then as a `STRING`. -/
def Insert.twiceKeyed : Insert where
  table := "app.\"why? -- \"\"so\"\"\""
  row := .ofList [("at", .literal "now() /* ? */"), ("id", .raw (.int 7))]
  columns := some [⟨"at", none⟩, ⟨"id", some .long⟩, ⟨"id", some .string⟩]

theorem guard_tests_inserted_key_typed :
    (∀ c ∈ Insert.twiceKeyed.columns.getD Insert.twiceKeyed.row.columns,
      ∀ sql, Insert.twiceKeyed.row.argFor c.name = .literal sql → SelfContained sql) ∧
    ∃ s, Insert.twiceKeyed.buildWith .postgres defaultKey = .ok s ∧
      (offsets s.sql).length = s.args.length ∧ s.args.length = 3 ∧
      s.args[0]? = s.args.getLast? := by
  have contained : ∀ c ∈ Insert.twiceKeyed.columns.getD Insert.twiceKeyed.row.columns,
      ∀ sql, Insert.twiceKeyed.row.argFor c.name = .literal sql → SelfContained sql := by
    intro c mem sql literal
    simp only [Insert.twiceKeyed, Option.getD_some, List.mem_cons, List.not_mem_nil, or_false] at mem
    rcases mem with rfl | rfl | rfl
    · cases literal
      decide
    · cases literal
    · cases literal
  have keyed : Insert.twiceKeyed.HasKey defaultKey := ⟨.raw (.int 7), rfl, rfl, rfl, rfl⟩
  refine ⟨contained, ?_⟩
  rcases guard_tests_inserted_key Insert.twiceKeyed defaultKey with
    ⟨e, failed⟩ | ⟨condition, args, built, ⟨keyless, -⟩ | ⟨-, -, tests, aligned⟩⟩
  · cases failed .postgres
  · exact absurd keyed keyless
  · refine ⟨_, built .postgres, (aligned contained .postgres).1, ?_, ?_⟩
    · obtain ⟨tested, rfl⟩ := tests.last
      rfl
    · exact tests.inserted [⟨"at", none⟩] ⟨"id", some .long⟩ [⟨"id", some .string⟩] rfl rfl (by decide)

end SqlBind
