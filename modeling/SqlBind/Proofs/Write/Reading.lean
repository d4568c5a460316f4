/-
How a printed statement is read (`RowSyntax.reads`): the reader finds binds
exactly at the places of columns whose values are bound, whatever the names, if
they pass the check, and whatever is spliced in, if each fragment is
self-contained.

A value is always read in plain text, and may leave the reader after a hyphen or
a slash; the SQL that follows it starts with neither a hyphen nor a star, so it
joins nothing to that (`Inert`). SQL after SQL only has to be `Quiet`.
-/
import SqlBind.Proofs.Identifier.Reading
import SqlBind.Proofs.Write.Syntax

namespace SqlBind

open Placeholder

/-- An item whose names are quiet and whose fragment is self-contained. -/
structure Item.Readable (i : Item) : Prop where
  names : ∀ name ∈ i.names, Quiet name
  fragment : ∀ sql ∈ i.fragment?, SelfContained sql

theorem Item.Readable.column {i : Item} (h : i.Readable) : Quiet i.column.name := by
  refine h.names _ ?_
  unfold Item.names
  split <;> simp

theorem Item.Readable.nameList {items : List Item} (h : ∀ i ∈ items, i.Readable) :
    Quiet (Item.nameList items) := by
  refine Quiet.intercalate (by decide) fun name mem => ?_
  simp only [List.map_map, List.mem_map, Function.comp_apply] at mem
  obtain ⟨i, hi, rfl⟩ := mem
  exact (h i hi).column

/-- Read from a mode on, chunks have their binds at their places and leave the
reader outside quotes and comments. -/
structure Reads (m : Mode) (chunks : List Chunk) : Prop where
  binds : ∀ n, bindsFrom m n (Chunk.textOf chunks).toList = (Chunk.placesFrom n chunks).map Prod.fst
  outside : (m.after (Chunk.textOf chunks).toList).isOutside = true

/-- Chunks that may follow a value. -/
def ReadsAfter (chunks : List Chunk) : Prop := ∀ m : Mode, m.isOutside = true → Reads m chunks

namespace Reads

theorem nil : ReadsAfter [] := fun _ hm => ⟨fun _ => rfl, hm⟩

theorem append {m : Mode} {xs ys : List Chunk} (hx : Reads m xs) (hy : ReadsAfter ys) :
    Reads m (xs ++ ys) := by
  have rest := hy _ hx.outside
  refine ⟨fun n => ?_, ?_⟩
  · rw [Chunk.textOf_append, String.toList_append, bindsFrom_append, hx.binds, rest.binds,
      Chunk.placesFrom_append, List.map_append, String.length_toList]
  · rw [Chunk.textOf_append, String.toList_append, Mode.after_append]
    exact rest.outside

theorem appendAfter {xs ys : List Chunk} (hx : ReadsAfter xs) (hy : ReadsAfter ys) :
    ReadsAfter (xs ++ ys) := fun m hm => (hx m hm).append hy

theorem sqlFrom {m : Mode} {text : String} {rest : List Chunk}
    (after : m.after text.toList = .plain) (binds : bindsFrom m 0 text.toList = [])
    (h : Reads .plain rest) : Reads m (.sql text :: rest) := by
  refine ⟨fun n => ?_, ?_⟩
  · rw [Chunk.textOf_cons, Chunk.text, String.toList_append, bindsFrom_append,
      bindsFrom_eq_nil_iff.mpr binds, after, h.binds, String.length_toList]
    rfl
  · rw [Chunk.textOf_cons, Chunk.text, String.toList_append, Mode.after_append, after]
    exact h.outside

theorem sql {text : String} {rest : List Chunk} (ht : Quiet text) (h : Reads .plain rest) :
    Reads .plain (.sql text :: rest) := sqlFrom ht.1 ht.2 h

/-- SQL that joins nothing to what stands before it may follow a value. -/
theorem sqlAfter {text : String} {rest : List Chunk} (ht : Inert text) (h : Reads .plain rest) :
    ReadsAfter (.sql text :: rest) := fun m hm => sqlFrom (ht m hm).1 (ht m hm).2 h

theorem item {i : Item} (hi : i.Readable) : Reads .plain [.item i] := by
  obtain ⟨column, term⟩ := i
  cases term with
  | bind =>
    have text : Chunk.textOf [.item ⟨column, .bind⟩] = "?" := by
      rw [Chunk.textOf_cons, Chunk.textOf_nil, String.append_empty]
      rfl
    refine ⟨fun n => ?_, ?_⟩
    · rw [text]; rfl
    · rw [text]; rfl
  | fragment sql =>
    have contained : SelfContained sql := hi.fragment sql rfl
    refine ⟨fun n => ?_, ?_⟩
    · rw [Chunk.textOf_cons, Chunk.textOf_nil, String.append_empty]
      exact contained.bindsFrom n
    · rw [Chunk.textOf_cons, Chunk.textOf_nil, String.append_empty]
      exact contained.2
  | newValue name =>
    have quiet : Quiet ("nv." ++ name) :=
      Quiet.append (by decide) (hi.names name (by simp [Item.names]))
    have read := sql quiet (nil .plain rfl)
    exact ⟨read.binds, read.outside⟩

theorem assigned {i : Item} (hi : i.Readable) : Reads .plain (Chunk.assigned i) :=
  sql (hi.column.append (by decide)) (item hi)

theorem separated {separator : String} (hs : Inert separator) {groups : List (List Chunk)}
    (h : ∀ group ∈ groups, Reads .plain group) : Reads .plain (Chunk.separated separator groups) := by
  induction groups with
  | nil => exact nil .plain rfl
  | cons group groups ih =>
    have first : Reads .plain group := h group (by simp)
    have others : Reads .plain (Chunk.separated separator groups) := ih fun g hg => h g (by simp [hg])
    cases groups with
    | nil => exact first
    | cons next rest => exact first.append (sqlAfter hs others)

theorem values {items : List Item} (h : ∀ i ∈ items, i.Readable) : Reads .plain (Chunk.values items) := by
  refine separated (by decide) fun group mem => ?_
  obtain ⟨i, hi, rfl⟩ := List.mem_map.mp mem
  exact item (h i hi)

theorem assignments {separator : String} (hs : Inert separator) {items : List Item}
    (h : ∀ i ∈ items, i.Readable) :
    Reads .plain (Chunk.separated separator (items.map Chunk.assigned)) := by
  refine separated hs fun group mem => ?_
  obtain ⟨i, hi, rfl⟩ := List.mem_map.mp mem
  exact assigned (h i hi)

theorem clause {keyword separator : String} (hk : Inert keyword) (hs : Inert separator)
    {items : List Item} (h : ∀ i ∈ items, i.Readable) :
    ReadsAfter (Chunk.clause keyword separator items) := by
  unfold Chunk.clause
  split
  · exact nil
  · exact sqlAfter hk (assignments hs h)

theorem returning (returning : Bool) : ReadsAfter (RowSyntax.returningChunks returning) := by
  cases returning with
  | false => exact nil
  | true => exact sqlAfter (by decide) (nil .plain rfl)

end Reads

namespace RowSyntax

theorem readsAfter_guardChunks {table : String} (ht : Quiet table) {guard : Option Item}
    (h : ∀ i ∈ guard, i.Readable) : ReadsAfter (guardChunks table guard) := by
  cases guard with
  | none => exact Reads.nil
  | some key =>
    have hk : key.Readable := h key rfl
    have before : Inert (" WHERE NOT EXISTS (SELECT 1 FROM " ++ table ++ " WHERE "
        ++ key.column.name ++ " = ") :=
      (((Inert.append (by decide) ht).append (by decide)).append hk.column).append (by decide)
    have after : ReadsAfter [.sql ")"] := Reads.sqlAfter (by decide) (Reads.nil .plain rfl)
    exact Reads.sqlAfter before ((Reads.item hk).append after)

/-- **The binds of a printed statement stand at the places of its columns**, if its
table is quiet and its items are readable. -/
theorem reads_of_readable {tree : RowSyntax} (ht : Quiet tree.table)
    (h : ∀ i ∈ tree.items, i.Readable) : Reads .plain tree.chunks := by
  have closed : ReadsAfter [.sql ")"] := Reads.sqlAfter (by decide) (Reads.nil .plain rfl)
  have comma : Inert ", " := by decide
  cases tree with
  | insert table inserted fromDual guard returning =>
    have hi : ∀ i ∈ inserted, i.Readable := fun i mem => h i (by simp [items, mem])
    have hg : ∀ i ∈ guard, i.Readable := fun i mem => h i (by simp [items, Option.mem_def.mp mem])
    have start : Quiet ("INSERT INTO " ++ table ++ " (" ++ Item.nameList inserted ++ ") SELECT ") :=
      ((((Quiet.append (by decide) ht).append (by decide)).append (Item.Readable.nameList hi)).append
        (by decide))
    have dual : ReadsAfter (if fromDual then [.sql " FROM DUAL"] else []) := by
      cases fromDual with
      | false => exact Reads.nil
      | true => exact Reads.sqlAfter (by decide) (Reads.nil .plain rfl)
    exact (((Reads.sql start (Reads.values hi)).append dual).append
      (readsAfter_guardChunks ht hg)).append (Reads.returning returning)
  | update table set key returning =>
    have hs : ∀ i ∈ set, i.Readable := fun i mem => h i (by simp [items, mem])
    have hk : key.Readable := h key (by simp [items])
    have start : Quiet ("UPDATE " ++ table ++ " SET ") :=
      (Quiet.append (by decide) ht).append (by decide)
    have before : Inert (" WHERE " ++ table ++ "." ++ key.column.name ++ " = ") :=
      (((Inert.append (by decide) ht).append (by decide)).append hk.column).append (by decide)
    exact ((Reads.sql start (Reads.assignments comma hs)).append
      (Reads.sqlAfter before (Reads.item hk))).append (Reads.returning returning)
  | delete table conditions =>
    have start : Quiet ("DELETE FROM " ++ table) := Quiet.append (by decide) ht
    exact Reads.sql start (Reads.clause (by decide) (by decide) h .plain rfl)
  | merge table on set inserted =>
    have ho : ∀ i ∈ on, i.Readable := fun i mem => h i (by simp [items, mem])
    have hs : ∀ i ∈ set, i.Readable := fun i mem => h i (by simp [items, mem])
    have hi : ∀ i ∈ inserted, i.Readable := fun i mem => h i (by simp [items, mem])
    have start : Quiet ("MERGE INTO " ++ table ++ " USING dual ON (") :=
      (Quiet.append (by decide) ht).append (by decide)
    have names : Inert (" WHEN NOT MATCHED THEN INSERT (" ++ Item.nameList inserted ++ ") VALUES (") :=
      (Inert.append (by decide) (Item.Readable.nameList hi)).append (by decide)
    have insertion := Reads.sqlAfter names ((Reads.values hi).append closed)
    have matching : Inert " WHEN MATCHED THEN UPDATE SET " := by decide
    have branches := Reads.appendAfter (Reads.clause matching comma hs) insertion
    have matched : ReadsAfter (.sql ")" :: _) := Reads.sqlAfter (by decide) (branches .plain rfl)
    simp only [chunks, List.append_assoc]
    exact Reads.sql start ((Reads.assignments (by decide) ho).append matched)
  | upsert table new on set inserted =>
    have hn : ∀ i ∈ new, i.Readable := fun i mem => h i (by simp [items, mem])
    have ho : ∀ i ∈ on, i.Readable := fun i mem => h i (by simp [items, mem])
    have hs : ∀ i ∈ set, i.Readable := fun i mem => h i (by simp [items, mem])
    have hi : ∀ i ∈ inserted, i.Readable := fun i mem => h i (by simp [items, mem])
    have start : Quiet ("WITH nv (" ++ Item.nameList new ++ ") AS (VALUES (") :=
      (Quiet.append (by decide) (Item.Readable.nameList hn)).append (by decide)
    have update : Inert (")), upsert AS (UPDATE " ++ table ++ " t SET ") :=
      (Inert.append (by decide) ht).append (by decide)
    have names : Inert (" RETURNING t.*) INSERT INTO " ++ table ++ " (" ++ Item.nameList inserted
        ++ ") SELECT ") :=
      (((Inert.append (by decide) ht).append (by decide)).append (Item.Readable.nameList hi)).append
        (by decide)
    have comparisons : Reads .plain (Chunk.separated " AND "
        (on.map fun i => [.sql ("t." ++ i.column.name ++ " = "), .item i])) := by
      refine Reads.separated (by decide) fun group mem => ?_
      obtain ⟨i, hi, rfl⟩ := List.mem_map.mp mem
      exact Reads.sql ((Quiet.append (by decide) (ho i hi).column).append (by decide))
        (Reads.item (ho i hi))
    have condition : ReadsAfter [.sql " FROM nv WHERE NOT EXISTS (SELECT 1 FROM upsert LIMIT 1)"] :=
      Reads.sqlAfter (by decide) (Reads.nil .plain rfl)
    have insertion := Reads.sqlAfter names ((Reads.values hi).append condition)
    have matched : ReadsAfter (.sql " FROM nv WHERE " :: _) :=
      Reads.sqlAfter (by decide) (comparisons.append insertion)
    have updated := Reads.sqlAfter update
      ((Reads.assignments comma hs).append matched)
    simp only [chunks, List.append_assoc]
    exact Reads.sql start ((Reads.values hn).append updated)

/-- **The binds of a printed statement stand at the places of its columns**, if its
names pass the check and its fragments are self-contained. -/
theorem reads {tree : RowSyntax} (names : ∀ name ∈ tree.names, Identifier.check name = .ok ())
    (fragments : ∀ sql ∈ tree.fragments, SelfContained sql) : Reads .plain tree.chunks := by
  refine reads_of_readable (Identifier.quiet_of_check (names _ (by simp [RowSyntax.names])))
    fun i mem => ⟨fun name hn => ?_, fun sql hs => ?_⟩
  · refine Identifier.quiet_of_check (names name ?_)
    exact List.mem_cons_of_mem _ (List.mem_flatMap.mpr ⟨i, mem, hn⟩)
  · exact fragments sql (List.mem_filterMap.mpr ⟨i, mem, hs⟩)

end RowSyntax
end SqlBind
