/-
Values never reach the SQL. Two runs that differ in nothing but the values that
are bound make the same text: the SQL of a template is fixed before its arguments
are looked up or evaluated, and the SQL of a row is its tree, in which a value
that is bound has left no trace but a question mark.

Of a row, the SQL shows three things: the names of its columns, the fragments
that it splices in, and whether an insertion knows the key to look for.
-/
import SqlBind.Proofs.Template.Watch
import SqlBind.Proofs.Write.Build

namespace SqlBind

/-! ## Rows that differ in bound values alone -/

/-- Two rows have the same names in the same order, and the same literals under them. -/
structure Row.Agrees (row other : Row) : Prop where
  keys : row.keys = other.keys
  literal : ∀ name, (row.get? name).bind Arg.literal? = (other.get? name).bind Arg.literal?

namespace Row

/-- What stands for a value depends on nothing but the row's literals. -/
theorem term_eq (row : Row) (column : Column) :
    row.term column =
      match (row.get? column.name).bind Arg.literal? with
      | some fragment => .fragment fragment
      | none => .bind := by
  rw [term, argFor]
  cases row.get? column.name with
  | none => rfl
  | some arg => cases arg <;> rfl

theorem Agrees.item {row other : Row} (h : row.Agrees other) : row.item = other.item := by
  funext column
  rw [Row.item, Row.item, term_eq, term_eq, h.literal]

theorem Agrees.columns {row other : Row} (h : row.Agrees other) : row.columns = other.columns := by
  rw [Row.columns, Row.columns, h.keys]

end Row

namespace Write

/-- The same write of another row. -/
def withRow (row : Row) : Write → Write
  | .insert i fallback => .insert { i with row } fallback
  | .update u fallback => .update { u with row } fallback
  | .delete d fallback => .delete { d with row } fallback
  | .deleteAll d => .deleteAll { d with condition := row }
  | .merge m => .merge { m with row }

/-- Whether an insertion has a key to look for. Nothing else looks for one. -/
def hasConcreteKey : Write → Bool
  | .insert i fallback => (i.row.get? (i.key.getD fallback)).any Insert.isConcrete
  | _ => false

@[simp] theorem checkWith_withRow (names : List String) (row : Row) (write : Write) :
    (write.withRow row).checkWith names = write.checkWith names := by
  cases write <;> rfl

theorem columns_congr {row other : Row} (h : row.Agrees other) (write : Write) :
    (write.withRow row).columns = (write.withRow other).columns := by
  cases write <;> simp only [withRow, columns, h.columns]

/-- The check looks at the names of a row's columns alone. -/
theorem check_congr {row other : Row} (h : row.Agrees other) (write : Write) :
    (write.withRow row).check = (write.withRow other).check := by
  rw [check, check, columns_congr h, checkWith_withRow, checkWith_withRow]

/-- The syntax of an upsert shows no value that is bound. -/
theorem mergeTree_congr {row other : Row} (h : row.Agrees other) (m : Merge) (dialect : Dialect)
    (plan : Merge.Plan) :
    Merge.tree { m with row } dialect plan = Merge.tree { m with row := other } dialect plan := by
  have inserted :
      Merge.insertedItem { m with row } plan = Merge.insertedItem { m with row := other } plan := by
    funext column
    simp only [Merge.insertedItem, h.item]
  cases dialect with
  | oracle => simp only [Merge.tree, Merge.oracleTree, h.item]
  | postgres => simp only [Merge.tree, Merge.postgresTree, inserted, h.item]

/-- The syntax shows no value that is bound. -/
theorem tree_congr {row other : Row} (h : row.Agrees other) (write : Write) (dialect : Dialect)
    (key : (write.withRow row).hasConcreteKey = (write.withRow other).hasConcreteKey) :
    (write.withRow row).tree dialect = (write.withRow other).tree dialect := by
  have columns := columns_congr h write
  cases write with
  | insert i fallback =>
    simp only [withRow, hasConcreteKey] at key columns
    simp only [withRow, tree, Insert.tree, columns, key, h.item]
  | update u fallback =>
    simp only [withRow] at columns
    simp only [withRow, tree, Update.tree, columns, h.item]
  | delete d fallback => simp only [withRow, tree, Delete.tree, h.item]
  | deleteAll d => simp only [withRow, tree, DeleteAll.tree, h.columns, h.item]
  | merge m =>
    change Merge.tree { m with row } dialect (m.roles _) =
      Merge.tree { m with row := other } dialect (m.roles _)
    rw [columns, mergeTree_congr h]

/-- Two writes that differ in bound values alone fail alike, or make the same SQL with as many arguments. -/
theorem build_congr {row other : Row} (h : row.Agrees other) (write : Write) (dialect : Dialect)
    (key : (write.withRow row).hasConcreteKey = (write.withRow other).hasConcreteKey) :
    (∃ e, (write.withRow row).build dialect = .error e ∧
      (write.withRow other).build dialect = .error e) ∨
    ∃ s s', (write.withRow row).build dialect = .ok s ∧ (write.withRow other).build dialect = .ok s' ∧
      s.sql = s'.sql ∧ s.args.length = s'.args.length := by
  rw [build_eq, build_eq, check_congr h write, tree_congr h write dialect key]
  cases (write.withRow other).check with
  | error e => exact .inl ⟨e, rfl, rfl⟩
  | ok u =>
    refine .inr ⟨_, _, rfl, rfl, rfl, ?_⟩
    rw [RowSyntax.statement, RowSyntax.statement, List.length_map, List.length_map]

end Write

/-! ## Any two runs -/

open Template in
/-- **Values never reach the SQL.** For a template with named markers there are one
SQL and one list of names, whatever the arguments. For a template with expressions,
two evaluators that get to the end make the same SQL and are handed the same
expressions, whatever they answer and whatever world they work on. Two writes of
rows that agree in names, literals and, for an insertion, in whether there is a key
to look for, fail with the same error, or make the same SQL with as many arguments. -/
theorem values_never_reach_sql :
    (∀ template, ∃ (sql : String) (names : List String), ∀ args : NamedArgs, normalize template (.named args) =
      .ok ⟨sql, names.map fun name => (args.get? name).getD .null⟩) ∧
    (∀ template eval, (Expression.watch template (Expression.steady eval) ()).1 =
      normalize template (.evaluated eval)) ∧
    (∀ template {σ τ : Type} (eval : String → Effect σ Arg)
      (eval' : String → Effect τ Arg) (world : σ) (world' : τ) (s s' : Statement),
      (Expression.watch template eval world).1 = .ok s →
      (Expression.watch template eval' world').1 = .ok s' →
      s.sql = s'.sql ∧
        (Expression.watch template eval world).2.2 = (Expression.watch template eval' world').2.2) ∧
    ∀ (write : Write) (dialect : Dialect) (row other : Row), row.Agrees other →
      (write.withRow row).hasConcreteKey = (write.withRow other).hasConcreteKey →
      (∃ e, (write.withRow row).build dialect = .error e ∧
        (write.withRow other).build dialect = .error e) ∨
      ∃ s s', (write.withRow row).build dialect = .ok s ∧
        (write.withRow other).build dialect = .ok s' ∧
        s.sql = s'.sql ∧ s.args.length = s'.args.length := by
  refine ⟨fun template => ?_, fun template eval => ?_, ?_, ?_⟩
  · exact ⟨sql (Named.segments template), labels (Named.segments template), fun args => rfl⟩
  · obtain ⟨handed, -, watched, -⟩ := Expression.watch_eq template (Expression.steady eval) ()
    rw [watched, Expression.bind_steady]
  · intro template σ τ eval eval' world world' s s' ok ok'
    obtain ⟨handed, -, watched, all⟩ := Expression.watch_eq template eval world
    obtain ⟨handed', -, watched', all'⟩ := Expression.watch_eq template eval' world'
    rw [watched] at ok
    rw [watched'] at ok'
    obtain ⟨labels, text⟩ := all s ok
    obtain ⟨labels', text'⟩ := all' s' ok'
    rw [watched, watched']
    exact ⟨text.trans text'.symm, labels.trans labels'.symm⟩
  · intro write dialect row other agrees key
    exact Write.build_congr agrees write dialect key

/-- A row to be inserted, and one whose text would end the statement if it reached the SQL. -/
def Row.harmless : Row := .ofList [("id", .raw (.int 1)), ("name", .raw (.text "Jo")), ("at", .literal "now()")]

@[inherit_doc Row.harmless]
def Row.hostile : Row :=
  .ofList [("id", .raw (.int 2)), ("name", .raw (.text "'); DROP TABLE t; --")), ("at", .literal "now()")]

open Template in
theorem values_never_reach_sql_hostile :
    (Expression.watch "\x7ba\x7d=\x7bb\x7d" (Expression.steady fun _ => .ok .null) ()).2.2 =
      (Expression.watch "\x7ba\x7d=\x7bb\x7d" (fun name calls => (.ok (.raw (.text name)), calls + 1)) 0).2.2 ∧
    ∃ s s',
      ((Write.insert { table := "t", row := .empty } defaultKey).withRow .harmless).build .oracle = .ok s ∧
      ((Write.insert { table := "t", row := .empty } defaultKey).withRow .hostile).build .oracle = .ok s' ∧
      s.sql = s'.sql ∧ s.args.length = s'.args.length := by
  obtain ⟨-, -, evaluated, written⟩ := values_never_reach_sql
  have read : Expression.read "\x7ba\x7d=\x7bb\x7d" =
      ⟨[.marker ['a'], .text ['='], .marker ['b']], none⟩ := by decide
  have agrees : Row.harmless.Agrees Row.hostile := by
    refine ⟨rfl, fun name => ?_⟩
    change (OrderedMap.lookup [("id", _), ("name", _), ("at", _)] name).bind Arg.literal? =
      (OrderedMap.lookup [("id", _), ("name", _), ("at", _)] name).bind Arg.literal?
    simp only [OrderedMap.lookup]
    split
    · rfl
    · split <;> rfl
  refine ⟨(evaluated _ _ _ _ _ ⟨"?=?", [.null, .null]⟩
    ⟨"?=?", [.raw (.text "a"), .raw (.text "b")]⟩ ?_ ?_).2, ?_⟩
  · rw [Expression.watch, Expression.bind_apply, read]
    rfl
  · rw [Expression.watch, Expression.bind_apply, read]
    rfl
  · rcases written (.insert { table := "t", row := .empty } defaultKey) .oracle _ _ agrees rfl with
      ⟨e, failed, -⟩ | built
    · cases failed
    · exact built

end SqlBind
