/-
Documents without a tag. Before a statement is handed over, the database tags documents so
that they are bound as its settings say. A database that does this is one that does not, on
a transport that does it to each statement it gets; so what holds of one statement holds of
every session (`untagged_documents_declared`). One statement keeps its SQL and the order of
its arguments, and those that are no documents without a tag. But the tag is given only to a
document that is an argument itself: one under the tag `RAW`, and one that an output passes
in, is declared in binary form whatever the settings say.
-/
import Mathlib.Data.List.Forall2
import SqlBind.Postgres.Parameter
import SqlBind.Proofs.Db.Tracing
import SqlBind.Proofs.Postgres.Documents

namespace SqlBind

variable {m : Type → Type} {α β σ : Type}

/-! ## One statement -/

/-- What is handed over for an argument. -/
def JsonType.tagged : JsonType → Arg → Arg
  | json, a => a.taggedJson
  | jsonb, a => a

/-- The document that an argument binds without a tag of documents: it has no tag or the one
that says nothing, or it is passed in so. -/
def Arg.untaggedDocument? : Arg → Option Json
  | .raw (.json j) => some j
  | .typed .raw (.json j) _ => some j
  | .inOut _ input => input.untaggedDocument?
  | _ => none

/-- A statement that is handed over keeps its SQL and the order of its arguments. -/
theorem Config.stage_eq (config : Config) (s : Statement) :
    config.stage s = ⟨s.sql, s.args.map config.jsonType.tagged⟩ := by
  obtain ⟨key, type, level, length, timeout⟩ := config
  cases type with
  | json => rfl
  | jsonb =>
    have same : s.args.map JsonType.jsonb.tagged = s.args := List.map_id s.args
    rw [same]
    rfl

namespace Arg

theorem taggedJson_of_ne {a : Arg} (other : ∀ j, a ≠ .raw (.json j)) : a.taggedJson = a := by
  cases a with
  | raw v =>
    cases v with
    | json j => exact absurd rfl (other j)
    | _ => rfl
  | _ => rfl

/-- A document without a tag of documents is the argument's value, declared in binary form. -/
theorem untagged {a : Arg} {j : Json} (document : a.untaggedDocument? = some j) :
    a.value? = some (.json j) ∧ Postgres.parameterType a = JsonType.jsonb.parameter := by
  fun_induction untaggedDocument? a with
  | case1 | case2 =>
    cases document
    exact ⟨rfl, rfl⟩
  | case3 type input ih => exact ih document
  | case4 => cases document

end Arg

/-- What becomes of an argument under the settings. -/
structure Declared (type : JsonType) (a handed : Arg) : Prop where
  /-- A document without a tag is handed over as it is, … -/
  value {j : Json} (document : a.untaggedDocument? = some j) : handed.value? = some (.json j)
  /-- … declared as the settings say just if that is what is declared anyway or the
  document is the argument itself, … -/
  declared_iff {j : Json} (document : a.untaggedDocument? = some j) :
    Postgres.parameterType handed = type.parameter ↔ type = .jsonb ∨ a = .raw (.json j)
  /-- … and in binary form else. -/
  otherwise {j : Json} (document : a.untaggedDocument? = some j)
    (other : Postgres.parameterType handed ≠ type.parameter) :
    Postgres.parameterType handed = JsonType.jsonb.parameter
  /-- All else is not touched. -/
  kept (none : a.untaggedDocument? = none) : handed = a

theorem declared (type : JsonType) (a : Arg) : Declared type a (type.tagged a) := by
  cases type with
  | jsonb =>
    exact {
      value := fun document => (Arg.untagged document).1
      declared_iff := fun document => iff_of_true (Arg.untagged document).2 (.inl rfl)
      otherwise := fun document _ => (Arg.untagged document).2
      kept := fun _ => rfl }
  | json =>
    by_cases direct : ∃ j, a = .raw (.json j)
    · obtain ⟨j, rfl⟩ := direct
      exact {
        value := fun document => by
          cases document
          rfl
        declared_iff := fun document => by
          cases document
          exact iff_of_true rfl (.inr rfl)
        otherwise := fun _ other => absurd rfl other
        kept := nofun }
    · have same : a.taggedJson = a := Arg.taggedJson_of_ne fun j eq => direct ⟨j, eq⟩
      rw [JsonType.tagged, same]
      exact {
        value := fun document => (Arg.untagged document).1
        declared_iff := fun {j} document => by
          rw [(Arg.untagged document).2]
          exact iff_of_false (by decide)
            (by rintro (⟨⟨⟩⟩ | itself); exact direct ⟨j, itself⟩)
        otherwise := fun document _ => (Arg.untagged document).2
        kept := fun _ => rfl }

/-! ## Every session -/

/-- The settings, with documents bound as they are without a tag. -/
def Config.plain (config : Config) : Config := { config with jsonType := .jsonb }

/-- A transport that gets each statement as these settings have it handed over. -/
def Transport.staged (config : Config) (t : Transport m) : Transport m where
  dialect := t.dialect
  query limit s := t.query limit (config.stage s)
  pageQuery page limit s := t.pageQuery page limit (config.stage s)
  execute limit s := t.execute limit (config.stage s)
  call limit s := t.call limit (config.stage s)
  travel visit limit s := t.travel visit limit (config.stage s)

def TransactionTransport.staged (config : Config) (t : TransactionTransport m) :
    TransactionTransport m where
  toTransport := t.toTransport.staged config
  commit := t.commit
  rollback := t.rollback
  close := t.close

def Connection.staged [Monad m] (config : Config) (c : Connection m) : Connection m where
  toTransport := c.toTransport.staged config
  begin := TransactionTransport.staged config <$> c.begin

def Db.staged (db : Db m) : Db m := ⟨db.transport.staged db.config, db.config.plain, db.log⟩

def Transaction.staged (tx : Transaction m) : Transaction m :=
  ⟨tx.transport.staged tx.config, tx.config.plain, tx.log⟩

/-- The database that hands statements over as they were made, on a connection that stages
them. -/
def Database.staged [Monad m] (database : Database m) : Database m :=
  ⟨database.connection.staged database.config, database.config.plain, database.log⟩

/-- Staging does not show in the log. -/
theorem Config.event_stage (config : Config) (operation : Operation) (dialect : Dialect)
    (s : Statement) :
    config.event operation dialect (config.stage s) = config.plain.event operation dialect s := by
  rw [stage_eq, event, List.length_map]
  rfl

section
variable [Monad m]

/-- The place where every statement is handed over. -/
theorem Db.hand_staged (db : Db m) (operation : Operation) (s : Statement)
    (call : Option Duration → Statement → ExceptT DbError m α) :
    db.hand operation s call =
      db.staged.hand operation s fun limit s => call limit (db.config.stage s) := by
  rw [hand, Config.event_stage]
  rfl

theorem Db.writeRow_staged (db : Db m) (operation : Operation) (s : Statement) :
    db.writeRow operation s = db.staged.writeRow operation s := by
  simp only [writeRow, hand_staged db]
  rfl

theorem Request.perform_staged (lift : Visitor (StateM σ) → Visitor m) (db : Db m)
    (request : Request σ α) : request.perform lift db = request.perform lift db.staged := by
  cases request with
  | insertRow | updateRow =>
    simp only [perform, Db.insertRow, Db.updateRow, Db.writeRow_staged db]
    rfl
  | _ =>
    simp only [perform, Db.query, Db.pageQuery, Db.queryRow, Db.queryScalar, Db.execute, Db.call,
      Db.travel, Db.nextId, Db.mergeRow, Db.deleteRow, Db.deleteRows, Db.hand_staged db]
    rfl

theorem Db.applyOne_staged (db : Db m) (target : ChangeTarget) (change : RowChange) :
    db.applyOne target change = db.staged.applyOne target change := by
  obtain ⟨state, row⟩ := change
  cases state with
  | new | edit =>
    simp only [applyOne, insertRow, updateRow, writeRow_staged db]
    rfl
  | remove =>
    simp only [applyOne, deleteRow, hand_staged db]
    rfl
  | none => rfl

theorem Db.applyFrom_staged (db : Db m) (target : ChangeTarget) (index : Nat)
    (changes : List RowChange) :
    db.applyFrom target index changes = db.staged.applyFrom target index changes := by
  induction changes generalizing index with
  | nil => rfl
  | cons change rest ih => rw [applyFrom, applyFrom, applyOne_staged, ih]

theorem Transaction.run_staged (tx : Transaction m) {work work' : Transaction m → ExceptT DbError m α}
    (same : work tx = work' tx.staged) : tx.run work = tx.staged.run work' := by
  rw [run, run, same]
  rfl

variable {n : Nat}

theorem Database.at_staged (database : Database m) (opened : Vector (Transaction m) n)
    (place : Option (Fin n)) :
    (database.at opened place).staged =
      database.staged.at (opened.map Transaction.staged) place := by
  cases place with
  | none => rfl
  | some i =>
    rw [Database.at, Database.at, Fin.getElem_fin, Fin.getElem_fin, Vector.getElem_map]
    rfl

variable [LawfulMonad m]

theorem Database.begin_staged (database : Database m) :
    database.staged.begin = Transaction.staged <$> database.begin := by
  change (TransactionTransport.staged database.config <$> database.connection.begin) >>= _ = _
  rw [begin, map_bind, bind_map_left]
  refine bind_congr fun transport => ?_
  rw [map_bind]
  refine bind_congr fun _ => ?_
  rw [map_pure]
  rfl

theorem Database.transact_staged (database : Database m)
    {work work' : Transaction m → ExceptT DbError m α}
    (same : ∀ tx, work tx = work' tx.staged) :
    database.transact work = database.staged.transact work' := by
  rw [transact, transact, begin_staged, bind_map_left]
  exact bind_congr fun tx => tx.run_staged (same tx)

theorem Step.run_staged (lift : Visitor (StateM σ) → Visitor m) (database : Database m)
    (opened : Vector (Transaction m) n) (act : Step σ n α) :
    act.run lift database opened =
      act.run lift database.staged (opened.map Transaction.staged) := by
  have own (i : Fin n) : (opened.map Transaction.staged)[i] = opened[i].staged := by
    rw [Fin.getElem_fin, Fin.getElem_fin, Vector.getElem_map]
  cases act with
  | ask place request => rw [run, run, Request.perform_staged, Database.at_staged]
  | applyEach place target changes =>
    rw [run, run, Db.applyEach, Db.applyFrom_staged, Database.at_staged]
    rfl
  | applyChanges target changes =>
    exact database.transact_staged fun tx => tx.db.applyFrom_staged target 0 changes
  | commit tx | rollback tx | close tx =>
    rw [run, run, own]
    rfl

/-- The induction is on the session, whose transactions are staged as they are opened. -/
theorem Session.run_staged (session : Session σ n α) (lift : Visitor (StateM σ) → Visitor m)
    (database : Database m) (opened : Vector (Transaction m) n) :
    session.run lift database opened =
      session.run lift database.staged (opened.map Transaction.staged) := by
  induction session with
  | done result => rfl
  | step act next ih =>
    rw [run, run, act.run_staged]
    exact bind_congr fun answer => ih answer opened
  | begin begun failed ihBegun ihFailed =>
    rw [run, run, Database.begin_staged, ExceptT.run_map, liftM_map, bind_map_left]
    refine bind_congr fun answer => ?_
    cases answer with
    | ok tx => exact (ihBegun (opened.push tx)).trans (by rw [Vector.map_push]; rfl)
    | error e => exact ihFailed e opened
  | transact work next ihWork ihNext =>
    have same : database.transact (fun tx => work.run lift database (opened.push tx)) =
        database.staged.transact fun tx =>
          work.run lift database.staged ((opened.map Transaction.staged).push tx) :=
      database.transact_staged fun tx => by rw [ihWork, Vector.map_push]
    rw [run, run, same]
    exact bind_congr fun answer => ihNext answer opened

end

/-- **What the settings say of documents reaches those that are arguments themselves.**
Every session is the one of a database that hands each statement over as it was made, on a
connection that stages it. A staged statement keeps its SQL and has for each argument, in
order, one with the same document, declared as the settings say just if they say the binary
form or the document is the argument itself; one under the tag `RAW` or passed into an output
is declared in binary form. All other arguments are as they were. -/
theorem untagged_documents_declared {m : Type → Type} [Monad m] [LawfulMonad m] {σ α : Type}
    {n : Nat} (lift : Visitor (StateM σ) → Visitor m) (database : Database m)
    (session : Session σ n α) (opened : Vector (Transaction m) n) :
    session.run lift database opened =
      session.run lift database.staged (opened.map Transaction.staged) ∧
    ∀ (config : Config) (s : Statement),
      config.plain.stage s = s ∧ (config.stage s).sql = s.sql ∧
        List.Forall₂ (Declared config.jsonType) s.args (config.stage s).args := by
  refine ⟨session.run_staged lift database opened, fun config s => ?_⟩
  rw [config.stage_eq s]
  refine ⟨rfl, rfl, ?_⟩
  rw [List.forall₂_map_right_iff, List.forall₂_same]
  exact fun a _ => declared config.jsonType a

/-- A document, a number and a document that has its tag, handed over in a session. -/
theorem untagged_documents_declared_update :
    let document : Value := .json (.obj [("k", .int 1)])
    let database : Database (StateM Nat) :=
      { Database.unreachable .postgres with config := { jsonType := .json } }
    let session : Session Nat 0 Nat := .step (.ask none (.execute "UPDATE t SET a = ?, n = ?, b = ?"
      (.positional [.raw document, .raw (.int 5), .ofType .jsonb document]))) .done
    (session.run Visitor.traced database.traced #v[] (0, [])) =
      (session.run Visitor.traced database.traced.staged #v[] (0, [])) ∧
    (session.run Visitor.traced database.traced #v[] (0, [])).2.2.tail =
      [.call .postgres (.execute ⟨"UPDATE t SET a = ?, n = ?, b = ?",
        [.ofType .json document, .raw (.int 5), .ofType .jsonb document]⟩)] := by
  intro document database session
  have staged := (untagged_documents_declared Visitor.traced database.traced session #v[]).1
  exact ⟨congrFun staged (0, []), rfl⟩

/-- A document under the tag `RAW` and one that is passed into an output are declared in
binary form though the settings say otherwise. -/
theorem untagged_documents_left :
    let config : Config := { jsonType := .json }
    let document : Value := .json (.obj [("k", .int 1)])
    let s : Statement := ⟨"CALL p(?, ?)", [.typed .raw document none, .inOut .string (.raw document)]⟩
    (∀ a ∈ s.args, a.untaggedDocument? = some (.obj [("k", .int 1)])) ∧
      (config.stage s).args.map Postgres.parameterType = [.scalar .jsonb, .scalar .jsonb] ∧
      config.jsonType.parameter = .scalar .json :=
  ⟨by simp [Arg.untaggedDocument?], rfl, rfl⟩

end SqlBind
