/-
Sessions: what a client may do with a database, as data. A session asks for one
operation after the other, on the database itself or in one of the transactions it
opened, and goes on as each answer, failures included, makes it. It is run in any
monad the database works in, so that one session can be run on a database and on
the same database under observation.
-/
import SqlBind.Db.Transaction
import SqlBind.Proofs.Effect

namespace SqlBind

variable {σ α β : Type}

/-- An operation that hands over one statement, by what it answers. Its visitors of
rows work on the world alone. -/
inductive Request (σ : Type) : Type → Type where
  | query (template : String) (params : Params) : Request σ ResultSet
  | pageQuery (template : String) (params : Params) (page : Page) : Request σ ResultSet
  | queryRow (template : String) (params : Params) : Request σ (Option Record)
  | queryScalar (template : String) (params : Params) : Request σ (Option Value)
  | execute (template : String) (params : Params) : Request σ Nat
  | call (template : String) (params : Params) : Request σ CallOutcome
  | travel (template : String) (params : Params) (visit : Visitor (StateM σ)) : Request σ Nat
  | nextId (sequence : String) : Request σ Value
  | insertRow (insert : Insert) : Request σ RowOutcome
  | updateRow (update : Update) : Request σ RowOutcome
  | mergeRow (merge : Merge) : Request σ Nat
  | deleteRow (delete : Delete) : Request σ Nat
  | deleteRows (delete : DeleteAll) : Request σ Nat

namespace Request

/-- The statement of a request: a template that is made canonical or a row statement
that is built. -/
def prepared (dialect : Dialect) (config : Config) : Request σ α → Except DbError Statement
  | query template params => normalize template params
  | pageQuery template params _ => normalize template params
  | queryRow template params => normalize template params
  | queryScalar template params => normalize template params
  | execute template params => normalize template params
  | call template params => normalize template params
  | travel template params _ => normalize template params
  | nextId sequence => (nextIdSql dialect sequence).map .bare
  | insertRow insert => insert.buildWith dialect config.key
  | updateRow update => update.buildWith dialect config.key
  | mergeRow merge => merge.build dialect
  | deleteRow delete => delete.buildWith config.key
  | deleteRows delete => delete.build

variable {m : Type → Type} [Monad m]

/-- The operation that is requested, on a database whose visitors are those of the world, lifted. -/
def perform (lift : Visitor (StateM σ) → Visitor m) (db : Db m) :
    Request σ α → ExceptT DbError m α
  | query template params => db.query template params
  | pageQuery template params page => db.pageQuery template params page
  | queryRow template params => db.queryRow template params
  | queryScalar template params => db.queryScalar template params
  | execute template params => db.execute template params
  | call template params => db.call template params
  | travel template params visit => db.travel template params (lift visit)
  | nextId sequence => db.nextId sequence
  | insertRow insert => db.insertRow insert
  | updateRow update => db.updateRow update
  | mergeRow merge => db.mergeRow merge
  | deleteRow delete => db.deleteRow delete
  | deleteRows delete => db.deleteRows delete

/-- Each operation prepares its statement before anything else. -/
theorem perform_eq [LawfulMonad m] (lift : Visitor (StateM σ) → Visitor m) (db : Db m)
    (request : Request σ α) : ∃ f : Statement → ExceptT DbError m α,
      request.perform lift db = liftM (request.prepared db.transport.dialect db.config) >>= f := by
  cases request with
  | nextId sequence =>
    refine ⟨fun s => db.hand .nextId s db.transport.query >>= fun result =>
      liftM (Db.sequenceValue sequence result), ?_⟩
    rw [perform, prepared, Db.nextId]
    cases nextIdSql db.transport.dialect sequence with
    | error e => rw [Except.map, ExceptT.bind_error, ExceptT.bind_error]
    | ok sql => rw [Except.map, ExceptT.bind_ok, ExceptT.bind_ok]
  | _ => exact ⟨_, rfl⟩

/-- **What is not prepared is not tried**: the operation is its error and nothing else,
in any monad. -/
theorem perform_refused [LawfulMonad m] (lift : Visitor (StateM σ) → Visitor m) (db : Db m)
    (request : Request σ α) {e : DbError}
    (refused : request.prepared db.transport.dialect db.config = .error e) :
    request.perform lift db = throw e := by
  obtain ⟨f, first⟩ := request.perform_eq lift db
  rw [first, refused]
  exact ExceptT.bind_error e f

end Request

/-- A step of a session in which `n` transactions were opened. Requests and changes
are for the database itself or for one of these. -/
inductive Step (σ : Type) (n : Nat) : Type → Type 1 where
  | ask {α : Type} (place : Option (Fin n)) (request : Request σ α) : Step σ n α
  | applyEach (place : Option (Fin n)) (target : ChangeTarget) (changes : List RowChange) :
    Step σ n (List RowOutcome)
  | applyChanges (target : ChangeTarget) (changes : List RowChange) : Step σ n (List RowOutcome)
  | commit (tx : Fin n) : Step σ n Unit
  | rollback (tx : Fin n) : Step σ n Unit
  | close (tx : Fin n) : Step σ n Unit

/-- A session, with `n` transactions opened so far. -/
inductive Session (σ : Type) : Nat → Type → Type 1 where
  | done {n : Nat} {α : Type} (result : Except DbError α) : Session σ n α
  | step {n : Nat} {α β : Type} (act : Step σ n β) (next : Except DbError β → Session σ n α) :
    Session σ n α
  /-- Opens a transaction and goes on with it, or without it if that fails. -/
  | begin {n : Nat} {α : Type} (begun : Session σ (n + 1) α) (failed : DbError → Session σ n α) :
    Session σ n α
  /-- Does work in a transaction of its own, which is ended as the work ended. -/
  | transact {n : Nat} {α β : Type} (work : Session σ (n + 1) β)
    (next : Except DbError β → Session σ n α) : Session σ n α

variable {m : Type → Type} [Monad m] {n : Nat}

/-- The database itself, or a transaction. -/
def Database.at (database : Database m) (opened : Vector (Transaction m) n) : Option (Fin n) → Db m
  | none => database.db
  | some i => opened[i].db

def Step.run (lift : Visitor (StateM σ) → Visitor m) (database : Database m)
    (opened : Vector (Transaction m) n) : Step σ n α → ExceptT DbError m α
  | ask place request => request.perform lift (database.at opened place)
  | applyEach place target changes => (database.at opened place).applyEach target changes
  | applyChanges target changes => database.applyChanges target changes
  | commit tx => opened[tx].commit
  | rollback tx => opened[tx].rollback
  | close tx => opened[tx].close

def Session.run (lift : Visitor (StateM σ) → Visitor m) (database : Database m) {n : Nat} {α : Type} :
    Session σ n α → Vector (Transaction m) n → ExceptT DbError m α
  | done result, _ => liftM result
  | step act next, opened => do
    let answer ← liftM (act.run lift database opened).run
    (next answer).run lift database opened
  | begin begun failed, opened => do
    match ← liftM database.begin.run with
    | .ok tx => begun.run lift database (opened.push tx)
    | .error e => (failed e).run lift database opened
  | transact work next, opened => do
    let answer ← liftM (database.transact fun tx => work.run lift database (opened.push tx)).run
    (next answer).run lift database opened

end SqlBind
