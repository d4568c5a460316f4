/-
Databases under observation. Each event of the log is seen when it is logged, and each
statement when it is handed to a transport, with the transport's dialect; observing
changes neither results nor worlds. Whatever session is run, what is seen of it is
`Paired`: a statement's event comes directly before the call that the statement is
handed over in, tells of this very statement, and there is neither an event without
its call nor a call without its event (`one_event_per_statement`).
-/
import SqlBind.Proofs.Db.Recording
import SqlBind.Proofs.Db.Session

namespace SqlBind

variable {σ α β γ : Type}

/-- What is seen of a database at work. -/
inductive Sight where
  | event (e : Event)
  /-- A call to a transport of a dialect. -/
  | call (dialect : Dialect) (c : Call)

/-- The statement that a call hands over, if it hands one over. -/
def Call.statement? : Call → Option Statement
  | .query s | .pageQuery _ s | .execute s | .call s | .travel s => some s
  | .begin | .commit | .rollback | .close => none

/-- A world with what was seen so far. -/
abbrev Traced (σ : Type) := σ × List Sight

/-- A computation that shows something when it starts. -/
def trace (sights : List Sight) (x : Effect σ α) : Effect (Traced σ) α :=
  fun (world, seen) =>
    let (result, world) := x world
    (result, world, seen ++ sights)

def traceLog (log : Event → StateM σ Unit) (e : Event) : StateM (Traced σ) Unit :=
  fun (world, seen) =>
    let (_, world) := log e world
    ((), world, seen ++ [.event e])

/-- A visitor on the world, whatever was seen. -/
def Visitor.traced (visit : Visitor (StateM σ)) : Visitor (StateM (Traced σ)) :=
  fun row columns (world, seen) =>
    let (flow, world) := visit row columns world
    (flow, world, seen)

/-- A visitor on the world alone. -/
def Visitor.untraced (visit : Visitor (StateM (Traced σ))) : Visitor (StateM σ) :=
  fun row columns world =>
    let (flow, world, _) := visit row columns (world, [])
    (flow, world)

def Transport.traced (t : Transport (StateM σ)) : Transport (StateM (Traced σ)) where
  dialect := t.dialect
  query timeout s := trace [.call t.dialect (.query s)] (t.query timeout s)
  pageQuery page timeout s := trace [.call t.dialect (.pageQuery page s)] (t.pageQuery page timeout s)
  execute timeout s := trace [.call t.dialect (.execute s)] (t.execute timeout s)
  call timeout s := trace [.call t.dialect (.call s)] (t.call timeout s)
  travel visit timeout s := trace [.call t.dialect (.travel s)] (t.travel visit.untraced timeout s)

def TransactionTransport.traced (t : TransactionTransport (StateM σ)) :
    TransactionTransport (StateM (Traced σ)) where
  toTransport := t.toTransport.traced
  commit := trace [] t.commit
  rollback := trace [] t.rollback
  close := trace [] t.close

def Connection.traced (c : Connection (StateM σ)) : Connection (StateM (Traced σ)) where
  toTransport := c.toTransport.traced
  begin := TransactionTransport.traced <$> trace [] c.begin

theorem Connection.begin_traced (c : Connection (StateM σ)) (world : σ) (seen : List Sight) :
    c.traced.begin (world, seen) =
      ((c.begin world).1.map TransactionTransport.traced, (c.begin world).2, seen) := by
  have shown := Effect.map_apply TransactionTransport.traced (trace [] c.begin) (world, seen)
  rw [trace, List.append_nil] at shown
  exact shown

def Db.traced (db : Db (StateM σ)) : Db (StateM (Traced σ)) where
  transport := db.transport.traced
  config := db.config
  log := traceLog db.log

def Transaction.traced (tx : Transaction (StateM σ)) : Transaction (StateM (Traced σ)) where
  transport := tx.transport.traced
  config := tx.config
  log := traceLog tx.log

/-- The database, with a trace of every event and of every statement handed over. -/
def Database.traced (database : Database (StateM σ)) : Database (StateM (Traced σ)) where
  connection := database.connection.traced
  config := database.config
  log := traceLog database.log

section
variable {database : Database (StateM σ)} {world world₁ : σ}

theorem Database.begin_failed {e : DbError}
    (failed : database.connection.begin world = (.error e, world₁)) :
    database.begin world = (.error e, world₁) ∧
      ∀ seen, database.traced.begin (world, seen) = (.error e, world₁, seen) := by
  refine ⟨?_, fun seen => ?_⟩
  · rw [Database.begin, Effect.bind_apply, failed]
  · have traced : database.traced.connection.begin (world, seen) = (.error e, world₁, seen) := by
      refine (Connection.begin_traced database.connection world seen).trans ?_
      rw [failed]
      rfl
    rw [Database.begin, Effect.bind_apply, traced]

/-- A transaction that is begun is logged, after the connection has opened it. -/
theorem Database.begin_opened {transport : TransactionTransport (StateM σ)}
    (opened : database.connection.begin world = (.ok transport, world₁)) :
    let tx : Transaction (StateM σ) := ⟨transport, database.config, database.log⟩
    let world₂ := (database.log (.transaction .begin) world₁).2
    database.begin world = (.ok tx, world₂) ∧
      ∀ seen, database.traced.begin (world, seen) =
        (.ok tx.traced, world₂, seen ++ [.event (.transaction .begin)]) := by
  refine ⟨?_, fun seen => ?_⟩
  · rw [Database.begin, Effect.bind_apply, opened]
    rfl
  · have traced : database.traced.connection.begin (world, seen) =
        (.ok transport.traced, world₁, seen) := by
      refine (Connection.begin_traced database.connection world seen).trans ?_
      rw [opened]
      rfl
    rw [Database.begin, Effect.bind_apply, traced]
    rfl

end

/-- Every event of a statement comes directly before the call that hands the statement
over, and every call comes directly after its event. The event is logged at the configured
level and carries the dialect, the number of arguments and the SQL as the log shows it. -/
inductive Paired (config : Config) : List Sight → Prop
  | nil : Paired config []
  | transaction {what : TransactionStep} {rest : List Sight} (others : Paired config rest) :
    Paired config (.event (.transaction what) :: rest)
  | statement {operation : Operation} {dialect : Dialect} {c : Call} {s : Statement}
      {rest : List Sight} (hands : c.statement? = some s) (others : Paired config rest) :
    Paired config
      (.event
          (.statement config.logLevel operation dialect s.args.length (config.shownSql s.sql)) ::
        .call dialect c :: rest)

theorem Runs.traced (sights : List Sight) (x : Effect σ α) (world : σ) :
    Runs x (trace sights x) world (x world).1 (x world).2 sights := ⟨rfl, fun _ => rfl⟩

theorem Paired.append {config : Config} {xs ys : List Sight} (hx : Paired config xs)
    (hy : Paired config ys) : Paired config (xs ++ ys) := by
  induction hx with
  | nil => exact hy
  | transaction _ ih => exact .transaction ih
  | statement hands _ ih => exact .statement hands ih

/-! ## What computations show -/

/-- From every world, a computation and its traced form end alike, and the traced form
shows events and calls in pairs. -/
def Shows (config : Config) (x : Effect σ α) (x' : Effect (Traced σ) α) : Prop :=
  ∀ world, ∃ result world' seen, Runs x x' world result world' seen ∧ Paired config seen

namespace Shows

variable {config : Config} {x : Effect σ α} {x' : Effect (Traced σ) α}

theorem pure (a : α) : Shows config (Pure.pure a : Effect σ α) (Pure.pure a) :=
  fun world => ⟨_, _, _, .pure a world, .nil⟩

theorem error (e : DbError) : Shows config (throw e : Effect σ α) (throw e) :=
  fun world => ⟨_, _, _, .error e world, .nil⟩

theorem lift (result : Except DbError α) :
    Shows config (liftM result : Effect σ α) (liftM result) :=
  fun world => ⟨_, _, _, .lift result world, .nil⟩

theorem bind {f : α → Effect σ β} {f' : α → Effect (Traced σ) β} (hx : Shows config x x')
    (hf : ∀ a, Shows config (f a) (f' a)) : Shows config (x >>= f) (x' >>= f') := by
  intro world
  obtain ⟨result, world₁, seen, run, paired⟩ := hx world
  cases result with
  | error e => exact ⟨_, _, _, run.bind_error, paired⟩
  | ok a =>
    obtain ⟨result, world₂, more, runs, others⟩ := hf a world₁
    exact ⟨_, _, _, run.bind runs, paired.append others⟩

theorem adapt (g : DbError → DbError) (hx : Shows config x x') :
    Shows config (x.adapt g) (x'.adapt g) := by
  intro world
  obtain ⟨_, _, _, run, paired⟩ := hx world
  exact ⟨_, _, _, run.adapt g, paired⟩

theorem looked (hx : Shows config x x') :
    Shows config (liftM x.run : Effect σ (Except DbError α)) (liftM x'.run) := by
  intro world
  obtain ⟨_, _, _, run, paired⟩ := hx world
  exact ⟨_, _, _, run.looked, paired⟩

/-- A call that hands over no statement is not seen. -/
theorem unseen (x : Effect σ α) : Shows config x (trace [] x) :=
  fun world => ⟨_, _, _, .traced [] x world, .nil⟩

theorem logged (log : Event → StateM σ Unit) (what : TransactionStep) :
    Shows config (liftM (log (.transaction what)) : Effect σ Unit)
      (liftM (traceLog log (.transaction what)) : Effect (Traced σ) Unit) :=
  fun world => ⟨.ok (), (log _ world).2, [.event _], ⟨rfl, fun _ => rfl⟩, .transaction .nil⟩

/-- **A statement that is handed over is logged first**, as it is handed over. -/
theorem hand (db : Db (StateM σ)) (operation : Operation) (s : Statement) (c : Statement → Call)
    (hands : ∀ s, (c s).statement? = some s) (x : Option Duration → Statement → Effect σ α) :
    Shows db.config (db.hand operation s x) (db.traced.hand operation s fun timeout s =>
      trace [.call db.transport.dialect (c s)] (x timeout s)) := by
  intro world
  let staged := db.config.stage s
  let event := db.config.event operation db.transport.dialect staged
  have logged : Runs (liftM (db.log event) : Effect σ Unit)
      (liftM (traceLog db.log event) : Effect (Traced σ) Unit) world (.ok ()) (db.log event world).2
      [.event event] := ⟨rfl, fun _ => rfl⟩
  have called := Runs.traced [.call db.transport.dialect (c staged)] (x db.config.queryTimeout staged)
    (db.log event world).2
  exact ⟨_, _, _, logged.bind called, .statement (hands staged) .nil⟩

theorem writeRow (db : Db (StateM σ)) (operation : Operation) (s : Statement) :
    Shows db.config (db.writeRow operation s) (db.traced.writeRow operation s) := by
  unfold Db.writeRow
  by_cases postgres : db.transport.dialect.isPostgres = true
  · have postgres' : db.traced.transport.dialect.isPostgres = true := postgres
    rw [if_pos postgres, if_pos postgres']
    exact .bind (.hand db operation s .query (fun _ => rfl) _) fun _ => .pure _
  · have postgres' : ¬db.traced.transport.dialect.isPostgres = true := postgres
    rw [if_neg postgres, if_neg postgres']
    exact .bind (.hand db operation s .execute (fun _ => rfl) _) fun _ => .pure _

/-- What is asked for is prepared, handed over and answered. -/
theorem perform (db : Db (StateM σ)) (request : Request σ α) :
    Shows db.config (request.perform id db) (request.perform Visitor.traced db.traced) := by
  cases request with
  | query template params =>
    exact .bind (.lift _) fun s => .hand db .query s .query (fun _ => rfl) _
  | pageQuery template params page =>
    exact .bind (.lift _) fun s => .hand db .pageQuery s (.pageQuery page) (fun _ => rfl) _
  | queryRow template params =>
    exact .bind (.lift _) fun s =>
      .bind (.hand db .queryRow s .query (fun _ => rfl) _) fun _ => .pure _
  | queryScalar template params =>
    exact .bind (.lift _) fun s =>
      .bind (.hand db .queryScalar s .query (fun _ => rfl) _) fun _ => .pure _
  | execute template params =>
    exact .bind (.lift _) fun s => .hand db .execute s .execute (fun _ => rfl) _
  | call template params =>
    exact .bind (.lift _) fun s => .hand db .call s .call (fun _ => rfl) _
  | travel template params visit =>
    exact .bind (.lift _) fun s =>
      .hand db .travel s .travel (fun _ => rfl) (db.transport.travel visit)
  | nextId sequence =>
    exact .bind (.lift _) fun sql =>
      .bind (.hand db .nextId (.bare sql) .query (fun _ => rfl) _) fun _ => .lift _
  | insertRow insert => exact .bind (.lift _) fun s => .writeRow db .insertRow s
  | updateRow update => exact .bind (.lift _) fun s => .writeRow db .updateRow s
  | mergeRow merge =>
    exact .bind (.lift _) fun s => .hand db .mergeRow s .execute (fun _ => rfl) _
  | deleteRow delete =>
    exact .bind (.lift _) fun s => .hand db .deleteRow s .execute (fun _ => rfl) _
  | deleteRows delete =>
    exact .bind (.lift _) fun s => .hand db .deleteRows s .execute (fun _ => rfl) _

theorem applyOne (db : Db (StateM σ)) (target : ChangeTarget) (change : RowChange) :
    Shows db.config (db.applyOne target change) (db.traced.applyOne target change) := by
  unfold Db.applyOne
  cases change.state with
  | new => exact .perform db (.insertRow ⟨target.table, change.row, target.columns, target.key⟩)
  | edit => exact .perform db (.updateRow ⟨target.table, change.row, target.columns, target.key⟩)
  | remove =>
    exact .bind (.perform db (.deleteRow ⟨target.table, change.row, target.key⟩)) fun _ => .pure _
  | none => exact .pure _

theorem applyFrom (db : Db (StateM σ)) (target : ChangeTarget) (index : Nat)
    (changes : List RowChange) :
    Shows db.config (db.applyFrom target index changes) (db.traced.applyFrom target index changes) := by
  induction changes generalizing index with
  | nil => exact .pure _
  | cons change rest ih =>
    exact .bind (.adapt _ (applyOne db target change)) fun _ => .bind (ih (index + 1)) fun _ => .pure _

/-! ## Transactions -/

theorem commit (tx : Transaction (StateM σ)) : Shows tx.config tx.commit tx.traced.commit :=
  .bind (.unseen tx.transport.commit) fun _ => .logged tx.log .commit

theorem rollback (tx : Transaction (StateM σ)) : Shows tx.config tx.rollback tx.traced.rollback :=
  .bind (.unseen tx.transport.rollback) fun _ => .logged tx.log .rollback

theorem close (tx : Transaction (StateM σ)) : Shows tx.config tx.close tx.traced.close :=
  .unseen tx.transport.close

theorem finish (tx : Transaction (StateM σ)) (worked : Except DbError α) :
    Shows tx.config (tx.finish worked) (tx.traced.finish worked) := by
  cases worked with
  | ok a => exact .bind (commit tx) fun _ => .pure a
  | error e => exact .bind (.adapt _ (rollback tx)) fun _ => .error e

/-- Work, its end and the closing, one after the other. -/
theorem run (tx : Transaction (StateM σ)) {work : Transaction (StateM σ) → Effect σ α}
    {work' : Transaction (StateM (Traced σ)) → Effect (Traced σ) α}
    (hw : Shows tx.config (work tx) (work' tx.traced)) :
    Shows tx.config (tx.run work) (tx.traced.run work') :=
  .bind (.looked hw) fun worked => .bind (.looked (finish tx worked)) fun finished =>
    .bind (.looked (close tx)) fun closed => .lift (finished.bind fun a => closed.map fun _ => a)

/-- What is done with a transaction that was begun, or without one. -/
theorem begun (database : Database (StateM σ))
    {f : Except DbError (Transaction (StateM σ)) → Effect σ α}
    {f' : Except DbError (Transaction (StateM (Traced σ))) → Effect (Traced σ) α}
    (failed : ∀ e, Shows database.config (f (.error e)) (f' (.error e)))
    (opened : ∀ tx, tx.config = database.config →
      Shows database.config (f (.ok tx)) (f' (.ok tx.traced))) :
    Shows database.config (liftM database.begin.run >>= f) (liftM database.traced.begin.run >>= f') := by
  intro world
  rcases begin : database.connection.begin world with ⟨e | transport, world₁⟩
  · obtain ⟨plain, traced⟩ := Database.begin_failed begin
    obtain ⟨result, world₂, seen, run, paired⟩ := failed e world₁
    refine ⟨result, world₂, seen, ⟨?_, fun before => ?_⟩, paired⟩
    · rw [Effect.looked_apply, plain]
      exact run.plain
    · rw [Effect.looked_apply, traced]
      exact run.recorded before
  · obtain ⟨plain, traced⟩ := Database.begin_opened begin
    obtain ⟨result, world₂, seen, run, paired⟩ :=
      opened ⟨transport, database.config, database.log⟩ rfl (database.log (.transaction .begin) world₁).2
    refine ⟨result, world₂, .event (.transaction .begin) :: seen, ⟨?_, fun before => ?_⟩,
      .transaction paired⟩
    · rw [Effect.looked_apply, plain]
      exact run.plain
    · rw [Effect.looked_apply, traced]
      exact (run.recorded _).trans (by rw [List.append_assoc]; rfl)

theorem transact (database : Database (StateM σ)) {work : Transaction (StateM σ) → Effect σ α}
    {work' : Transaction (StateM (Traced σ)) → Effect (Traced σ) α}
    (hw : ∀ tx, tx.config = database.config → Shows database.config (work tx) (work' tx.traced)) :
    Shows database.config (database.transact work) (database.traced.transact work') := by
  rw [Database.transact, Database.transact, Effect.bind_eq_looked database.begin,
    Effect.bind_eq_looked database.traced.begin]
  refine begun database ?_ ?_
  · intro e
    exact .error e
  · intro tx same
    have worked := hw tx same
    rw [← same] at worked ⊢
    exact run tx worked

end Shows

/-! ## Sessions -/

section
variable {database : Database (StateM σ)} {n : Nat} {opened : Vector (Transaction (StateM σ)) n}

/-- The transactions of a session have the settings of the database. -/
def Alike (database : Database (StateM σ)) (opened : Vector (Transaction (StateM σ)) n) : Prop :=
  ∀ tx ∈ opened, tx.config = database.config

theorem Alike.push {tx : Transaction (StateM σ)} (alike : Alike database opened)
    (same : tx.config = database.config) : Alike database (opened.push tx) := by
  intro other mem
  rcases Vector.mem_push.mp mem with older | rfl
  · exact alike other older
  · exact same

theorem Alike.config_at (alike : Alike database opened) (place : Option (Fin n)) :
    (database.at opened place).config = database.config := by
  cases place with
  | none => rfl
  | some i => exact alike _ (Vector.getElem_mem i.isLt)

variable (database opened) in
theorem Database.at_traced (place : Option (Fin n)) :
    database.traced.at (opened.map Transaction.traced) place = (database.at opened place).traced := by
  cases place with
  | none => rfl
  | some i =>
    rw [Database.at, Fin.getElem_fin, Vector.getElem_map]
    rfl

theorem Shows.step (alike : Alike database opened) (act : Step σ n α) :
    Shows database.config (act.run id database opened)
      (act.run Visitor.traced database.traced (opened.map Transaction.traced)) := by
  have own (i : Fin n) : database.config = opened[i].config ∧
      (opened.map Transaction.traced)[i] = opened[i].traced :=
    ⟨(alike _ (Vector.getElem_mem i.isLt)).symm, Vector.getElem_map ..⟩
  cases act with
  | ask place request =>
    rw [Step.run, Step.run, Database.at_traced, ← alike.config_at place]
    exact perform (database.at opened place) request
  | applyEach place target changes =>
    rw [Step.run, Step.run, Database.at_traced, ← alike.config_at place]
    exact applyFrom (database.at opened place) target 0 changes
  | applyChanges target changes =>
    refine transact database fun tx same => ?_
    rw [← same]
    exact applyFrom tx.db target 0 changes
  | commit i =>
    rw [Step.run, Step.run, (own i).2, (own i).1]
    exact commit opened[i]
  | rollback i =>
    rw [Step.run, Step.run, (own i).2, (own i).1]
    exact rollback opened[i]
  | close i =>
    rw [Step.run, Step.run, (own i).2, (own i).1]
    exact close opened[i]

theorem Shows.session (session : Session σ n α) (alike : Alike database opened) :
    Shows database.config (session.run id database opened)
      (session.run Visitor.traced database.traced (opened.map Transaction.traced)) := by
  induction session with
  | done result => exact .lift result
  | step act next ih =>
    exact .bind (.looked (step alike act)) fun answer => ih answer alike
  | begin begun failed ihb ihf =>
    rw [Session.run, Session.run]
    refine Shows.begun database ?_ ?_
    · intro e
      exact ihf e alike
    · intro tx same
      have run := ihb (alike.push same)
      rw [Vector.map_push] at run
      exact run
  | transact work next ihw ihn =>
    refine .bind (.looked (transact database ?_)) fun answer => ihn answer alike
    intro tx same
    have run := ihw (alike.push same)
    rw [Vector.map_push] at run
    exact run

end

/-- **There is one event for each statement, and no statement that is not prepared.**
Observing changes nothing, and whatever a session does, events of statements and calls
that hand over statements come in pairs: the event first, with the number of arguments,
the dialect and the SQL, cut if it must be, of the statement that is handed over next.
An operation whose statement cannot be prepared is its error, in any monad, and so
neither logs nor calls. -/
theorem one_event_per_statement (database : Database (StateM σ)) (session : Session σ 0 α)
    (world : σ) :
    (∃ result world' seen,
      session.run id database #v[] world = (result, world') ∧
      session.run Visitor.traced database.traced #v[] (world, []) = (result, world', seen) ∧
      Paired database.config seen) ∧
    ∀ (m : Type → Type) [Monad m] [LawfulMonad m] (lift : Visitor (StateM σ) → Visitor m) (db : Db m)
      (β : Type) (request : Request σ β) (e : DbError),
      request.prepared db.transport.dialect db.config = .error e →
        request.perform lift db = throw e := by
  refine ⟨?_, ?_⟩
  · have none : Alike database #v[] := fun tx mem => absurd mem (Vector.not_mem_empty tx)
    obtain ⟨result, world', seen, run, paired⟩ := Shows.session session none world
    rw [Vector.map_empty] at run
    exact ⟨result, world', seen, run.plain, run.recorded [], paired⟩
  · intro m _ _ lift db β request e refused
    exact request.perform_refused lift db refused

/-- A database that cannot be reached, in a world that counts how often that was tried. -/
def Database.unreachable (dialect : Dialect) : Database (StateM Nat) where
  connection :=
    { dialect
      query _ _ := tried
      pageQuery _ _ _ := tried
      execute _ _ := tried
      call _ _ := tried
      travel _ _ _ := tried
      begin := tried }
  log _ := pure ()
where
  tried {α : Type} : Effect Nat α := fun tries => (.error (.connection "unreachable"), tries + 1)

/-- A database that answers queries with no rows and refuses all else, in a world that
counts the calls. -/
def Database.readOnly (dialect : Dialect) : Database (StateM Nat) where
  connection :=
    { dialect
      query _ _ := fun calls => (.ok ⟨[], []⟩, calls + 1)
      pageQuery _ _ _ := fun calls => (.ok ⟨[], []⟩, calls + 1)
      execute _ _ := refused
      call _ _ := refused
      travel _ _ _ := refused
      begin := refused }
  log _ := pure ()
where
  refused {α : Type} : Effect Nat α := fun calls => (.error (.query .database), calls + 1)

/-- A template that ends inside an expression, alone and between statements, of which the
last is refused. -/
theorem one_event_per_statement_unterminated :
    let database := Database.unreachable .postgres
    let malformed : Request Nat ResultSet := .query "SELECT \x7bid" (.ofScope .empty)
    let session : Session Nat 0 ResultSet := .step (.ask none malformed) .done
    let longer : Session Nat 0 Nat :=
      .step (.ask none (.query "SELECT a FROM t" .none)) fun _ =>
      .step (.ask none malformed) fun _ =>
      .step (.ask none (.execute "DELETE FROM t WHERE a = ?" (.positional [.raw (.int 7)]))) .done
    let sights : List Sight :=
      [.event (.statement .debug .query .postgres 0 "SELECT a FROM t"),
        .call .postgres (.query ⟨"SELECT a FROM t", []⟩),
        .event (.statement .debug .execute .postgres 1 "DELETE FROM t WHERE a = ?"),
        .call .postgres (.execute ⟨"DELETE FROM t WHERE a = ?", [.raw (.int 7)]⟩)]
    (∃ result world' seen,
      session.run id database #v[] 0 = (result, world') ∧
      session.run Visitor.traced database.traced #v[] (0, []) = (result, world', seen) ∧
      Paired {} seen) ∧
    (longer.run id (.readOnly .postgres) #v[] 0 = (.error (.query .database), 2) ∧
      Paired {} sights) ∧
    malformed.prepared .postgres {} = .error (.malformedTemplate 7 (.unterminated "id")) ∧
    malformed.perform id database.db = throw (.malformedTemplate 7 (.unterminated "id")) := by
  intro database malformed session longer sights
  obtain ⟨paired, unprepared⟩ := one_event_per_statement database session 0
  obtain ⟨⟨result, world', seen, ran, traced, others⟩, -⟩ :=
    one_event_per_statement (.readOnly .postgres) longer 0
  have shown : longer.run Visitor.traced (Database.readOnly .postgres).traced #v[] (0, []) =
      (.error (.query .database), 2, sights) := by rfl
  cases shown.symm.trans traced
  have refused : malformed.prepared .postgres {} =
      .error (.malformedTemplate 7 (.unterminated "id")) := by rfl
  exact ⟨paired, ⟨ran, others⟩, refused, unprepared _ id database.db _ malformed _ refused⟩

example : (Step.run Visitor.traced (Database.unreachable .oracle).traced #v[]
    (.ask none (.execute "DELETE FROM t" .none)) (0, [])).2.2 =
      [.event (.statement .debug .execute .oracle 0 "DELETE FROM t"),
        .call .oracle (.execute ⟨"DELETE FROM t", []⟩)] := by rfl

end SqlBind
