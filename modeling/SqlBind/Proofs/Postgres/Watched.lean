/-
A server that is watched. The commands that it is sent are written down beside its
world, and so are the marks that are made, which nothing but the claim of a
transaction's end sets. Statements send no commands and touch no marks, whatever
visitors and the log do to the world: what a session does that only hands over
statements `Keeps` the record (`Keeps.session`).
-/
import SqlBind.Postgres.Ending
import SqlBind.Proofs.Db.Session

namespace SqlBind.Postgres

variable {σ α β : Type}

/-- A server's world with a record of the commands it was sent and the marks made. -/
structure Watched (σ : Type) where
  world : σ
  /-- Which of the marks are set. -/
  marks : Nat → Bool
  /-- How many marks were made. -/
  made : Nat
  sent : List String

namespace Watched

/-- What works on the world alone. -/
def lift (x : StateM σ α) : StateM (Watched σ) α := fun w =>
  let (a, world) := x w.world
  (a, { w with world })

def setMark (w : Watched σ) (k : Nat) : Watched σ :=
  { w with marks := fun i => if i = k then true else w.marks i }

end Watched

/-- A mark of the record. -/
def Latch.ofMark (k : Nat) : Latch (StateM (Watched σ)) where
  isSet w := (w.marks k, w)
  set w := (w.marks k, w.setMark k)

def Prepared.watched (p : Prepared (StateM σ)) : Prepared (StateM (Watched σ)) :=
  ⟨p.parameters, p.fields, fun cells => Watched.lift (p.run cells)⟩

/-- The outcomes that an action has from a record on, in any world. How a server keeps to
a span of time is its own affair, so what it answers has to show that it is one of these. -/
def Outcome (action : StateM (Watched σ) α) (w : Watched σ) : Type :=
  { outcome : α × Watched σ // ∃ world, outcome = action { w with world } }

/-- An action on the world alone, from a record on: its answer is the outcome. -/
def outcome (action : StateM (Watched σ) α) (w : Watched σ) : StateM σ (Outcome action w) :=
  fun world => (⟨action { w with world }, world, rfl⟩, (action { w with world }).2.world)

/-- The server with its commands written down and with marks of its own. What an action
did that took too long is written down as well. -/
def Server.watched (server : Server (StateM σ)) : Server (StateM (Watched σ)) where
  prepare sql types := Except.map Prepared.watched <$> Watched.lift (server.prepare sql types)
  command sql := do
    modify fun w => { w with sent := w.sent ++ [sql] }
    Watched.lift (server.command sql)
  newLatch w :=
    (.ofMark w.made,
      { w with marks := fun i => if i = w.made then false else w.marks i, made := w.made + 1 })
  within span action w :=
    match server.within span (outcome action w) w.world with
    | (some ⟨(a, after), _⟩, world) => (some a, { after with world })
    | (none, world) => (none, { (action w).2 with world })

def Visitor.watched (visit : Visitor (StateM σ)) : Visitor (StateM (Watched σ)) :=
  fun row columns => Watched.lift (visit row columns)

/-- A database on a server that is watched. -/
def Database.watched (server : Server (StateM σ)) (config : Config) (log : Event → StateM σ Unit) :
    Database (StateM (Watched σ)) :=
  ⟨server.watched.connection, config, fun e => Watched.lift (log e)⟩

/-- A command is written down when it is sent, whatever the answer. -/
theorem Server.send_watched (server : Server (StateM σ)) (sql : String) (w : Watched σ) :
    ∃ result world, server.watched.send sql w =
      (result, { w with world, sent := w.sent ++ [sql] }) := by
  have answered : (liftM (server.watched.command sql) : Effect (Watched σ) _) w =
      (.ok (server.command sql w.world).1,
        { w with world := (server.command sql w.world).2, sent := w.sent ++ [sql] }) := rfl
  rw [Server.send, Effect.bind_apply, answered]
  cases (server.command sql w.world).1 with
  | ok _ => exact ⟨.ok (), _, rfl⟩
  | error e => exact ⟨.error e.toDbError, _, rfl⟩

/-! ## What keeps the record -/

/-- A computation that sends no command and touches no mark. -/
def Keeps (x : StateM (Watched σ) α) : Prop :=
  ∀ w, (x w).2.sent = w.sent ∧ (x w).2.marks = w.marks

namespace Keeps

theorem lift (x : StateM σ α) : Keeps (Watched.lift x) := fun _ => ⟨rfl, rfl⟩

theorem result (r : Except DbError α) : Keeps (liftM r : Effect (Watched σ) α).run :=
  fun _ => ⟨rfl, rfl⟩

theorem pure (a : α) : Keeps (Pure.pure a : Effect (Watched σ) α).run := result (.ok a)

theorem throw (e : DbError) : Keeps (MonadExcept.throw e : Effect (Watched σ) α).run :=
  result (.error e)

theorem lifted {x : StateM (Watched σ) α} (hx : Keeps x) :
    Keeps (liftM x : Effect (Watched σ) α).run := hx

/-- After a computation the record is as the computation left it, if what follows keeps it. -/
theorem after (x : Effect (Watched σ) α) {f : α → Effect (Watched σ) β} (w : Watched σ)
    (hf : ∀ a, (x w).1 = .ok a → Keeps (f a).run) :
    ((x >>= f) w).2.sent = (x w).2.sent ∧ ((x >>= f) w).2.marks = (x w).2.marks := by
  rw [Effect.bind_apply]
  rcases ran : x w with ⟨e | a, w₁⟩
  · exact ⟨rfl, rfl⟩
  · exact hf a (congrArg Prod.fst ran) w₁

/-- What follows has to keep the record only for the answers that there are. -/
theorem bind_answers {P : α → Prop} {x : Effect (Watched σ) α} {f : α → Effect (Watched σ) β}
    (hx : Keeps x.run) (answers : ∀ w a, (x w).1 = .ok a → P a)
    (hf : ∀ a, P a → Keeps (f a).run) : Keeps (x >>= f).run := by
  intro w
  have first := hx w
  have second := after x w fun a answered => hf a (answers w a answered)
  exact ⟨second.1.trans first.1, second.2.trans first.2⟩

theorem bind {x : Effect (Watched σ) α} {f : α → Effect (Watched σ) β} (hx : Keeps x.run)
    (hf : ∀ a, Keeps (f a).run) : Keeps (x >>= f).run :=
  bind_answers (P := fun _ => True) hx (fun _ _ _ => trivial) fun a _ => hf a

theorem adapt (g : DbError → DbError) {x : Effect (Watched σ) α} (hx : Keeps x.run) :
    Keeps (x.adapt g).run := hx

/-- What is looked at keeps what it keeps unlooked at. -/
theorem looked {x : Effect (Watched σ) α} {f : Except DbError α → Effect (Watched σ) β}
    (hx : Keeps x.run) (hf : ∀ r, Keeps (f r).run) :
    Keeps ((liftM x.run : Effect (Watched σ) (Except DbError α)) >>= f).run :=
  bind (lifted hx) hf

theorem within (server : Server (StateM σ)) (span : Duration) {x : StateM (Watched σ) α}
    (hx : Keeps x) : Keeps (server.watched.within span x) := by
  intro w
  simp only [Server.watched]
  split
  · rename_i a after reached world ran
    obtain ⟨from', same⟩ := reached
    have kept := hx { w with world := from' }
    rw [← same] at kept
    exact kept
  · exact hx w

/-! ## Statements -/

variable (server : Server (StateM σ))

theorem prepared (s : Statement) : Keeps (server.watched.prepared s).run := by
  refine bind (result (checkArgs s)) fun _ => bind (lifted fun _ => ⟨rfl, rfl⟩) fun answer => ?_
  cases answer with
  | ok p => exact pure p
  | error e => exact throw e.toDbError

/-- A statement that a watched server has prepared is run on its world alone. -/
theorem prepared_watched {s : Statement} (w : Watched σ) (p : Prepared (StateM (Watched σ)))
    (h : (server.watched.prepared s w).1 = .ok p) : ∃ q : Prepared (StateM σ), p = q.watched := by
  rw [Server.prepared] at h
  cases checked : checkArgs s with
  | error e =>
    rw [checked, ExceptT.bind_error] at h
    cases h
  | ok _ =>
    rw [checked, ExceptT.bind_ok, Effect.bind_apply] at h
    have answered : (liftM (server.watched.prepare (Placeholder.render s.sql)
        (s.args.map parameterType)) : Effect (Watched σ) _) w =
          (.ok ((server.prepare (Placeholder.render s.sql) (s.args.map parameterType)
            w.world).1.map Prepared.watched), _) := rfl
    rw [answered] at h
    cases prepared : (server.prepare (Placeholder.render s.sql) (s.args.map parameterType)
        w.world).1 with
    | error e =>
      rw [prepared] at h
      cases h
    | ok q =>
      rw [prepared] at h
      cases h
      exact ⟨q, rfl⟩

theorem executed (s : Statement) : Keeps (server.watched.executed s).run := by
  refine bind_answers (prepared server s) (prepared_watched server) ?_
  rintro _ ⟨p, rfl⟩
  exact bind (result _) fun cells => bind (lifted (lift (p.run cells))) fun _ => pure _

theorem query (s : Statement) : Keeps (server.watched.query s).run := by
  refine bind (executed server s) ?_
  rintro ⟨fields, execution⟩
  dsimp only
  cases execution.ending with
  | error e => exact throw e.toDbError
  | ok _ => exact bind (result _) fun _ => pure _

theorem execute (s : Statement) : Keeps (server.watched.execute s).run := by
  refine bind (executed server s) ?_
  rintro ⟨_, execution⟩
  dsimp only
  cases execution.ending with
  | error e => exact throw e.toDbError
  | ok tag => exact pure _

theorem sortOutputs (outcome : CallOutcome) (columns : List (ColumnMeta × String × Value)) :
    Keeps (server.watched.sortOutputs outcome columns).run := by
  induction columns generalizing outcome with
  | nil => exact pure outcome
  | cons column rest ih =>
    obtain ⟨column, name, v⟩ := column
    unfold Server.sortOutputs
    split
    · exact bind (query server _) fun rows => ih _
    · exact ih _

theorem call (s : Statement) : Keeps (server.watched.call s).run := by
  refine bind (query server s) fun answered => ?_
  cases answered.rows with
  | nil => exact pure _
  | cons row rest => exact sortOutputs server _ _

theorem visitRows {visit : Visitor (StateM (Watched σ))}
    (quiet : ∀ record columns, Keeps (visit record columns)) (fields : List Field)
    (ending : Except ServerError String) (seen : Nat) (rows : List (List Cell)) :
    Keeps (Server.visitRows visit fields ending seen rows).run := by
  induction rows generalizing seen with
  | nil =>
    cases ending with
    | error e => exact throw e.toDbError
    | ok _ => exact pure seen
  | cons row rest ih =>
    refine bind (result _) fun record => bind (lifted (quiet record _)) fun flow => ?_
    cases flow with
    | stop => exact pure _
    | proceed => exact ih (seen + 1)

theorem travel {visit : Visitor (StateM (Watched σ))}
    (quiet : ∀ record columns, Keeps (visit record columns)) (s : Statement) :
    Keeps (server.watched.travel visit s).run := by
  refine bind (executed server s) ?_
  rintro ⟨fields, execution⟩
  exact visitRows quiet fields execution.ending 0 execution.rows

theorem limited (limit : Option Duration) {action : Effect (Watched σ) α} (hx : Keeps action.run) :
    Keeps (server.watched.limited limit action).run := by
  cases limit with
  | none => exact hx
  | some span =>
    refine bind (lifted (within server span hx)) fun answer => ?_
    rcases answer with _ | e | a
    · exact throw (.timeout span)
    · exact throw e
    · exact pure a

end Keeps

/-- A database whose statements keep the record. -/
structure Quiet (db : Db (StateM (Watched σ))) : Prop where
  log : ∀ e, Keeps (db.log e)
  query : ∀ limit s, Keeps (db.transport.query limit s).run
  pageQuery : ∀ page limit s, Keeps (db.transport.pageQuery page limit s).run
  execute : ∀ limit s, Keeps (db.transport.execute limit s).run
  call : ∀ limit s, Keeps (db.transport.call limit s).run
  travel : ∀ visit limit s, (∀ record columns, Keeps (visit record columns)) →
    Keeps (db.transport.travel visit limit s).run

theorem quiet_watched (server : Server (StateM σ)) (config : Config) (log : Event → StateM σ Unit) :
    Quiet ⟨server.watched.transport, config, fun e => Watched.lift (log e)⟩ where
  log e := .lift (log e)
  query limit s := .limited server limit (.query server s)
  pageQuery page limit s := .limited server limit (.query server (paged page s))
  execute limit s := .limited server limit (.execute server s)
  call limit s := .limited server limit (.call server s)
  travel _ limit s quiet := .limited server limit (.travel server quiet s)

namespace Keeps

variable {db : Db (StateM (Watched σ))} (quiet : Quiet db)
include quiet

theorem hand (operation : Operation) (s : Statement)
    {f : Option Duration → Statement → Effect (Watched σ) α} (hf : ∀ limit s, Keeps (f limit s).run) :
    Keeps (db.hand operation s f).run :=
  bind (lifted (quiet.log _)) fun _ => hf _ _

theorem writeRow (operation : Operation) (s : Statement) : Keeps (db.writeRow operation s).run := by
  rw [Db.writeRow]
  split
  · exact bind (hand quiet operation s quiet.query) fun _ => pure _
  · exact bind (hand quiet operation s quiet.execute) fun _ => pure _

theorem perform (request : Request σ α) : Keeps (request.perform Visitor.watched db).run := by
  cases request with
  | query => exact bind (result _) fun s => hand quiet .query s quiet.query
  | pageQuery _ _ page => exact bind (result _) fun s => hand quiet .pageQuery s (quiet.pageQuery page)
  | queryRow =>
    exact bind (result _) fun s => bind (hand quiet .queryRow s quiet.query) fun _ => pure _
  | queryScalar =>
    exact bind (result _) fun s => bind (hand quiet .queryScalar s quiet.query) fun _ => pure _
  | execute => exact bind (result _) fun s => hand quiet .execute s quiet.execute
  | call => exact bind (result _) fun s => hand quiet .call s quiet.call
  | travel _ _ visit =>
    exact bind (result _) fun s =>
      hand quiet .travel s fun limit s => quiet.travel _ limit s fun record columns =>
        .lift (visit record columns)
  | nextId =>
    exact bind (result _) fun sql => bind (hand quiet .nextId (.bare sql) quiet.query) fun _ => result _
  | insertRow => exact bind (result _) fun s => writeRow quiet .insertRow s
  | updateRow => exact bind (result _) fun s => writeRow quiet .updateRow s
  | mergeRow => exact bind (result _) fun s => hand quiet .mergeRow s quiet.execute
  | deleteRow => exact bind (result _) fun s => hand quiet .deleteRow s quiet.execute
  | deleteRows => exact bind (result _) fun s => hand quiet .deleteRows s quiet.execute

theorem applyOne (target : ChangeTarget) (change : RowChange) :
    Keeps (db.applyOne target change).run := by
  unfold Db.applyOne
  cases change.state with
  | new => exact perform quiet (.insertRow ⟨target.table, change.row, target.columns, target.key⟩)
  | edit => exact perform quiet (.updateRow ⟨target.table, change.row, target.columns, target.key⟩)
  | remove =>
    exact bind (perform quiet (.deleteRow ⟨target.table, change.row, target.key⟩)) fun _ => pure _
  | none => exact pure _

theorem applyFrom (target : ChangeTarget) (index : Nat) (changes : List RowChange) :
    Keeps (db.applyFrom target index changes).run := by
  induction changes generalizing index with
  | nil => exact pure _
  | cons change rest ih =>
    exact bind (adapt _ (applyOne quiet target change)) fun _ => bind (ih (index + 1)) fun _ => pure _

end Keeps

/-! ## Sessions -/

/-- A session that only hands over statements, in whatever transactions there are: it
neither opens one nor ends one. -/
inductive OnlyStatements {n : Nat} {α : Type} : Session σ n α → Prop
  | done (result : Except DbError α) : OnlyStatements (.done result)
  | ask {β : Type} (place : Option (Fin n)) (request : Request σ β)
      {next : Except DbError β → Session σ n α} (later : ∀ answer, OnlyStatements (next answer)) :
      OnlyStatements (.step (.ask place request) next)
  | applyEach (place : Option (Fin n)) (target : ChangeTarget) (changes : List RowChange)
      {next : Except DbError (List RowOutcome) → Session σ n α}
      (later : ∀ answer, OnlyStatements (next answer)) :
      OnlyStatements (.step (.applyEach place target changes) next)

theorem Keeps.session {database : Database (StateM (Watched σ))} {n : Nat}
    {opened : Vector (Transaction (StateM (Watched σ))) n}
    (quiet : ∀ place, Quiet (database.at opened place)) {session : Session σ n α}
    (only : OnlyStatements session) :
    Keeps (session.run Visitor.watched database opened).run := by
  induction only with
  | done r => exact result r
  | ask place request later ih => exact looked (perform (quiet place) request) ih
  | applyEach place target changes later ih =>
    exact looked (applyFrom (quiet place) target 0 changes) ih

end SqlBind.Postgres
