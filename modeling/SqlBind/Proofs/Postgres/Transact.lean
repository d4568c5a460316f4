/-
Work in a transaction of its own, seen from the server: `BEGIN`, then what the work
does, then one end. A mark is made for each transaction that begins, and work that
only hands over statements leaves it unset; so the end that the work's result asks for
is sent, and closing afterwards finds the mark set.
-/
import SqlBind.Proofs.Db.ChangeSet
import SqlBind.Proofs.Postgres.Ending

namespace SqlBind.Postgres

variable {σ α : Type} {server : Server (StateM σ)} {k : Nat} {w : Watched σ}

/-! ## Ends that are not contested -/

/-- Who claims the end first sends its command. -/
theorem run_claim_apply (unset : w.marks k = false) (command : EndCommand) :
    Ending.run (.ofMark k) (Contest.sending server) (.claim command) w =
      Contest.sending server command (w.setMark k) := by
  let latch : Latch (StateM (Watched σ)) := .ofMark k
  have claimed : (liftM latch.set : Effect (Watched σ) Bool) w = (.ok (w.marks k), w.setMark k) := rfl
  rw [Ending.run, Effect.bind_apply, claimed, unset]
  simp only [Ending.claimed, Bool.false_eq_true, if_false, Ending.run]

/-- Who looks after the end was claimed does nothing. -/
theorem run_look_apply (set : w.marks k = true) :
    Ending.run (.ofMark k) (Contest.sending server) .look w = (.ok (), w) := by
  let latch : Latch (StateM (Watched σ)) := .ofMark k
  have looked : (liftM latch.isSet : Effect (Watched σ) Bool) w = (.ok (w.marks k), w) := rfl
  rw [Ending.run, Effect.bind_apply, looked, set]
  simp only [Ending.looked, if_true, Ending.run]
  rfl

/-- The command that ends a transaction as its work ended. -/
def endOf : Except DbError α → EndCommand
  | .ok _ => .commit
  | .error _ => .rollback

/-- A transaction on the server, with mark `k`. -/
def Transaction.watched (server : Server (StateM σ)) (k : Nat) (config : Config)
    (log : Event → StateM σ Unit) : Transaction (StateM (Watched σ)) :=
  ⟨server.watched.openTransaction (.ofMark k), config, fun e => Watched.lift (log e)⟩

section
variable (server) (config : Config) (log : Event → StateM σ Unit)

/-- Ending a transaction sets its mark and sends one command. -/
theorem finish_sends (unset : w.marks k = false) (worked : Except DbError α) :
    ((Transaction.watched server k config log).finish worked w).2.sent =
      w.sent ++ [(endOf worked).sql] ∧
    ((Transaction.watched server k config log).finish worked w).2.marks k = true := by
  let tx := Transaction.watched server k config log
  let claim : Effect (Watched σ) Unit :=
    Ending.run (.ofMark k) (Contest.sending server) (.claim (endOf worked))
  obtain ⟨result, world, sent⟩ := server.send_watched (endOf worked).sql (w.setMark k)
  have claimed : claim w =
      (result, { w.setMark k with world, sent := w.sent ++ [(endOf worked).sql] }) :=
    (run_claim_apply unset _).trans sent
  have logged : ∀ e, Keeps (liftM (tx.log e) : Effect (Watched σ) Unit).run :=
    fun e => .lifted (.lift (log e))
  -- What comes after the claim and the command leaves the record as it is.
  suffices ended : (tx.finish worked w).2.sent = (claim w).2.sent ∧
      (tx.finish worked w).2.marks = (claim w).2.marks by
    rw [ended.1, ended.2, claimed]
    exact ⟨rfl, if_pos rfl⟩
  cases worked with
  | ok a =>
    have committed := Keeps.after tx.transport.commit w fun _ _ => logged (.transaction .commit)
    have finished := Keeps.after tx.commit w fun _ _ => Keeps.pure a
    exact ⟨finished.1.trans committed.1, finished.2.trans committed.2⟩
  | error e =>
    have undone := Keeps.after tx.transport.rollback w fun _ _ => logged (.transaction .rollback)
    have failed : ∀ u : Unit, Keeps (throw e : Effect (Watched σ) α).run := fun _ => Keeps.throw e
    have finished := Keeps.after (tx.rollback.adapt (.rollbackFailed e)) w fun u _ => failed u
    exact ⟨finished.1.trans undone.1, finished.2.trans undone.2⟩

end

/-! ## Begin, work and end -/

/-- The record when a transaction has begun: there is one more mark, and it is unset. -/
def Watched.begun (w : Watched σ) (world : σ) : Watched σ where
  world
  marks i := if i = w.made then false else w.marks i
  made := w.made + 1
  sent := w.sent ++ ["BEGIN"]

theorem connection_begin (server : Server (StateM σ)) (w : Watched σ) :
    (∃ e world, server.watched.connection.begin w =
      (.error e, { w with world, sent := w.sent ++ ["BEGIN"] })) ∨
    ∃ world, server.watched.connection.begin w =
      (.ok (server.watched.openTransaction (.ofMark w.made)), w.begun world) := by
  obtain ⟨result, world, sent⟩ := server.send_watched "BEGIN" w
  have made : (liftM server.watched.newLatch : Effect (Watched σ) _)
      { w with world, sent := w.sent ++ ["BEGIN"] } = (.ok (.ofMark w.made), w.begun world) := rfl
  have steps : server.watched.connection.begin = server.watched.send "BEGIN" >>= fun _ =>
      (liftM server.watched.newLatch : Effect (Watched σ) _) >>= fun latch =>
        pure (server.watched.openTransaction latch) := rfl
  rw [steps, Effect.bind_apply, sent]
  cases result with
  | error e => exact .inl ⟨e, world, rfl⟩
  | ok _ =>
    refine .inr ⟨world, ?_⟩
    simp only [Effect.bind_apply, made]
    rfl

/-- A transaction that begins is one with the next mark. -/
theorem begin_cases (server : Server (StateM σ)) (config : Config) (log : Event → StateM σ Unit)
    (w : Watched σ) :
    (∃ e world, (Database.watched server config log).begin w =
      (.error e, { w with world, sent := w.sent ++ ["BEGIN"] })) ∨
    ∃ world, (Database.watched server config log).begin w =
      (.ok (Transaction.watched server w.made config log), w.begun world) := by
  have same : (Database.watched server config log).connection = server.watched.connection := rfl
  rw [Database.begin, Effect.bind_apply, same]
  rcases connection_begin server w with ⟨e, world, failed⟩ | ⟨world, opened⟩
  · rw [failed]
    exact .inl ⟨e, world, rfl⟩
  · rw [opened]
    exact .inr ⟨(log (.transaction .begin) world).2, rfl⟩

theorem quiet_at (server : Server (StateM σ)) (k : Nat) (config : Config)
    (log : Event → StateM σ Unit) (place : Option (Fin 1)) :
    Quiet ((Database.watched server config log).at #v[Transaction.watched server k config log]
      place) := by
  cases place with
  | none => exact quiet_watched server config log
  | some i =>
    obtain rfl : i = 0 := Subsingleton.elim i 0
    exact quiet_watched server config log

/-- Work that leaves the mark unset is followed by the end it asks for and by nothing else. -/
theorem run_sends (server : Server (StateM σ)) (config : Config) (log : Event → StateM σ Unit)
    {work : Transaction (StateM (Watched σ)) → Effect (Watched σ) α}
    (keeps : Keeps (work (Transaction.watched server k config log)).run) (unset : w.marks k = false) :
    ((Transaction.watched server k config log).run work w).2.sent =
      w.sent ++ [(endOf (work (Transaction.watched server k config log) w).1).sql] := by
  obtain ⟨sent, marks⟩ := keeps w
  rw [Transaction.run_apply]
  rcases ran : work (Transaction.watched server k config log) w with ⟨worked, w₁⟩
  rw [show ((work (Transaction.watched server k config log)).run w).2 = w₁ from
    congrArg Prod.snd ran] at sent marks
  have ends := finish_sends server config log (show w₁.marks k = false by rw [marks, unset]) worked
  rcases finished : (Transaction.watched server k config log).finish worked w₁ with ⟨result, w₂⟩
  rw [finished] at ends
  have closed : (Transaction.watched server k config log).close w₂ = (.ok (), w₂) :=
    run_look_apply ends.2
  simp only [finished, closed]
  rw [ends.1, sent]

/-- A transaction that begins has one command sent behind `BEGIN`, the end that its work
asks for. -/
theorem transact_sends (server : Server (StateM σ)) (config : Config) (log : Event → StateM σ Unit)
    {work : Session σ 1 α} (only : OnlyStatements work)
    {tx : Transaction (StateM (Watched σ))} {begun : Watched σ}
    (begins : (Database.watched server config log).begin w = (.ok tx, begun)) :
    ((Database.watched server config log).transact
      (fun tx => work.run Visitor.watched (Database.watched server config log) #v[tx]) w).2.sent =
      w.sent ++ ["BEGIN", (endOf (work.run Visitor.watched (Database.watched server config log)
        #v[tx] begun).1).sql] := by
  rcases begin_cases server config log w with ⟨e, world, refused⟩ | ⟨world, opened⟩
  · cases refused.symm.trans begins
  · cases opened.symm.trans begins
    have keeps := Keeps.session (quiet_at server w.made config log) only
    rw [Database.transact, Effect.bind_apply, begins]
    refine (run_sends server config log keeps (if_pos rfl)).trans ?_
    rw [Watched.begun, List.append_assoc]
    rfl

/-! ## Whoever ends it -/

/-- What holds of a transaction with mark `k` whatever callers end it in whatever order, if
`begun` is the record when it began. -/
structure EndsOnEverySchedule (server : Server (StateM σ)) (k : Nat)
    (tx : TransactionTransport (StateM (Watched σ))) (begun : Watched σ) : Prop where
  /-- To end the transaction is to take the steps of a call, … -/
  calls : ∀ call : EndCall,
    call.perform tx = Ending.run (.ofMark k) (Contest.sending server) call.start
  /-- … one after the other. -/
  steps : ∀ left, (Ending.run (.ofMark k) (Contest.sending server) left).run =
    left.step (.ofMark k) (Contest.sending server) >>= fun left =>
      (Ending.run (.ofMark k) (Contest.sending server) left).run
  /-- One caller at most sends a command, and the others are refused. -/
  once : ∀ schedule, EndsOnce k begun.sent ((Contest.opened begun).run server k schedule)
  /-- The mark stays set, and what was done stays done. -/
  later : ∀ c schedule, Later k c (Contest.run server k c schedule)
  /-- A close that sees the mark returns and sends nothing. -/
  closes : ∀ schedule i, ((Contest.opened begun).run server k schedule).callers[i]? =
      some ⟨.close, .look⟩ → ((Contest.opened begun).run server k schedule).world.marks k = true →
    ∀ more, let c := (Contest.opened begun).run server k (schedule ++ .step i :: more)
      c.callers[i]? = some ⟨.close, .done (.ok ())⟩ ∧ ∀ command, (i, command) ∉ c.sends
  /-- A caller returns after three steps at most. -/
  returns : ∀ c i call left schedule, c.callers[i]? = some ⟨call, left⟩ →
    3 ≤ schedule.countP (Turn.steps i) →
      ∃ result, (Contest.run server k c schedule).callers[i]? = some ⟨call, .done result⟩

theorem endsOnEverySchedule (server : Server (StateM σ)) (w : Watched σ) (world : σ) :
    EndsOnEverySchedule server w.made (server.watched.openTransaction (.ofMark w.made))
      (w.begun world) := by
  have unset : (w.begun world).marks w.made = false := if_pos rfl
  have stage : ∀ schedule, Stage w.made ((Contest.opened (w.begun world)).run server w.made schedule) :=
    (Stage.opened unset).run server
  refine ⟨EndCall.perform_open _ _, Ending.run_eq_step _ _, fun schedule => ?_, Later.run server, ?_,
    fun _ _ _ _ _ here => returns_of_steps server w.made here⟩
  · obtain ⟨more, sends, sent⟩ :=
      (Later.run server (Contest.opened (w.begun world)) schedule : Later w.made _ _).sent
    refine (stage schedule).endsOnce ?_
    rw [sent, sends]
    rfl
  · intro schedule i here mark more
    have split : (Contest.opened (w.begun world)).run server w.made (schedule ++ .step i :: more) =
        (((Contest.opened (w.begun world)).run server w.made schedule).act server w.made i).run
          server w.made more := List.foldl_append
    simp only [split]
    exact ((stage schedule).closes server here mark).2 more

/-- **A transaction ends at most once.** Whatever the server answers and however many
callers commit, roll back and close a transaction that began, in every interleaving of
their steps: one command at most is sent, by the caller who set the mark first, `COMMIT` for
a commit and `ROLLBACK` for a rollback or a close; every other commit or rollback is
refused; the mark is never unset; a close that sees it set returns and sends nothing; and
when anyone has returned, it is set. And work in a transaction of its own that only hands
over statements has the server sent `BEGIN` and, if that succeeds, one end more: `COMMIT` if
the work succeeded, and `ROLLBACK` if it failed. -/
theorem transaction_ends_once (server : Server (StateM σ)) (w : Watched σ) :
    (∀ tx begun, server.watched.connection.begin w = (.ok tx, begun) →
      begun.sent = w.sent ++ ["BEGIN"] ∧ EndsOnEverySchedule server w.made tx begun) ∧
    ∀ (config : Config) (log : Event → StateM σ Unit) (α : Type) (work : Session σ 1 α),
      OnlyStatements work →
      let database := Database.watched server config log
      let run := fun tx => work.run Visitor.watched database #v[tx]
      (∀ e failed, database.begin w = (.error e, failed) →
        database.transact run w = (.error e, failed) ∧ failed.sent = w.sent ++ ["BEGIN"]) ∧
      ∀ tx begun, database.begin w = (.ok tx, begun) →
        (∀ a, (run tx begun).1 = .ok a →
          (database.transact run w).2.sent = w.sent ++ ["BEGIN", "COMMIT"]) ∧
        ∀ e, (run tx begun).1 = .error e →
          (database.transact run w).2.sent = w.sent ++ ["BEGIN", "ROLLBACK"] := by
  refine ⟨fun tx begun opens => ?_, fun config log α work only => ?_⟩
  · rcases connection_begin server w with ⟨e, world, failed⟩ | ⟨world, opened⟩
    · cases failed.symm.trans opens
    · cases opened.symm.trans opens
      exact ⟨rfl, endsOnEverySchedule server w world⟩
  intro database run
  refine ⟨fun e failed begins => ⟨?_, ?_⟩, fun tx begun begins => ?_⟩
  · rw [Database.transact, Effect.bind_apply, begins]
  · rcases begin_cases server config log w with ⟨e, world, refused⟩ | ⟨world, opened⟩
    · cases refused.symm.trans begins
      rfl
    · cases opened.symm.trans begins
  · have ends := transact_sends server config log only begins
    exact ⟨fun a worked => by rw [ends, worked]; rfl, fun e failed => by rw [ends, failed]; rfl⟩

/-- A server that takes every command and prepares no statement. -/
def Server.obedient : Server (StateM Unit) where
  prepare _ _ := pure (.error ⟨"0A000", "not supported", none⟩)
  command _ := pure (.ok ())
  newLatch := pure ⟨pure false, pure false⟩
  within _ action := some <$> action

/-- Work that hands over a statement in its transaction and goes on with the answer. -/
def deleting (next : Except DbError Nat → Session σ 1 Nat) : Session σ 1 Nat :=
  .step (.ask (some 0) (.execute "DELETE FROM t" .none)) next

theorem deleting_refused (next : Except DbError Nat → Session Unit 1 Nat) (w : Watched Unit) :
    let database := Database.watched Server.obedient {} fun _ => pure ()
    let tx := Transaction.watched Server.obedient 0 {} fun _ => pure ()
    (deleting next).run Visitor.watched database #v[tx] w =
      (next (.error (.query .database))).run Visitor.watched database #v[tx] w := rfl

/-- A commit and a close at the same time, of which the close looks first and claims
last; work that fails as its statement is refused; and work that succeeds all the same. -/
theorem transaction_ends_once_contested :
    let w : Watched Unit := ⟨(), fun _ => false, 0, []⟩
    let tx := Server.obedient.watched.openTransaction (.ofMark 0)
    let schedule : List (Turn Unit) :=
      [.call .commit, .call .close, .step 1, .step 0, .step 1, .step 0]
    let ended := (Contest.opened (w.begun ())).run Server.obedient 0 schedule
    let database := Database.watched Server.obedient {} fun _ => pure ()
    let fails : Session Unit 1 Nat := deleting .done
    let succeeds : Session Unit 1 Nat := deleting fun _ => .done (.ok 0)
    Server.obedient.watched.connection.begin w = (.ok tx, w.begun ()) ∧
      EndsOnEverySchedule Server.obedient 0 tx (w.begun ()) ∧
      EndsOnce 0 ["BEGIN"] ended ∧ ended.sends = [(0, .commit)] ∧
      ended.world.sent = ["BEGIN", "COMMIT"] ∧
      ended.callers = [⟨.commit, .done (.ok ())⟩, ⟨.close, .done (.error (.finished .rollback))⟩] ∧
      OnlyStatements fails ∧ OnlyStatements succeeds ∧
      (database.transact (fun tx => fails.run Visitor.watched database #v[tx]) w).2.sent =
        ["BEGIN", "ROLLBACK"] ∧
      (database.transact (fun tx => succeeds.run Visitor.watched database #v[tx]) w).2.sent =
        ["BEGIN", "COMMIT"] := by
  intro w tx schedule ended database fails succeeds
  obtain ⟨contested, transacted⟩ := transaction_ends_once Server.obedient w
  have begins : Server.obedient.watched.connection.begin w = (.ok tx, w.begun ()) := rfl
  have ends := (contested tx (w.begun ()) begins).2
  have once := ends.once schedule
  have onlyFails : OnlyStatements fails := .ask _ _ fun answer => .done answer
  have onlySucceeds : OnlyStatements succeeds := .ask _ _ fun _ => .done (.ok 0)
  have refused := congrArg Prod.fst (deleting_refused .done (w.begun ()))
  have went := congrArg Prod.fst (deleting_refused (fun _ => .done (.ok 0)) (w.begun ()))
  have logless := transacted {} fun _ => pure ()
  have failed := ((logless Nat fails onlyFails).2 _ _ rfl).2 _ refused
  have succeeded := ((logless Nat succeeds onlySucceeds).2 _ _ rfl).1 _ went
  exact ⟨begins, ends, once, rfl, once.committed 0 (.ok ()) rfl rfl, rfl, onlyFails, onlySucceeds,
    failed, succeeded⟩

end SqlBind.Postgres
