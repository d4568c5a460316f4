/-
Change sets are applied in order, and all or none of them for good
(`changes_apply_all_or_none`). One change makes at most one call (`Treated`); the
changes of a set make theirs one after the other, up to the first that fails
(`Applied`); and what was begun is committed or rolled back accordingly, and
closed in the end.
-/
import SqlBind.Proofs.Db.Recording

namespace SqlBind

variable {σ : Type}

/-! ## One change -/

/-- The call that writes a row. PostgreSQL returns the row. -/
def Config.writeCall (config : Config) (dialect : Dialect) (s : Statement) : Call :=
  if dialect.isPostgres then .query (config.stage s) else .execute (config.stage s)

/-- The call that a change asks for, if it asks for any. -/
def ChangeTarget.request (target : ChangeTarget) (config : Config) (dialect : Dialect)
    (change : RowChange) : Except DbError (Option Call) :=
  match change.state with
  | .new =>
    (Insert.buildWith { target with row := change.row } dialect config.key).map fun s =>
      some (config.writeCall dialect s)
  | .edit =>
    (Update.buildWith { target with row := change.row } dialect config.key).map fun s =>
      some (config.writeCall dialect s)
  | .remove =>
    (Delete.buildWith { target with row := change.row } config.key).map fun s =>
      some (.execute (config.stage s))
  | .none => .ok none

def RowOutcome.isSkipped : RowOutcome → Bool
  | .skipped => true
  | .returned _ | .affected _ => false

/-- What may become of a change, by what it asks for: its outcome, and the calls
that are made. -/
inductive Treated : Except DbError (Option Call) → Except DbError RowOutcome → List Made → Prop
  | skipped : Treated (.ok none) (.ok .skipped) []
  | done {c : Call} {outcome : RowOutcome} (written : outcome.isSkipped = false) :
    Treated (.ok (some c)) (.ok outcome) [(c, none)]
  | refused {e : DbError} : Treated (.error e) (.error e) []
  | failed {c : Call} {e : DbError} : Treated (.ok (some c)) (.error e) [(c, some e)]

/-- A statement that is handed over, for an outcome that is not that of a change to be skipped. -/
theorem Treated.handed {α : Type} (db : Db (StateM σ)) (operation : Operation) (s : Statement)
    (c : Statement → Call) (x : Option Duration → Statement → Effect σ α) {outcome : α → RowOutcome}
    (written : ∀ a, (outcome a).isSkipped = false) :
    Behaves (db.hand operation s x >>= fun a => pure (outcome a))
      (db.recorded.hand operation s (fun timeout s => record (c s) (x timeout s)) >>= fun a =>
        pure (outcome a))
      (Treated (.ok (some (c (db.config.stage s))))) := by
  intro world
  obtain ⟨result, world', run⟩ := Runs.hand db operation s c x world
  refine ⟨_, _, _, run.map outcome, ?_⟩
  cases result with
  | error e => exact .failed
  | ok a => exact .done (written a)

theorem Treated.writeRow (db : Db (StateM σ)) (operation : Operation) (s : Statement) :
    Behaves (db.writeRow operation s) (db.recorded.writeRow operation s)
      (Treated (.ok (some (db.config.writeCall db.transport.dialect s)))) := by
  unfold Db.writeRow Config.writeCall
  by_cases postgres : db.transport.dialect.isPostgres = true
  · have postgres' : db.recorded.transport.dialect.isPostgres = true := postgres
    rw [if_pos postgres, if_pos postgres', if_pos postgres]
    exact Treated.handed db operation s .query db.transport.query fun _ => rfl
  · have postgres' : ¬db.recorded.transport.dialect.isPostgres = true := postgres
    rw [if_neg postgres, if_neg postgres', if_neg postgres]
    exact Treated.handed db operation s .execute db.transport.execute fun _ => rfl

/-- A change whose statement is not built makes no call. -/
theorem Treated.built {f : Statement → Effect σ RowOutcome}
    {f' : Statement → Effect (Recorded σ) RowOutcome} {c : Statement → Call}
    (h : ∀ s, Behaves (f s) (f' s) (Treated (.ok (some (c s))))) (built : Except DbError Statement) :
    Behaves (liftM built >>= f) (liftM built >>= f') (Treated (built.map fun s => some (c s))) := by
  intro world
  cases built with
  | error e => exact ⟨_, _, _, (Runs.lift (.error e) world).bind_error, .refused⟩
  | ok s =>
    obtain ⟨result, world', made, run, treated⟩ := h s world
    exact ⟨result, world', _, (Runs.lift (.ok s) world).bind run, treated⟩

/-- **A change makes at most one call**: the one that it asks for, if it is built. -/
theorem Treated.applyOne (db : Db (StateM σ)) (target : ChangeTarget) (change : RowChange) :
    Behaves (db.applyOne target change) (db.recorded.applyOne target change)
      (Treated (target.request db.config db.transport.dialect change)) := by
  unfold Db.applyOne ChangeTarget.request
  cases change.state with
  | new => exact Treated.built (Treated.writeRow db .insertRow) _
  | edit => exact Treated.built (Treated.writeRow db .updateRow) _
  | remove =>
    simp only [Db.deleteRow, bind_assoc]
    refine Treated.built (fun s => ?_) _
    exact Treated.handed db .deleteRow s .execute db.transport.execute fun _ => rfl
  | none =>
    intro world
    exact ⟨.ok .skipped, world, [], .pure RowOutcome.skipped world, .skipped⟩

/-! ## A list of changes -/

/-- What may become of changes from a position on: their outcomes, or the first
failure with its place; and the calls that are made. -/
inductive Applied (target : ChangeTarget) (config : Config) (dialect : Dialect) :
    Nat → List RowChange → Except DbError (List RowOutcome) → List Made → Prop
  | nil {index : Nat} : Applied target config dialect index [] (.ok []) []
  | cons {index : Nat} {change : RowChange} {rest : List RowChange} {outcome : RowOutcome}
      {result : Except DbError (List RowOutcome)} {made more : List Made}
      (first : Treated (target.request config dialect change) (.ok outcome) made)
      (others : Applied target config dialect (index + 1) rest result more) :
    Applied target config dialect index (change :: rest) (result.map (outcome :: ·)) (made ++ more)
  | stop {index : Nat} {change : RowChange} {rest : List RowChange} {e : DbError} {made : List Made}
      (first : Treated (target.request config dialect change) (.error e) made) :
    Applied target config dialect index (change :: rest) (.error (.change target.table index e)) made

theorem Applied.applyFrom (db : Db (StateM σ)) (target : ChangeTarget) (index : Nat)
    (changes : List RowChange) :
    Behaves (db.applyFrom target index changes) (db.recorded.applyFrom target index changes)
      (Applied target db.config db.transport.dialect index changes) := by
  induction changes generalizing index with
  | nil =>
    intro world
    exact ⟨_, _, _, .pure [] world, .nil⟩
  | cons change rest ih =>
    intro world
    obtain ⟨result, world₁, made, run, treated⟩ := Treated.applyOne db target change world
    have adapted := run.adapt fun e => .change target.table index e
    cases result with
    | error e => exact ⟨_, _, _, adapted.bind_error, .stop treated⟩
    | ok outcome =>
      obtain ⟨result, world₂, more, runs, applied⟩ := ih (index + 1) world₁
      refine ⟨_, _, _, adapted.bind (runs.map (outcome :: ·)), ?_⟩
      rw [calls_append]
      exact .cons treated applied

/-! ## All changes, or those before the first that fails -/

section
variable (target : ChangeTarget) (config : Config) (dialect : Dialect)

/-- Changes all of which were built made their calls, in order, and each succeeded. -/
def Issued (changes : List RowChange) (made : List Made) : Prop :=
  ∃ requests, changes.mapM (target.request config dialect) = .ok requests ∧
    made = (requests.filterMap id).map fun c => (c, none)

/-- All changes were applied, and those that had nothing to be done were skipped. -/
def Completed (changes : List RowChange) (outcomes : List RowOutcome) (made : List Made) : Prop :=
  Issued target config dialect changes made ∧
    outcomes.map RowOutcome.isSkipped = changes.map fun change => decide (change.state = .none)

/-- The change at position `k` is the first that failed: those before it were
applied, it was not built or its call failed, and none after it was looked at. -/
def Stopped (changes : List RowChange) (k : Nat) (e : DbError) (made : List Made) : Prop :=
  ∃ before change after earlier own, changes = before ++ change :: after ∧ before.length = k ∧
    Issued target config dialect before earlier ∧ made = earlier ++ own ∧
    (target.request config dialect change = .error e ∧ own = [] ∨
      ∃ c, target.request config dialect change = .ok (some c) ∧ own = [(c, some e)])

end

section
variable {target : ChangeTarget} {config : Config} {dialect : Dialect} {changes rest : List RowChange}
  {change : RowChange} {made more : List Made}

/-- A change asks for no call just if its state says so. -/
theorem ChangeTarget.request_eq_none_iff :
    target.request config dialect change = .ok none ↔ change.state = .none := by
  have asks {built : Except DbError Statement} {c : Statement → Call} :
      (built.map fun s => some (c s)) ≠ .ok none := by
    cases built <;> intro h <;> cases h
  unfold ChangeTarget.request
  cases change.state with
  | none => simp
  | new | edit | remove => simpa using asks

/-- A change that was applied was built, made its call if it asks for one, and was
skipped if it does not. -/
theorem Treated.ok {outcome : RowOutcome}
    (h : Treated (target.request config dialect change) (.ok outcome) made) :
    ∃ request, target.request config dialect change = .ok request ∧
      made = request.toList.map (fun c => (c, none)) ∧
      outcome.isSkipped = decide (change.state = .none) := by
  have asks := @ChangeTarget.request_eq_none_iff target config dialect change
  generalize target.request config dialect change = request at h asks
  cases h with
  | skipped => exact ⟨none, rfl, rfl, (decide_eq_true (asks.mp rfl)).symm⟩
  | done written =>
    refine ⟨some _, rfl, rfl, written.trans (decide_eq_false ?_).symm⟩
    intro state
    cases asks.mpr state

theorem Treated.error {e : DbError}
    (h : Treated (target.request config dialect change) (.error e) made) :
    target.request config dialect change = .error e ∧ made = [] ∨
      ∃ c, target.request config dialect change = .ok (some c) ∧ made = [(c, some e)] := by
  generalize target.request config dialect change = request at h
  cases h with
  | refused => exact .inl ⟨rfl, rfl⟩
  | failed => exact .inr ⟨_, rfl, rfl⟩

theorem Issued.cons {request : Option Call} (first : target.request config dialect change = .ok request)
    (others : Issued target config dialect rest more) :
    Issued target config dialect (change :: rest) (request.toList.map (fun c => (c, none)) ++ more) := by
  obtain ⟨requests, built, rfl⟩ := others
  refine ⟨request :: requests, ?_, ?_⟩
  · rw [List.mapM_cons, first, built]
    rfl
  · cases request <;> rfl

/-- Changes are all applied, or those before the first that fails are. -/
theorem Applied.spec {index : Nat} {result : Except DbError (List RowOutcome)}
    (h : Applied target config dialect index changes result made) :
    (∃ outcomes, result = .ok outcomes ∧ Completed target config dialect changes outcomes made) ∨
    ∃ k e, result = .error (.change target.table (index + k) e) ∧
      Stopped target config dialect changes k e made := by
  -- The rest is applied from the next position on, so its failure is one further in the whole.
  induction h with
  | nil => exact .inl ⟨[], rfl, ⟨[], rfl, rfl⟩, rfl⟩
  | cons first _ ih =>
    obtain ⟨request, built, rfl, skipped⟩ := first.ok
    rcases ih with ⟨outcomes, rfl, issued, others⟩ | ⟨k, e, rfl, stopped⟩
    · refine .inl ⟨_, rfl, issued.cons built, ?_⟩
      rw [List.map_cons, List.map_cons, skipped, others]
    · obtain ⟨before, change, after, earlier, own, rfl, rfl, issued, rfl, last⟩ := stopped
      refine .inr ⟨before.length + 1, e, ?_, _ :: before, change, after, _, own, rfl, rfl,
        issued.cons built, ?_, last⟩
      · rw [Nat.add_assoc, Nat.add_comm 1]
        rfl
      · rw [List.append_assoc]
  | stop first =>
    exact .inr ⟨0, _, rfl, [], _, _, [], _, rfl, rfl, ⟨[], rfl, rfl⟩, rfl, first.error⟩

end

/-! ## Transactions -/

/-- A value, unless there is a failure. -/
def unlessFailed {α : Type} (failure : Option DbError) (a : α) : Except DbError α :=
  match failure with
  | none => .ok a
  | some e => .error e

/-- Work in a transaction, its end and the closing, one after the other on one world. -/
theorem Transaction.run_apply {α : Type} (tx : Transaction (StateM σ))
    (work : Transaction (StateM σ) → Effect σ α) (world : σ) :
    tx.run work world =
      let (worked, world) := work tx world
      let (finished, world) := tx.finish worked world
      let (closed, world) := tx.close world
      (finished.bind fun a => closed.map fun _ => a, world) := rfl

namespace Runs

variable {α : Type} {world world₁ world₂ : σ} {made more : List Entry}

/-- A call that ends a transaction, with the event that says so. -/
theorem ended (c : Call) (x : Effect σ Unit) (log : Event → StateM σ Unit) (e : Event) :
    Behaves (x >>= fun _ => liftM (log e)) (record c x >>= fun _ => liftM (recordLog log e))
      fun result made => ∃ failure, result = unlessFailed failure () ∧ made = [(c, failure)] := by
  intro world
  have called := call c x world
  rcases ran : x world with ⟨e | u, world₁⟩ <;> rw [ran] at called
  · exact ⟨_, _, _, called.bind_error, some e, rfl, rfl⟩
  · exact ⟨_, _, _, called.bind (event log e world₁), none, rfl, rfl⟩

/-- Work that succeeded is committed. -/
theorem finish_ok (tx : Transaction (StateM σ)) (a : α) :
    Behaves (tx.finish (.ok a)) (tx.recorded.finish (.ok a)) fun result made =>
      ∃ failure, result = unlessFailed failure a ∧ made = [(.commit, failure)] := by
  intro world
  obtain ⟨_, world', made, run, failure, rfl, called⟩ :=
    ended .commit tx.transport.commit tx.log (.transaction .commit) world
  refine ⟨_, world', made, run.map fun _ => a, failure, ?_, called⟩
  cases failure <;> rfl

/-- Work that failed is rolled back. -/
theorem finish_error (tx : Transaction (StateM σ)) (e : DbError) :
    Behaves (tx.finish (.error e : Except DbError α)) (tx.recorded.finish (.error e)) fun result made =>
      ∃ failure, result = .error (failure.elim e (.rollbackFailed e)) ∧
        made = [(.rollback, failure)] := by
  intro world
  obtain ⟨_, world', made, run, failure, rfl, called⟩ :=
    ended .rollback tx.transport.rollback tx.log (.transaction .rollback) world
  have adapted := run.adapt fun undo => .rollbackFailed e undo
  cases failure with
  | some undo => exact ⟨_, world', made, adapted.bind_error, some undo, rfl, called⟩
  | none =>
    refine ⟨_, world', made ++ [], adapted.bind (error e world'), none, rfl, ?_⟩
    rw [List.append_nil]
    exact called

/-- A transaction is closed last, and that it could not be is reported only if there
is no other error. -/
theorem run {tx : Transaction (StateM σ)} {worked finished : Except DbError α}
    (work : Transaction (StateM σ) → Effect σ α)
    (work' : Transaction (StateM (Recorded σ)) → Effect (Recorded σ) α)
    (hw : Runs (work tx) (work' tx.recorded) world worked world₁ made)
    (hf : Runs (tx.finish worked) (tx.recorded.finish worked) world₁ finished world₂ more) :
    ∃ failure world₃, Runs (tx.run work) (tx.recorded.run work') world
      (finished.bind (unlessFailed failure)) world₃ (made ++ more ++ [.call .close failure]) := by
  have closing : Runs tx.close tx.recorded.close world₂ _ _ _ := call .close tx.transport.close world₂
  have reported (closed : Except DbError Unit) :
      (finished.bind fun a => closed.map fun _ => a) = finished.bind (unlessFailed (failure? closed)) := by
    cases finished <;> cases closed <;> rfl
  refine ⟨failure? (tx.transport.close world₂).1, (tx.transport.close world₂).2, ?_, fun before => ?_⟩
  · rw [Transaction.run_apply, hw.plain]
    simp only [hf.plain, closing.plain, reported]
  · rw [Transaction.run_apply, hw.recorded]
    simp only [hf.recorded, closing.recorded, reported, List.append_assoc]

variable {database : Database (StateM σ)} {work : Transaction (StateM σ) → Effect σ α}
  {work' : Transaction (StateM (Recorded σ)) → Effect (Recorded σ) α}

/-- Without a transaction there is no work. -/
theorem transact_error {e : DbError} (begun : database.connection.begin world = (.error e, world₁)) :
    Runs (database.transact work) (database.recorded.transact work') world (.error e) world₁
      [.call .begin (some e)] := by
  refine ⟨?_, fun before => ?_⟩
  · rw [Database.transact, Effect.bind_apply, Database.begin, Effect.bind_apply, begun]
  · have recorded : database.recorded.connection.begin (world, before) = _ :=
      Connection.begin_recorded database.connection world before
    rw [begun] at recorded
    rw [Database.transact, Effect.bind_apply, Database.begin, Effect.bind_apply, recorded]
    rfl

/-- Work is done in the transaction that was begun. -/
theorem transact_ok {transport : TransactionTransport (StateM σ)} {result : Except DbError α}
    (begun : database.connection.begin world = (.ok transport, world₁))
    (h : Runs (Transaction.run ⟨transport, database.config, database.log⟩ work)
      ((Transaction.recorded ⟨transport, database.config, database.log⟩).run work')
      (database.log (.transaction .begin) world₁).2 result world₂ made) :
    Runs (database.transact work) (database.recorded.transact work') world result world₂
      (.call .begin none :: .event (.transaction .begin) :: made) := by
  refine ⟨?_, fun before => ?_⟩
  · rw [Database.transact, Effect.bind_apply, Database.begin, Effect.bind_apply, begun]
    exact h.plain
  · have recorded : database.recorded.connection.begin (world, before) = _ :=
      Connection.begin_recorded database.connection world before
    rw [begun] at recorded
    rw [Database.transact, Effect.bind_apply, Database.begin, Effect.bind_apply, recorded]
    refine (h.recorded _).trans ?_
    rw [List.append_assoc, List.append_assoc]
    rfl

end Runs

/-! ## Change sets -/

/-- The calls of a transaction: those of the work, between its begin and its end. -/
theorem calls_transaction {made more : List Entry} {ending : Made} (h : calls more = [ending])
    (e : Event) (closing : Option DbError) :
    calls (.call .begin none :: .event e :: (made ++ more ++ [.call .close closing])) =
      (.begin, none) :: calls made ++ [ending, (.close, closing)] := by
  change (Call.begin, none) :: calls (made ++ more ++ [.call .close closing]) = _
  rw [calls_append, calls_append, h, List.append_assoc]
  rfl

/-- **Changes are applied in order, and all or none of them for good.** Recording
changes nothing. If no transaction could be begun, nothing else is called. Otherwise
the calls of statements are followed by one that ends the transaction and by the one
that closes it. Either all changes were made, and the end is the commit; or there is
a first that failed, and the end is the rollback. An error of the end is reported,
and one of the closing if there is no other. -/
theorem changes_apply_all_or_none (database : Database (StateM σ)) (target : ChangeTarget)
    (changes : List RowChange) (world : σ) :
    ∃ result world' record,
      database.applyChanges target changes world = (result, world') ∧
      database.recorded.applyChanges target changes (world, []) = (result, world', record) ∧
      match (database.connection.begin world).1 with
      | .error e => result = .error e ∧ calls record = [(.begin, some e)]
      | .ok tx =>
        ∃ statements ending closing,
          calls record = (.begin, none) :: statements ++ [ending, (.close, closing)] ∧
          ((∃ outcomes committing, ending = (.commit, committing) ∧
              Completed target database.config tx.dialect changes outcomes statements ∧
              result = match committing, closing with
                | none, none => .ok outcomes
                | some e, _ => .error e
                | none, some e => .error e) ∨
            ∃ k e undoing, ending = (.rollback, undoing) ∧
              Stopped target database.config tx.dialect changes k e statements ∧
              result = match undoing with
                | none => .error (.change target.table k e)
                | some undo => .error (.rollbackFailed (.change target.table k e) undo)) := by
  rcases begun : database.connection.begin world with ⟨e | transport, world₁⟩
  · have run : Runs (database.applyChanges target changes)
        (database.recorded.applyChanges target changes) world _ _ _ := Runs.transact_error begun
    exact ⟨_, _, _, run.plain, run.recorded [], rfl, rfl⟩
  · let tx : Transaction (StateM σ) := ⟨transport, database.config, database.log⟩
    obtain ⟨worked, world₂, made, work, applied⟩ :=
      Applied.applyFrom tx.db target 0 changes (database.log (.transaction .begin) world₁).2
    rcases applied.spec with ⟨outcomes, rfl, completed⟩ | ⟨k, e, failed, stopped⟩
    · obtain ⟨_, world₃, more, finish, committing, rfl, committed⟩ :=
        Runs.finish_ok tx outcomes world₂
      obtain ⟨closing, world₄, run⟩ := Runs.run (fun tx => tx.db.applyEach target changes)
        (fun tx => tx.db.applyEach target changes) work finish
      have whole := Runs.transact_ok begun run
      refine ⟨_, _, _, whole.plain, whole.recorded [], calls made, (.commit, committing), closing, ?_,
        .inl ⟨outcomes, committing, rfl, completed, ?_⟩⟩
      · exact calls_transaction committed _ closing
      · cases committing <;> cases closing <;> rfl
    · rw [Nat.zero_add] at failed
      subst failed
      obtain ⟨_, world₃, more, finish, undoing, rfl, undone⟩ :=
        Runs.finish_error tx (.change target.table k e) world₂
      obtain ⟨closing, world₄, run⟩ := Runs.run (fun tx => tx.db.applyEach target changes)
        (fun tx => tx.db.applyEach target changes) work finish
      have whole := Runs.transact_ok begun run
      refine ⟨_, _, _, whole.plain, whole.recorded [], calls made, (.rollback, undoing), closing, ?_,
        .inr ⟨k, e, undoing, rfl, stopped, ?_⟩⟩
      · exact calls_transaction undone _ closing
      · cases undoing <;> rfl

end SqlBind
