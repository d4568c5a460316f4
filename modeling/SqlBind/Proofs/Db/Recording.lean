/-
Databases that are watched. Whatever a database does on its world, each call that
is made of it is written down, with the error it fails with if it does, and so is
each event of the log, in one list. Recording changes neither results nor worlds;
it only makes visible what was called and in which order.
-/
import SqlBind.Db.Transaction
import SqlBind.Proofs.Db.Runs

namespace SqlBind

/-- A call to a database. -/
inductive Call where
  | begin
  | query (s : Statement)
  | pageQuery (page : Page) (s : Statement)
  | execute (s : Statement)
  | call (s : Statement)
  | travel (s : Statement)
  | commit
  | rollback
  | close

/-- An entry of the record. -/
inductive Entry where
  | event (e : Event)
  /-- A call, and the error if it failed. -/
  | call (c : Call) (failure : Option DbError)

/-- A call that was made, and the error if it failed. -/
abbrev Made := Call × Option DbError

def Entry.call? : Entry → Option Made
  | .event _ => none
  | .call c failure => some (c, failure)

/-- The calls of a record. -/
def calls (record : List Entry) : List Made := record.filterMap Entry.call?

theorem calls_append (xs ys : List Entry) : calls (xs ++ ys) = calls xs ++ calls ys :=
  List.filterMap_append

/-- A world with a record. -/
abbrev Recorded (σ : Type) := σ × List Entry

variable {σ α β : Type}

/-- The error of a result, if it is one. -/
def failure? : Except DbError α → Option DbError
  | .ok _ => none
  | .error e => some e

/-- A call that is written down when it is over. -/
def record (c : Call) (x : Effect σ α) : Effect (Recorded σ) α :=
  fun (world, record) =>
    let (result, world) := x world
    (result, world, record ++ [.call c (failure? result)])

def recordLog (log : Event → StateM σ Unit) (e : Event) : StateM (Recorded σ) Unit :=
  fun (world, record) =>
    let (_, world) := log e world
    ((), world, record ++ [.event e])

/-- A visitor on the world alone. What it does to a record is not kept. -/
def Visitor.unrecorded (visit : Visitor (StateM (Recorded σ))) : Visitor (StateM σ) :=
  fun row columns world =>
    let (flow, world, _) := visit row columns (world, [])
    (flow, world)

def Transport.recorded (t : Transport (StateM σ)) : Transport (StateM (Recorded σ)) where
  dialect := t.dialect
  query timeout s := record (.query s) (t.query timeout s)
  pageQuery page timeout s := record (.pageQuery page s) (t.pageQuery page timeout s)
  execute timeout s := record (.execute s) (t.execute timeout s)
  call timeout s := record (.call s) (t.call timeout s)
  travel visit timeout s := record (.travel s) (t.travel visit.unrecorded timeout s)

def TransactionTransport.recorded (t : TransactionTransport (StateM σ)) :
    TransactionTransport (StateM (Recorded σ)) where
  toTransport := t.toTransport.recorded
  commit := record .commit t.commit
  rollback := record .rollback t.rollback
  close := record .close t.close

def Connection.recorded (c : Connection (StateM σ)) : Connection (StateM (Recorded σ)) where
  toTransport := c.toTransport.recorded
  begin := TransactionTransport.recorded <$> record .begin c.begin

theorem Connection.begin_recorded (c : Connection (StateM σ)) (world : σ) (before : List Entry) :
    c.recorded.begin (world, before) =
      ((c.begin world).1.map TransactionTransport.recorded, (c.begin world).2,
        before ++ [.call .begin (failure? (c.begin world).1)]) :=
  Effect.map_apply _ (record .begin c.begin) (world, before)

def Db.recorded (db : Db (StateM σ)) : Db (StateM (Recorded σ)) where
  transport := db.transport.recorded
  config := db.config
  log := recordLog db.log

def Transaction.recorded (tx : Transaction (StateM σ)) : Transaction (StateM (Recorded σ)) where
  transport := tx.transport.recorded
  config := tx.config
  log := recordLog tx.log

/-- The database, with a record of every call and every event. -/
def Database.recorded (database : Database (StateM σ)) : Database (StateM (Recorded σ)) where
  connection := database.connection.recorded
  config := database.config
  log := recordLog database.log

/-! ## Runs -/

namespace Runs

theorem call (c : Call) (x : Effect σ α) (world : σ) :
    Runs x (record c x) world (x world).1 (x world).2 [.call c (failure? (x world).1)] :=
  ⟨rfl, fun _ => rfl⟩

theorem event (log : Event → StateM σ Unit) (e : Event) (world : σ) :
    Runs (liftM (log e) : Effect σ Unit) (liftM (recordLog log e) : Effect (Recorded σ) Unit) world
      (.ok ()) (log e world).2 [.event e] :=
  ⟨rfl, fun _ => rfl⟩

/-- A statement that is handed over is logged and then called with, once each. -/
theorem hand (db : Db (StateM σ)) (operation : Operation) (s : Statement) (c : Statement → Call)
    (x : Option Duration → Statement → Effect σ α) (world : σ) :
    ∃ result world', Runs (db.hand operation s x)
      (db.recorded.hand operation s fun timeout s => record (c s) (x timeout s)) world result world'
      [.event (db.config.event operation db.transport.dialect (db.config.stage s)),
        .call (c (db.config.stage s)) (failure? result)] :=
  ⟨_, _, (event db.log _ world).bind (call _ _ _)⟩

end Runs

/-- From every world, a computation and its recorded form end with a result, and with
calls that are made, as described. -/
def Behaves (x : Effect σ α) (x' : Effect (Recorded σ) α)
    (P : Except DbError α → List Made → Prop) : Prop :=
  ∀ world, ∃ result world' made, Runs x x' world result world' made ∧ P result (calls made)

end SqlBind
