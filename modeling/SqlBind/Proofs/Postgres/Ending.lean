/-
Callers who end one transaction at the same time. Each has a call and what is left
of it; a schedule says who takes the next step, when new callers come and what happens
to the world meanwhile. Until the mark is set everyone waits. Who finds it unset when
setting it is the winner and alone sends a command; all others find it set, look
or claim as they may, and are through without sending (`Stage.act`). So it is along every
schedule (`Stage.run`), whatever the server answers.
-/
import SqlBind.Proofs.Postgres.Watched

namespace SqlBind.Postgres

/-! ## Calls and their steps -/

section
variable {m : Type → Type} [Monad m]

/-- The ways to end a transaction. -/
inductive EndCall where
  | commit
  | rollback
  | close

/-- The command that a call sends, if it sends any. -/
def EndCall.command : EndCall → EndCommand
  | .commit => .commit
  | .rollback | .close => .rollback

/-- What is to be done for a call. -/
def EndCall.start : EndCall → Ending
  | .commit => .claim .commit
  | .rollback => .claim .rollback
  | .close => .look

def EndCall.perform (tx : TransactionTransport m) : EndCall → ExceptT DbError m Unit
  | .commit => tx.commit
  | .rollback => tx.rollback
  | .close => tx.close

/-- One step, taken at once. -/
def Ending.step (latch : Latch m) (send : EndCommand → ExceptT DbError m Unit) : Ending → m Ending
  | .look => looked <$> latch.isSet
  | .claim command => claimed command <$> latch.set
  | .send command => .done <$> (send command).run
  | .done result => pure (.done result)

theorem EndCall.perform_open (server : Server m) (latch : Latch m) (call : EndCall) :
    call.perform (server.openTransaction latch) =
      Ending.run latch (fun command => server.send command.sql) call.start := by
  cases call <;> rfl

/-- **To take all steps is to take one and then all others.** -/
theorem Ending.run_eq_step [LawfulMonad m] (latch : Latch m)
    (send : EndCommand → ExceptT DbError m Unit) (left : Ending) :
    (Ending.run latch send left).run =
      left.step latch send >>= fun left => (Ending.run latch send left).run := by
  have returns : ∀ result, (Ending.run latch send (.done result)).run = pure result := by
    intro result
    rw [Ending.run]
    rfl
  cases left with
  | look =>
    rw [Ending.run, step, bind_map_left]
    exact ExceptT.run_bind_lift latch.isSet _
  | claim command =>
    rw [Ending.run, step, bind_map_left]
    exact ExceptT.run_bind_lift latch.set _
  | send command =>
    rw [Ending.run, step, bind_map_left]
    simp only [returns, bind_pure]
  | done result => rw [step, pure_bind]

end

/-! ## Callers and schedules -/

variable {σ : Type}

/-- Who ends a transaction: the call, and what is left of it. -/
structure Caller where
  call : EndCall
  left : Ending

/-- The callers of one transaction in a world, with a record of who set the mark and who
sent what. -/
structure Contest (σ : Type) where
  world : Watched σ
  callers : List Caller
  swaps : List Nat
  sends : List (Nat × EndCommand)

/-- What happens next: a new caller comes, a caller takes a step, or something else
changes the world. -/
inductive Turn (σ : Type) where
  | call (c : EndCall)
  | step (i : Nat)
  | meanwhile (change : σ → σ)

/-- Whether it is a step of the caller. -/
def Turn.steps (i : Nat) : Turn σ → Bool
  | .step j => i = j
  | _ => false

namespace Contest

/-- Before anyone has come. -/
def opened (world : Watched σ) : Contest σ := ⟨world, [], [], []⟩

variable (server : Server (StateM σ)) (k : Nat)

/-- How the end of a transaction on the server is sent. -/
def sending (command : EndCommand) : Effect (Watched σ) Unit := server.watched.send command.sql

/-- A caller of the transaction with mark `k` takes a step. -/
def act (c : Contest σ) (i : Nat) : Contest σ :=
  match c.callers[i]? with
  | none => c
  | some caller =>
    let (left, world) := caller.left.step (.ofMark k) (sending server) c.world
    { world
      callers := c.callers.set i ⟨caller.call, left⟩
      swaps := match caller.left with
        | .claim _ => c.swaps ++ [i]
        | _ => c.swaps
      sends := match caller.left with
        | .send command => c.sends ++ [(i, command)]
        | _ => c.sends }

def turn (c : Contest σ) : Turn σ → Contest σ
  | .call call => { c with callers := c.callers ++ [⟨call, call.start⟩] }
  | .step i => c.act server k i
  | .meanwhile change => { c with world := { c.world with world := change c.world.world } }

/-- What a schedule makes of a contest. -/
def run (c : Contest σ) (schedule : List (Turn σ)) : Contest σ := schedule.foldl (turn server k) c

end Contest

/-- What a step of caller `i` can do. -/
inductive Acts (k i : Nat) (c : Contest σ) : Contest σ → Prop
  | absent (here : c.callers[i]? = none) : Acts k i c c
  | look {call : EndCall} (here : c.callers[i]? = some ⟨call, .look⟩) :
    Acts k i c { c with callers := c.callers.set i ⟨call, .looked (c.world.marks k)⟩ }
  | claim {call : EndCall} {command : EndCommand}
    (here : c.callers[i]? = some ⟨call, .claim command⟩) :
    Acts k i c
      { c with
        world := c.world.setMark k
        callers := c.callers.set i ⟨call, .claimed command (c.world.marks k)⟩
        swaps := c.swaps ++ [i] }
  | send {call : EndCall} {command : EndCommand}
    (here : c.callers[i]? = some ⟨call, .send command⟩) (result : Except DbError Unit) (world : σ) :
    Acts k i c
      { c with
        world := { c.world with world, sent := c.world.sent ++ [command.sql] }
        callers := c.callers.set i ⟨call, .done result⟩
        sends := c.sends ++ [(i, command)] }
  | done {call : EndCall} {result : Except DbError Unit}
    (here : c.callers[i]? = some ⟨call, .done result⟩) : Acts k i c c

theorem Ending.step_send_apply (latch : Latch (StateM σ)) (send : EndCommand → Effect σ Unit)
    (command : EndCommand) (world : σ) :
    (Ending.send command).step latch send world =
      (.done (send command world).1, (send command world).2) := rfl

theorem act_cases (server : Server (StateM σ)) (k : Nat) (c : Contest σ) (i : Nat) :
    Acts k i c (c.act server k i) := by
  rw [Contest.act]
  cases here : c.callers[i]? with
  | none => exact .absent here
  | some caller =>
    obtain ⟨call, left⟩ := caller
    cases left with
    | look => exact .look here
    | claim command => exact .claim here
    | send command =>
      obtain ⟨result, world, sent⟩ := server.send_watched command.sql c.world
      have stepped : (Ending.send command).step (.ofMark k) (Contest.sending server) c.world =
          (.done result, { c.world with world, sent := c.world.sent ++ [command.sql] }) := by
        rw [Ending.step_send_apply, Contest.sending, sent]
      simp only [stepped]
      exact .send here result world
    | done result =>
      obtain ⟨inside, same⟩ := List.getElem?_eq_some_iff.mp here
      have unchanged : c.callers.set i ⟨call, .done result⟩ = c.callers := by
        rw [← same, List.set_getElem_self]
      have kept : ({ c with callers := c.callers.set i ⟨call, .done result⟩ } : Contest σ) = c := by
        rw [unchanged]
      change Acts k i c { c with callers := c.callers.set i ⟨call, .done result⟩ }
      rw [kept]
      exact .done here

/-! ## The stages of a contest -/

/-- A caller who has not tried to set the mark. -/
inductive Waiting : Caller → Prop
  | look : Waiting ⟨.close, .look⟩
  | claim (call : EndCall) : Waiting ⟨call, .claim call.command⟩

/-- A caller who is through and has sent nothing. -/
inductive Refused : Caller → Prop
  | looked : Refused ⟨.close, .done (.ok ())⟩
  | claimed (call : EndCall) : Refused ⟨call, .done (.error (.finished call.command))⟩

/-- A caller who has not set the mark first. -/
def Idle (caller : Caller) : Prop := Waiting caller ∨ Refused caller

/-- The caller who set the mark first, before and after sending, and what was sent. -/
inductive Wins (winner : Nat) : Caller → List (Nat × EndCommand) → Prop
  | sends (call : EndCall) : Wins winner ⟨call, .send call.command⟩ []
  | sent (call : EndCall) (result : Except DbError Unit) :
    Wins winner ⟨call, .done result⟩ [(winner, call.command)]

/-- How far a contest has come. -/
inductive Stage (k : Nat) (c : Contest σ) : Prop
  | unclaimed (mark : c.world.marks k = false) (swaps : c.swaps = []) (sends : c.sends = [])
    (waiting : ∀ (i : Nat) (caller : Caller), c.callers[i]? = some caller → Waiting caller)
  | claimed (winner : Nat) (caller : Caller) (mark : c.world.marks k = true)
    (swaps : c.swaps.head? = some winner) (here : c.callers[winner]? = some caller)
    (wins : Wins winner caller c.sends)
    (others : ∀ (i : Nat) (other : Caller), i ≠ winner → c.callers[i]? = some other → Idle other)

theorem waiting_start (call : EndCall) : Waiting ⟨call, call.start⟩ := by
  cases call with
  | commit => exact .claim .commit
  | rollback => exact .claim .rollback
  | close => exact .look

namespace Idle

variable {call : EndCall} {command : EndCommand}

theorem of_look (idle : Idle ⟨call, .look⟩) : call = .close := by
  rcases idle with waits | refused
  · cases waits
    rfl
  · cases refused

theorem of_claim (idle : Idle ⟨call, .claim command⟩) : command = call.command := by
  rcases idle with waits | refused
  · cases waits
    rfl
  · cases refused

theorem not_send : ¬Idle ⟨call, .send command⟩ := by
  rintro (waits | refused)
  · cases waits
  · cases refused

end Idle

section
variable {α : Type} {xs : List α} {i j : Nat} {a b : α}

theorem getElem?_set_cases (h : (xs.set i a)[j]? = some b) :
    j = i ∧ b = a ∨ j ≠ i ∧ xs[j]? = some b := by
  rw [List.getElem?_set] at h
  by_cases same : i = j
  · rw [if_pos same] at h
    split at h
    · exact .inl ⟨same.symm, (Option.some.inj h).symm⟩
    · cases h
  · rw [if_neg same] at h
    exact .inr ⟨Ne.symm same, h⟩

theorem getElem?_set_of_some (h : xs[i]? = some b) (a : α) : (xs.set i a)[i]? = some a :=
  List.getElem?_set_self (List.getElem?_eq_some_iff.mp h).1

theorem getElem?_append_of_some (h : xs[i]? = some b) (ys : List α) : (xs ++ ys)[i]? = some b := by
  rw [List.getElem?_append_left (List.getElem?_eq_some_iff.mp h).1, h]

theorem getElem?_concat_cases (h : (xs ++ [a])[j]? = some b) : xs[j]? = some b ∨ b = a := by
  rcases Nat.lt_or_ge j xs.length with inside | outside
  · rw [List.getElem?_append_left inside] at h
    exact .inl h
  · rw [List.getElem?_append_right outside] at h
    cases new : j - xs.length with
    | zero =>
      rw [new] at h
      exact .inr (Option.some.inj h).symm
    | succ n =>
      rw [new] at h
      cases h

end

namespace Stage

variable {k : Nat} {c c' : Contest σ}

theorem opened {world : Watched σ} (mark : world.marks k = false) : Stage k (Contest.opened world) :=
  .unclaimed mark rfl rfl fun _ _ h => by cases h

/-- Before the mark is set a caller looks in vain or sets it. -/
theorem act_unclaimed (mark : c.world.marks k = false) (swaps : c.swaps = []) (sends : c.sends = [])
    (waiting : ∀ (i : Nat) (caller : Caller), c.callers[i]? = some caller → Waiting caller)
    {i : Nat} (acts : Acts k i c c') : Stage k c' := by
  have others : ∀ {caller : Caller} (j : Nat) (other : Caller), j ≠ i →
      (c.callers.set i caller)[j]? = some other → Waiting other := by
    intro caller j other apart found
    rcases getElem?_set_cases found with ⟨same, -⟩ | ⟨-, old⟩
    · exact absurd same apart
    · exact waiting j other old
  cases acts with
  | absent | done => exact .unclaimed mark swaps sends waiting
  | @look call here =>
    obtain rfl := Idle.of_look (.inl (waiting i _ here))
    rw [mark]
    refine .unclaimed mark swaps sends fun j other found => ?_
    by_cases same : j = i
    · subst same
      rw [getElem?_set_of_some here] at found
      cases found
      exact .claim .close
    · exact others j other same found
  | @claim call command here =>
    obtain rfl := Idle.of_claim (.inl (waiting i _ here))
    rw [mark]
    refine .claimed i _ (if_pos rfl) (by rw [swaps]; rfl) (getElem?_set_of_some here _) ?_
      fun j other apart found => .inl (others j other apart found)
    change Wins i _ c.sends
    rw [sends]
    exact .sends call
  | send here => exact absurd (.inl (waiting i _ here)) Idle.not_send

/-- Once the mark is set, the winner sends its command and all others are refused. -/
theorem act_claimed {winner : Nat} {caller : Caller} (mark : c.world.marks k = true)
    (swaps : c.swaps.head? = some winner) (here : c.callers[winner]? = some caller)
    (wins : Wins winner caller c.sends)
    (others : ∀ (i : Nat) (other : Caller), i ≠ winner → c.callers[i]? = some other → Idle other)
    {i : Nat} (acts : Acts k i c c') : Stage k c' := by
  -- Another than the winner took the step, and is still idle after it.
  have rest : ∀ {next : Caller}, Idle next → ∀ (j : Nat) (other : Caller), j ≠ winner →
      (c.callers.set i next)[j]? = some other → Idle other := by
    intro next idle j other apart found
    rcases getElem?_set_cases found with ⟨-, rfl⟩ | ⟨-, old⟩
    · exact idle
    · exact others j other apart old
  have still : ∀ {next : Caller}, i ≠ winner → (c.callers.set i next)[winner]? = some caller := by
    intro next apart
    rw [List.getElem?_set_ne apart, here]
  cases acts with
  | absent | done => exact .claimed winner caller mark swaps here wins others
  | look its =>
    have apart : i ≠ winner := by
      rintro rfl
      cases here.symm.trans its
      cases wins
    obtain rfl := (others i _ apart its).of_look
    rw [mark]
    exact .claimed winner caller mark swaps (still apart) wins (rest (.inr .looked))
  | @claim call command its =>
    have apart : i ≠ winner := by
      rintro rfl
      cases here.symm.trans its
      cases wins
    obtain rfl := (others i _ apart its).of_claim
    rw [mark]
    refine .claimed winner caller (if_pos rfl) ?_ (still apart) wins (rest (.inr (.claimed call)))
    rw [List.head?_append, swaps]
    rfl
  | @send call command its result world =>
    obtain rfl : i = winner :=
      Decidable.byContradiction fun apart => Idle.not_send (others i _ apart its)
    obtain ⟨rfl, none⟩ : command = call.command ∧ c.sends = [] := by
      cases here.symm.trans its
      generalize c.sends = sends at wins
      cases wins
      exact ⟨rfl, rfl⟩
    refine .claimed i ⟨call, .done result⟩ mark swaps (getElem?_set_of_some its _) ?_
      fun j other apart found => ?_
    · change Wins i _ (c.sends ++ [(i, call.command)])
      rw [none]
      exact .sent call result
    · rcases getElem?_set_cases found with ⟨same, -⟩ | ⟨-, old⟩
      · exact absurd same apart
      · exact others j other apart old

/-- One step leads from stage to stage. -/
theorem act (stage : Stage k c) {i : Nat} (acts : Acts k i c c') : Stage k c' := by
  cases stage with
  | unclaimed mark swaps sends waiting => exact act_unclaimed mark swaps sends waiting acts
  | claimed winner caller mark swaps here wins others =>
    exact act_claimed mark swaps here wins others acts

theorem turn (server : Server (StateM σ)) (stage : Stage k c) (t : Turn σ) :
    Stage k (c.turn server k t) := by
  cases t with
  | step i => exact stage.act (act_cases server k c i)
  | meanwhile change =>
    cases stage with
    | unclaimed mark swaps sends waiting => exact .unclaimed mark swaps sends waiting
    | claimed winner caller mark swaps here wins others =>
      exact .claimed winner caller mark swaps here wins others
  | call call =>
    cases stage with
    | unclaimed mark swaps sends waiting =>
      refine .unclaimed mark swaps sends fun j other found => ?_
      rcases getElem?_concat_cases found with old | rfl
      · exact waiting j other old
      · exact waiting_start call
    | claimed winner caller mark swaps here wins others =>
      refine .claimed winner caller mark swaps (getElem?_append_of_some here _) wins
        fun j other apart found => ?_
      rcases getElem?_concat_cases found with old | rfl
      · exact others j other apart old
      · exact .inl (waiting_start call)

/-- **Every schedule leads from stage to stage.** -/
theorem run (server : Server (StateM σ)) (stage : Stage k c) (schedule : List (Turn σ)) :
    Stage k (c.run server k schedule) := by
  induction schedule generalizing c with
  | nil => exact stage
  | cons t rest ih => exact ih (stage.turn server t)

end Stage

/-! ## What is never undone -/

/-- What a contest keeps as it goes on: a set mark, who set it, what callers returned, and
what was sent. -/
structure Later (k : Nat) (c c' : Contest σ) : Prop where
  mark : c.world.marks k = true → c'.world.marks k = true
  swaps : c.swaps <+: c'.swaps
  returned : ∀ (i : Nat) (call : EndCall) (result : Except DbError Unit),
    c.callers[i]? = some ⟨call, .done result⟩ → c'.callers[i]? = some ⟨call, .done result⟩
  /-- What is sent is what callers send. -/
  sent : ∃ more : List (Nat × EndCommand), c'.sends = c.sends ++ more ∧
    c'.world.sent = c.world.sent ++ more.map fun send => send.2.sql

namespace Later

variable {k : Nat} {c c' c'' : Contest σ}

theorem refl (c : Contest σ) : Later k c c :=
  ⟨id, List.prefix_refl _, fun _ _ _ => id, [], by simp, by simp⟩

theorem trans (first : Later k c c') (second : Later k c' c'') : Later k c c'' := by
  obtain ⟨more, sends, sent⟩ := first.sent
  obtain ⟨others, sends', sent'⟩ := second.sent
  refine ⟨second.mark ∘ first.mark, first.swaps.trans second.swaps,
    fun i call result => second.returned i call result ∘ first.returned i call result,
    more ++ others, ?_, ?_⟩
  · rw [sends', sends, List.append_assoc]
  · rw [sent', sent, List.map_append, List.append_assoc]

/-- Who takes a step has not returned. -/
theorem returned_set {i : Nat} {caller next : Caller} (here : c.callers[i]? = some caller)
    (busy : ∀ call result, caller ≠ ⟨call, .done result⟩) (j : Nat) (call : EndCall)
    (result : Except DbError Unit) (its : c.callers[j]? = some ⟨call, .done result⟩) :
    (c.callers.set i next)[j]? = some ⟨call, .done result⟩ := by
  have apart : i ≠ j := by
    rintro rfl
    exact busy call result (Option.some.inj (here.symm.trans its))
  rw [List.getElem?_set_ne apart, its]

theorem act {i : Nat} (acts : Acts k i c c') : Later k c c' := by
  cases acts with
  | absent | done => exact refl c
  | look here =>
    exact ⟨id, List.prefix_refl _, returned_set here (by rintro _ _ ⟨⟩), [], by simp, by simp⟩
  | claim here =>
    exact ⟨fun _ => if_pos rfl, List.prefix_append _ _, returned_set here (by rintro _ _ ⟨⟩), [],
      by simp, by simp [Watched.setMark]⟩
  | @send call command here =>
    exact ⟨id, List.prefix_refl _, returned_set here (by rintro _ _ ⟨⟩), [(i, command)], rfl, rfl⟩

theorem turn (server : Server (StateM σ)) (c : Contest σ) (t : Turn σ) :
    Later k c (c.turn server k t) := by
  cases t with
  | step i => exact act (act_cases server k c i)
  | meanwhile change =>
    exact ⟨id, List.prefix_refl _, fun _ _ _ => id, [], (List.append_nil _).symm,
      (List.append_nil _).symm⟩
  | call call =>
    exact ⟨id, List.prefix_refl _, fun _ _ _ here => getElem?_append_of_some here _, [],
      (List.append_nil _).symm, (List.append_nil _).symm⟩

theorem run (server : Server (StateM σ)) (c : Contest σ) (schedule : List (Turn σ)) :
    Later k c (c.run server k schedule) := by
  induction schedule generalizing c with
  | nil => exact refl c
  | cons t rest ih => exact (turn server c t).trans (ih _)

end Later

/-! ## Every caller returns -/

section
variable (server : Server (StateM σ)) (k : Nat)

/-- Its own step brings a caller nearer to its end, and no other turn takes it back. -/
theorem rank_turn {c : Contest σ} {i : Nat} {call : EndCall} {left : Ending}
    (here : c.callers[i]? = some ⟨call, left⟩) (t : Turn σ) :
    ∃ left', (c.turn server k t).callers[i]? = some ⟨call, left'⟩ ∧
      left'.rank ≤ left.rank - if t.steps i then 1 else 0 := by
  cases t with
  | meanwhile change => exact ⟨left, here, Nat.le_refl _⟩
  | call other => exact ⟨left, getElem?_append_of_some here _, Nat.le_refl _⟩
  | step j =>
    by_cases own : i = j
    · subst own
      have counted : (Turn.step i : Turn σ).steps i = true := decide_eq_true rfl
      rw [if_pos counted]
      change ∃ left', (c.act server k i).callers[i]? = some ⟨call, left'⟩ ∧ _
      have acts := act_cases server k c i
      generalize c.act server k i = next at acts ⊢
      cases acts with
      | absent none => cases none.symm.trans here
      | look its =>
        cases its.symm.trans here
        exact ⟨_, getElem?_set_of_some its _, Nat.le_of_lt_succ (Ending.rank_looked _)⟩
      | @claim _ command its =>
        cases its.symm.trans here
        exact ⟨_, getElem?_set_of_some its _, Nat.le_of_lt_succ (Ending.rank_claimed command _)⟩
      | send its =>
        cases its.symm.trans here
        exact ⟨_, getElem?_set_of_some its _, Nat.zero_le _⟩
      | done its =>
        cases its.symm.trans here
        exact ⟨_, its, Nat.zero_le _⟩
    · have apart : (Turn.step j : Turn σ).steps i = false := decide_eq_false own
      have others : (c.act server k j).callers[i]? = c.callers[i]? := by
        have acts := act_cases server k c j
        generalize c.act server k j = next at acts ⊢
        cases acts with
        | absent | done => rfl
        | look | claim | send => exact List.getElem?_set_ne (Ne.symm own)
      rw [apart]
      exact ⟨left, others.trans here, Nat.le_refl _⟩

theorem rank_run {c : Contest σ} {i : Nat} {call : EndCall} {left : Ending}
    (here : c.callers[i]? = some ⟨call, left⟩) (schedule : List (Turn σ)) :
    ∃ left', (c.run server k schedule).callers[i]? = some ⟨call, left'⟩ ∧
      left'.rank ≤ left.rank - schedule.countP (Turn.steps i) := by
  induction schedule generalizing c left with
  | nil => exact ⟨left, here, Nat.le_refl _⟩
  | cons t rest ih =>
    obtain ⟨next, there, less⟩ := rank_turn server k here t
    obtain ⟨last, found, least⟩ := ih there
    refine ⟨last, found, ?_⟩
    rw [List.countP_cons]
    omega

/-- **No caller waits for another**: three steps of its own bring it through. -/
theorem returns_of_steps {c : Contest σ} {i : Nat} {call : EndCall} {left : Ending}
    (here : c.callers[i]? = some ⟨call, left⟩) {schedule : List (Turn σ)}
    (steps : 3 ≤ schedule.countP (Turn.steps i)) :
    ∃ result, (c.run server k schedule).callers[i]? = some ⟨call, .done result⟩ := by
  obtain ⟨last, found, least⟩ := rank_run server k here schedule
  have through : last.rank = 0 := by
    have most : left.rank ≤ 3 := by cases left <;> simp [Ending.rank]
    omega
  cases last with
  | done result => exact ⟨result, found⟩
  | look | claim | send => cases through

end

/-! ## One end -/

/-- How a transaction with mark `k` ends, where `before` was sent before. -/
structure EndsOnce (k : Nat) (before : List String) (c : Contest σ) : Prop where
  /-- At most one command is sent, … -/
  once : c.sends.length ≤ 1
  /-- … which is `COMMIT` or `ROLLBACK`, and nothing else is, … -/
  sent : c.world.sent = before ++ c.sends.map fun send =>
    match send.2 with
    | .commit => "COMMIT"
    | .rollback => "ROLLBACK"
  /-- … by the caller who set the mark first, and for its own call, … -/
  first : ∀ (i : Nat) (command : EndCommand), (i, command) ∈ c.sends → c.swaps.head? = some i ∧
    ∃ call result, c.callers[i]? = some ⟨call, .done result⟩ ∧ call.command = command
  /-- … which it has sent when it returns. -/
  winner : ∀ (i : Nat) (call : EndCall) (result : Except DbError Unit), c.swaps.head? = some i →
    c.callers[i]? = some ⟨call, .done result⟩ → c.sends = [(i, call.command)]
  /-- A commit that comes first sends `COMMIT`, … -/
  committed : ∀ (i : Nat) (result : Except DbError Unit), c.swaps.head? = some i →
    c.callers[i]? = some ⟨.commit, .done result⟩ → c.world.sent = before ++ ["COMMIT"]
  /-- … and a rollback or a close that does sends `ROLLBACK`. -/
  undone : ∀ (i : Nat) (call : EndCall) (result : Except DbError Unit), c.swaps.head? = some i →
    c.callers[i]? = some ⟨call, .done result⟩ → call ≠ .commit →
      c.world.sent = before ++ ["ROLLBACK"]
  /-- Every other commit and rollback that returns is refused, … -/
  refused : ∀ (i : Nat) (call : EndCall) (result : Except DbError Unit), c.swaps.head? ≠ some i →
    c.callers[i]? = some ⟨call, .done result⟩ → call ≠ .close →
      result = .error (.finished call.command) ∧ (DbError.finished call.command).kind = .other
  /-- … and every other close is or has nothing to do. -/
  closed : ∀ (i : Nat) (result : Except DbError Unit), c.swaps.head? ≠ some i →
    c.callers[i]? = some ⟨.close, .done result⟩ →
      result = .ok () ∨ result = .error (.finished .rollback)
  /-- Who has returned leaves the mark set. -/
  finished : ∀ (i : Nat) (call : EndCall) (result : Except DbError Unit),
    c.callers[i]? = some ⟨call, .done result⟩ → c.world.marks k = true

theorem Stage.endsOnce {k : Nat} {before : List String} {c : Contest σ} (stage : Stage k c)
    (sent : c.world.sent = before ++ c.sends.map fun send => send.2.sql) : EndsOnce k before c := by
  cases stage with
  | unclaimed mark swaps sends waiting =>
    have nobody : ∀ (i : Nat) (call : EndCall) (result : Except DbError Unit),
        c.callers[i]? ≠ some ⟨call, .done result⟩ := by
      intro i call result here
      cases waiting i _ here
    refine ⟨by simp [sends], sent, ?_, ?_, ?_, ?_, ?_, ?_, ?_⟩
    · intro i command mem
      rw [sends] at mem
      cases mem
    · exact fun i call result _ here => absurd here (nobody i call result)
    · exact fun i result _ here => absurd here (nobody i .commit result)
    · exact fun i call result _ here => absurd here (nobody i call result)
    · exact fun i call result _ here => absurd here (nobody i call result)
    · exact fun i result _ here => absurd here (nobody i .close result)
    · exact fun i call result here => absurd here (nobody i call result)
  | claimed winner caller mark swaps here wins others =>
    have other : ∀ {i : Nat} {call : EndCall} {result : Except DbError Unit},
        c.swaps.head? ≠ some i → c.callers[i]? = some ⟨call, .done result⟩ →
          Refused ⟨call, .done result⟩ := by
      intro i call result lost its
      have apart : i ≠ winner := by
        rintro rfl
        exact lost swaps
      rcases others i _ apart its with waits | refused
      · cases waits
      · exact refused
    have won : ∀ {i : Nat} {call : EndCall} {result : Except DbError Unit},
        c.swaps.head? = some i → c.callers[i]? = some ⟨call, .done result⟩ →
          c.sends = [(i, call.command)] ∧ c.world.sent = before ++ [call.command.sql] := by
      intro i call result its found
      cases swaps.symm.trans its
      cases here.symm.trans found
      rw [sent]
      generalize c.sends = sends at wins
      cases wins
      exact ⟨rfl, rfl⟩
    refine ⟨?_, sent, ?_, fun i call result its found => (won its found).1,
      fun i result its found => (won its found).2, ?_, ?_, ?_, fun _ _ _ _ => mark⟩
    · generalize c.sends = sends at wins
      cases wins <;> simp
    · intro i command mem
      generalize c.sends = sends at wins mem
      cases wins with
      | sends call => cases mem
      | sent call result =>
        cases List.mem_singleton.mp mem
        exact ⟨swaps, call, result, here, rfl⟩
    · intro i call result its found notCommit
      cases call with
      | commit => exact absurd rfl notCommit
      | rollback | close => exact (won its found).2
    · intro i call result lost its notClose
      cases other lost its with
      | looked => exact absurd rfl notClose
      | claimed => exact ⟨rfl, rfl⟩
    · intro i result lost its
      generalize same : EndCall.close = call at its
      cases other lost its with
      | looked => exact .inl rfl
      | claimed =>
        subst same
        exact .inr rfl

/-- A caller who finds the mark set when closing returns at once and sends nothing, then
or ever. -/
theorem Stage.closes {k : Nat} {c : Contest σ} (stage : Stage k c) (server : Server (StateM σ))
    {i : Nat} (here : c.callers[i]? = some ⟨.close, .look⟩) (mark : c.world.marks k = true) :
    c.act server k i = { c with callers := c.callers.set i ⟨.close, .done (.ok ())⟩ } ∧
    ∀ schedule,
      ((c.act server k i).run server k schedule).callers[i]? = some ⟨.close, .done (.ok ())⟩ ∧
      ∀ command, (i, command) ∉ ((c.act server k i).run server k schedule).sends := by
  have looked : c.act server k i = { c with callers := c.callers.set i ⟨.close, .done (.ok ())⟩ } := by
    have acts := act_cases server k c i
    generalize c.act server k i = next at acts ⊢
    cases acts with
    | look its =>
      cases here.symm.trans its
      rw [mark]
      rfl
    | absent its | claim its | send its | done its => cases here.symm.trans its
  refine ⟨looked, fun schedule => ⟨?_, fun command mem => ?_⟩⟩
  · refine (Later.run server _ schedule : Later k _ _).returned i .close (.ok ()) ?_
    rw [looked]
    exact getElem?_set_of_some here _
  · -- The winner is another caller, and stays so.
    obtain ⟨winner, apart, first⟩ : ∃ winner, i ≠ winner ∧ c.swaps.head? = some winner := by
      cases stage with
      | unclaimed unset => cases unset.symm.trans mark
      | claimed winner caller _ swaps its wins =>
        refine ⟨winner, ?_, swaps⟩
        rintro rfl
        cases here.symm.trans its
        cases wins
    have later : Later k c ((c.act server k i).run server k schedule) :=
      (Later.act (act_cases server k c i)).trans (Later.run server _ schedule)
    obtain ⟨more, swaps⟩ := later.swaps
    have staged := (stage.act (act_cases server k c i)).run server schedule
    cases staged with
    | unclaimed _ _ sends =>
      rw [sends] at mem
      cases mem
    | claimed last _ _ head _ wins =>
      have same : last = winner := by
        rw [← swaps, List.head?_append, first] at head
        exact (Option.some.inj head).symm
      generalize ((c.act server k i).run server k schedule).sends = sends at wins mem
      cases wins with
      | sends => cases mem
      | sent =>
        cases List.mem_singleton.mp mem
        exact apart same

end SqlBind.Postgres
