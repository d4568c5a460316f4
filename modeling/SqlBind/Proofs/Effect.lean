/-
Computations that may fail: one after the other, of which the first that fails
ends all, and the same on a world, which is left as it is when the failure comes.
-/
import SqlBind.Error

namespace SqlBind

variable {ε α β γ σ : Type}

theorem Except.bind_ok_iff {x : Except ε α} {f : α → Except ε β} {b : β} :
    x >>= f = .ok b ↔ ∃ a, x = .ok a ∧ f a = .ok b := by
  cases x with
  | error e =>
    constructor
    · intro h
      cases h
    · rintro ⟨_, h, _⟩
      cases h
  | ok a =>
    constructor
    · intro h
      exact ⟨a, rfl, h⟩
    · rintro ⟨_, h, hb⟩
      cases h
      exact hb

theorem Except.map_bind (g : β → γ) (x : Except ε α) (f : α → Except ε β) :
    (x >>= f).map g = x >>= fun a => (f a).map g := by
  cases x <;> rfl

/-- If each of a list's computations succeeds, so do they all. -/
theorem Except.mapM_of_forall_ok {f : α → Except ε β} {g : α → β} {xs : List α}
    (h : ∀ x ∈ xs, f x = .ok (g x)) : xs.mapM f = .ok (xs.map g) := by
  induction xs with
  | nil => rfl
  | cons x xs ih =>
    have later : xs.mapM f = .ok (xs.map g) := ih fun y mem => h y (List.mem_cons_of_mem _ mem)
    rw [List.mapM_cons, h x (List.mem_cons_self), later]
    rfl

/-- A failure ends what it begins, in any monad. -/
theorem ExceptT.bind_error {m : Type → Type} [Monad m] [LawfulMonad m] (e : ε)
    (f : α → ExceptT ε m β) : liftM (Except.error e : Except ε α) >>= f = throw e := by
  change ExceptT.mk (pure (.error e) >>= ExceptT.bindCont f) = _
  rw [pure_bind]
  rfl

theorem ExceptT.bind_ok {m : Type → Type} [Monad m] [LawfulMonad m] (a : α)
    (f : α → ExceptT ε m β) : liftM (Except.ok a : Except ε α) >>= f = f a := by
  change ExceptT.mk (pure (.ok a) >>= ExceptT.bindCont f) = _
  rw [pure_bind]
  rfl

/-- A computation that may fail with one of the library's errors, on a world. -/
abbrev Effect (σ α : Type) := ExceptT DbError (StateM σ) α

theorem Effect.bind_apply (x : Effect σ α) (f : α → Effect σ β) (world : σ) :
    (x >>= f) world =
      match x world with
      | (.ok a, world) => f a world
      | (.error e, world) => (.error e, world) := by
  simp only [Bind.bind, ExceptT.bind, ExceptT.mk, StateT.bind]
  rcases x world with ⟨_ | _, _⟩ <;> rfl

theorem Effect.bind_ok_iff {x : Effect σ α} {f : α → Effect σ β} {b : β} {world world' : σ} :
    (x >>= f) world = (.ok b, world') ↔
      ∃ a between, x world = (.ok a, between) ∧ f a between = (.ok b, world') := by
  rw [Effect.bind_apply]
  rcases x world with ⟨e | a, between⟩
  · constructor
    · intro h
      cases h
    · rintro ⟨_, _, h, _⟩
      cases h
  · constructor
    · intro h
      exact ⟨a, between, rfl, h⟩
    · rintro ⟨_, _, h, hb⟩
      cases h
      exact hb

/-- What follows a computation that was looked at gets its result, be it a failure. -/
theorem Effect.looked_apply (x : Effect σ α) (f : Except DbError α → Effect σ β) (world : σ) :
    ((liftM x.run : Effect σ (Except DbError α)) >>= f) world = f (x world).1 (x world).2 := by
  rw [Effect.bind_apply]
  rfl

/-- To go on with a result is to look and to go on unless there is a failure. -/
theorem Effect.bind_eq_looked (x : Effect σ α) (f : α → Effect σ β) :
    x >>= f = (liftM x.run : Effect σ (Except DbError α)) >>= fun
      | .ok a => f a
      | .error e => throw e := by
  funext world
  rw [Effect.looked_apply, Effect.bind_apply]
  rcases x world with ⟨_ | _, _⟩ <;> rfl

theorem Effect.map_apply (g : α → β) (x : Effect σ α) (world : σ) :
    (g <$> x) world = ((x world).1.map g, (x world).2) := by
  simp only [Functor.map, ExceptT.map, ExceptT.mk, Bind.bind, StateT.bind]
  rcases x world with ⟨_ | _, _⟩ <;> rfl

theorem Effect.mapM_cons_ok_iff {f : α → Effect σ β} {x : α} {xs : List α} {ys : List β}
    {world world' : σ} : (x :: xs).mapM f world = (.ok ys, world') ↔
      ∃ y others between, f x world = (.ok y, between) ∧
        xs.mapM f between = (.ok others, world') ∧ ys = y :: others := by
  rw [List.mapM_cons, Effect.bind_ok_iff]
  constructor
  · rintro ⟨y, between, first, rest⟩
    obtain ⟨others, _, later, last⟩ := Effect.bind_ok_iff.mp rest
    cases last
    exact ⟨y, others, between, first, later, rfl⟩
  · rintro ⟨y, others, between, first, later, rfl⟩
    exact ⟨y, between, first, Effect.bind_ok_iff.mpr ⟨others, world', later, rfl⟩⟩

/-- A list that is gone through to the end has an answer for each of its members. -/
theorem Effect.length_of_mapM {f : α → Effect σ β} {xs : List α} {world : σ} {ys : List β}
    (h : (xs.mapM f world).1 = .ok ys) : ys.length = xs.length := by
  induction xs generalizing world ys with
  | nil =>
    cases h
    rfl
  | cons x xs ih =>
    obtain ⟨y, others, between, -, later, rfl⟩ := Effect.mapM_cons_ok_iff.mp (Prod.ext h rfl)
    rw [List.length_cons, List.length_cons, ih (congrArg Prod.fst later)]

/-- A list that is gone through in order ends at the first of its members that fails. -/
theorem Effect.mapM_append_error {f : α → Effect σ β} {before : List α} {x : α} {ys : List β}
    {e : DbError} {world world₁ world₂ : σ} (passed : before.mapM f world = (.ok ys, world₁))
    (fails : f x world₁ = (.error e, world₂)) (after : List α) :
    (before ++ x :: after).mapM f world = (.error e, world₂) := by
  induction before generalizing world ys with
  | nil =>
    cases passed
    rw [List.nil_append, List.mapM_cons, Effect.bind_apply, fails]
  | cons y before ih =>
    obtain ⟨z, others, between, first, later, rfl⟩ := Effect.mapM_cons_ok_iff.mp passed
    rw [List.cons_append, List.mapM_cons, Effect.bind_apply, first]
    simp only [Effect.bind_apply, ih later]

end SqlBind
