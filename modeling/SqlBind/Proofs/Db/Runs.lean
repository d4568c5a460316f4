/-
Computations with a record. The recorded form of a computation ends as the
computation does and appends to the record, whatever the record holds (`Runs`).
Runs are put together the way computations are.
-/
import SqlBind.Proofs.Effect

namespace SqlBind

variable {ε σ α β : Type}

/-- A computation and its recorded form end alike, with a result in a world; and the
recorded form appends entries to any record. -/
structure Runs (x : Effect σ α) (x' : Effect (σ × List ε) α) (world : σ)
    (result : Except DbError α) (world' : σ) (made : List ε) : Prop where
  plain : x world = (result, world')
  recorded : ∀ before, x' (world, before) = (result, world', before ++ made)

namespace Runs

variable {world world₁ world₂ : σ} {made more : List ε}
  {x : Effect σ α} {x' : Effect (σ × List ε) α} {f : α → Effect σ β} {f' : α → Effect (σ × List ε) β}

theorem pure (a : α) (world : σ) :
    Runs (Pure.pure a) (Pure.pure a : Effect (σ × List ε) α) world (.ok a) world [] := by
  refine ⟨rfl, fun before => ?_⟩
  rw [List.append_nil]
  rfl

theorem error (e : DbError) (world : σ) :
    Runs (throw e : Effect σ α) (throw e : Effect (σ × List ε) α) world (.error e) world [] := by
  refine ⟨rfl, fun before => ?_⟩
  rw [List.append_nil]
  rfl

theorem lift (result : Except DbError α) (world : σ) :
    Runs (liftM result : Effect σ α) (liftM result : Effect (σ × List ε) α) world result world [] := by
  refine ⟨rfl, fun before => ?_⟩
  rw [List.append_nil]
  rfl

theorem bind {a : α} {result : Except DbError β} (hx : Runs x x' world (.ok a) world₁ made)
    (hf : Runs (f a) (f' a) world₁ result world₂ more) :
    Runs (x >>= f) (x' >>= f') world result world₂ (made ++ more) := by
  refine ⟨?_, fun before => ?_⟩
  · rw [Effect.bind_apply, hx.plain]
    exact hf.plain
  · rw [Effect.bind_apply, hx.recorded]
    exact (hf.recorded _).trans (by rw [List.append_assoc])

/-- The first failure ends all. -/
theorem bind_error {e : DbError} (hx : Runs x x' world (.error e) world₁ made) :
    Runs (x >>= f) (x' >>= f') world (.error e) world₁ made := by
  refine ⟨?_, fun before => ?_⟩
  · rw [Effect.bind_apply, hx.plain]
  · rw [Effect.bind_apply, hx.recorded]

theorem adapt {result : Except DbError α} (g : DbError → DbError)
    (hx : Runs x x' world result world₁ made) :
    Runs (x.adapt g) (x'.adapt g) world (result.mapError g) world₁ made := by
  refine ⟨?_, fun before => ?_⟩
  · change ((x world).1.mapError g, (x world).2) = _
    rw [hx.plain]
  · change ((x' (world, before)).1.mapError g, (x' (world, before)).2) = _
    rw [hx.recorded]

theorem map {result : Except DbError α} (g : α → β) (hx : Runs x x' world result world₁ made) :
    Runs (x >>= fun a => Pure.pure (g a)) (x' >>= fun a => Pure.pure (g a)) world (result.map g) world₁
      made := by
  cases result with
  | error e => exact hx.bind_error
  | ok a =>
    have run : Runs (x >>= fun a => Pure.pure (g a)) (x' >>= fun a => Pure.pure (g a)) world
        (.ok (g a)) world₁ (made ++ []) := hx.bind (.pure _ _)
    rwa [List.append_nil] at run

/-- What became of a computation, looked at without failing. -/
theorem looked {result : Except DbError α} (hx : Runs x x' world result world₁ made) :
    Runs (liftM x.run) (liftM x'.run) world (.ok result) world₁ made := by
  refine ⟨?_, fun before => ?_⟩
  · change (Except.ok (x world).1, (x world).2) = _
    rw [hx.plain]
  · change (Except.ok (x' (world, before)).1, (x' (world, before)).2) = _
    rw [hx.recorded]

end Runs
end SqlBind
