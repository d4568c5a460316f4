/-
What an evaluator is handed. The evaluation of a template's expressions is run
with an evaluator that is watched: it answers as before, in whatever world it
works on, and each expression that it is handed is written down first. Watching
changes nothing (`bind_watched`), and a template that is evaluated to the end has
handed over all its labels, in order.
-/
import SqlBind.Params
import SqlBind.Proofs.Effect

namespace SqlBind.Template.Expression

variable {σ : Type}

/-- The evaluator, with each expression that it is handed written down. -/
def watched (eval : String → Effect σ Arg) (expression : String) : Effect (σ × List String) Arg :=
  fun (world, handed) =>
    let (result, world) := eval expression world
    (result, world, handed ++ [expression])

/-- The statement of a template, or the error; the world that the evaluator
leaves; and the expressions that it was handed. -/
def watch (template : String) (eval : String → Effect σ Arg) (world : σ) :
    Except DbError Statement × σ × List String := bind template (watched eval) (world, [])

/-- An evaluator that neither looks at the world nor changes it. -/
def steady (eval : String → Except DbError Arg) (expression : String) : Effect σ Arg :=
  fun world => (eval expression, world)

/-! ## One step and a whole run -/

/-- The statement of a reading whose expressions have been evaluated. -/
def Reading.finish (r : Reading) (args : List Arg) : Except DbError Statement :=
  match r.fault with
  | some (offset, fault) => .error (.malformedTemplate offset fault)
  | none => .ok ⟨sql r.segments, args⟩

/-- The failure of an expression comes first, and then the reading's own. -/
theorem bind_apply (template : String) (eval : String → Effect σ Arg) (world : σ) :
    bind template eval world =
      match (labels (read template).segments).mapM eval world with
      | (.ok args, world) => ((read template).finish args, world)
      | (.error e, world) => (.error e, world) := by
  rw [bind, Effect.bind_apply]
  rcases (labels (read template).segments).mapM eval world with ⟨_ | args, world⟩
  · rfl
  · unfold Reading.finish
    rcases (read template).fault with _ | ⟨offset, fault⟩ <;> rfl

/-- A template that has a statement was read to the end, and its expressions have answers. -/
theorem bind_ok {template : String} {eval : String → Effect σ Arg} {world : σ} {s : Statement}
    (ok : (bind template eval world).1 = .ok s) :
    (read template).fault = none ∧ s.sql = sql (read template).segments ∧
      ((labels (read template).segments).mapM eval world).1 = .ok s.args := by
  rw [bind_apply] at ok
  rcases evaluated : (labels (read template).segments).mapM eval world with ⟨e | args, world'⟩
  · rw [evaluated] at ok
    cases ok
  · rw [evaluated] at ok
    simp only [Reading.finish] at ok
    split at ok
    · cases ok
    · rename_i complete
      cases ok
      exact ⟨complete, rfl, rfl⟩

/-- Evaluated with a watch, a list of expressions gives what it gives without one,
and is handed over as far as the evaluation gets. -/
theorem mapM_watched (eval : String → Effect σ Arg) (expressions : List String) (world : σ)
    (before : List String) :
    ∃ handed, handed <+: expressions ∧
      expressions.mapM (watched eval) (world, before) =
        ((expressions.mapM eval world).1, (expressions.mapM eval world).2, before ++ handed) ∧
      ∀ args, (expressions.mapM eval world).1 = .ok args → handed = expressions := by
  -- What was handed over before the rest includes this expression, even if it fails.
  induction expressions generalizing world before with
  | nil => exact ⟨[], List.prefix_rfl, by simp only [List.append_nil]; rfl, fun _ _ => rfl⟩
  | cons expression rest ih =>
    simp only [List.mapM_cons, Effect.bind_apply, watched]
    rcases eval expression world with ⟨e | arg, world⟩
    · refine ⟨[expression], ?_, rfl, ?_⟩
      · simp
      · intro args h
        cases h
    · obtain ⟨handed, beginning, run, all⟩ := ih world (before ++ [expression])
      refine ⟨expression :: handed, ?_, ?_, ?_⟩
      · simpa using beginning
      · simp only [run]
        rcases rest.mapM eval world with ⟨e | args, world⟩
        · simp
        · simp; rfl
      · intro args h
        rcases evaluated : rest.mapM eval world with ⟨e | others, world'⟩
        · simp only [evaluated] at h
          cases h
        · rw [all others (by rw [evaluated])]

theorem mapM_watched_ok {eval : String → Effect σ Arg} {expressions : List String}
    {world world' : σ} {args : List Arg}
    (evaluated : expressions.mapM eval world = (.ok args, world')) :
    expressions.mapM (watched eval) (world, []) = (.ok args, world', expressions) := by
  obtain ⟨handed, -, run, all⟩ := mapM_watched eval expressions world []
  rw [run, evaluated, all args (congrArg Prod.fst evaluated)]
  rfl

/-- **Watching changes nothing**: the result and the world are the same; what was
handed over is a beginning of the labels, and all of them if there is a statement. -/
theorem watch_eq (template : String) (eval : String → Effect σ Arg) (world : σ) :
    ∃ handed, handed <+: labels (read template).segments ∧
      watch template eval world =
        ((bind template eval world).1, (bind template eval world).2, handed) ∧
      ∀ s, (bind template eval world).1 = .ok s →
        handed = labels (read template).segments ∧ s.sql = sql (read template).segments := by
  obtain ⟨handed, beginning, run, all⟩ :=
    mapM_watched eval (labels (read template).segments) world []
  refine ⟨handed, beginning, ?_, fun s ok => ?_⟩
  · rw [watch, bind_apply, bind_apply, run]
    rcases (labels (read template).segments).mapM eval world with ⟨_ | args, world⟩ <;> rfl
  · obtain ⟨-, text, evaluated⟩ := bind_ok ok
    exact ⟨all s.args evaluated, text⟩

/-- An evaluator that is steady evaluates as it does in no world at all. -/
theorem mapM_steady (eval : String → Except DbError Arg) (expressions : List String) (world : σ) :
    expressions.mapM (steady eval) world = (expressions.mapM eval, world) := by
  induction expressions with
  | nil => rfl
  | cons expression rest ih =>
    rw [List.mapM_cons, List.mapM_cons, Effect.bind_apply, steady]
    cases eval expression with
    | error e => rfl
    | ok arg =>
      simp only [Effect.bind_apply, ih]
      cases rest.mapM eval <;> rfl

theorem bind_steady (template : String) (eval : String → Except DbError Arg) (world : σ) :
    bind template (steady eval) world = (normalize template (.evaluated eval), world) := by
  rw [bind_apply, mapM_steady, normalize, bind]
  cases (labels (read template).segments).mapM eval with
  | error e => rfl
  | ok args =>
    simp only [Reading.finish]
    rcases (read template).fault with _ | ⟨offset, fault⟩ <;> rfl

end SqlBind.Template.Expression
