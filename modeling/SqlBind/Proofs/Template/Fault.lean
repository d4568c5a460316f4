/-
The faults of templates with expressions. An expression that fails ends the
evaluation with its error, whatever follows it (`watch_failing`). If none fails, the
ending of the template says how the evaluation ends (`WrittenAs.watch`): all
complete expressions have been evaluated, and the offset of a fault is that of the
brace that has no meaning, or of the one that opens an expression which nothing
closes. Cut off at that offset, a template has a statement, if it was not cut inside
an expression.
-/
import SqlBind.Proofs.Template.Grammar

namespace SqlBind.Template

namespace Expression

variable {σ : Type} {tail : List Char} {o : Outline}

/-! ## Endings -/

/-- A fault is about a closing brace outside expressions, or about an opening one. -/
theorem Ending.brace {i : Nat} {fault : TemplateFault} (h : Ending tail (some (i, fault))) :
    tail[i]? = some (if fault = .strayClose then '\x7d' else '\x7b') := by
  cases h with
  | strayClose => rfl
  | unterminated => rfl
  | nestedOpen => simp [Nat.add_comm 1]

/-- Only a fault inside an expression is not at the beginning of the ending. -/
theorem Ending.at_once {i : Nat} {fault : TemplateFault} (h : Ending tail (some (i, fault)))
    (outside : fault ≠ .nestedOpen) : i = 0 := by
  cases h with
  | strayClose => rfl
  | unterminated => rfl
  | nestedOpen => exact absurd rfl outside

/-! ## The evaluation -/

/-- **The failure of an expression** is the failure of the template, whatever follows,
and no later expression is handed to the evaluator. -/
theorem watch_failing (legible : o.Legible) (apart : o.Apart tail) {before after : List String}
    {expression : String}
    (labelled : o.labels = before ++ expression :: after) {eval : String → Effect σ Arg}
    {world world₁ world₂ : σ} {args : List Arg} {e : DbError}
    (passed : before.mapM eval world = (.ok args, world₁))
    (fails : eval expression world₁ = (.error e, world₂)) :
    watch (.ofList (o.written ++ tail)) eval world =
      (.error e, world₂, before ++ [expression]) := by
  obtain ⟨outline, -⟩ := outside_written legible apart 0
  have names : labels (read (.ofList (o.written ++ tail))).segments =
      before ++ expression :: (after ++ (outside (0 + o.written.length) tail).outline.labels) := by
    rw [read, String.toList_ofList, ← Outline.labels_ofSegments]
    change (outside 0 _).outline.labels = _
    rw [outline, Outline.labels_append, labelled, List.append_assoc, List.cons_append]
  have stopped : watched eval expression (world₁, before) =
      (.error e, world₂, before ++ [expression]) := by
    simp only [watched, fails]
  rw [watch, bind_apply, names, Effect.mapM_append_error (mapM_watched_ok passed) stopped]

/-- The result of a template whose expressions have answers. -/
def result (o : Outline) (args : List Arg) :
    Option (Nat × TemplateFault) → Except DbError Statement
  | none => .ok ⟨o.sql, args⟩
  | some (i, fault) => .error (.malformedTemplate (o.written.length + i) fault)

theorem WrittenAs.watch {text : List Char} {ending : Option (Nat × TemplateFault)}
    (h : WrittenAs text o tail ending) {eval : String → Effect σ Arg} {world world' : σ}
    {args : List Arg} (evaluated : o.labels.mapM eval world = (.ok args, world')) :
    watch (.ofList text) eval world = (result o args ending, world', o.labels) := by
  obtain ⟨made, names⟩ := h.segments
  rw [Expression.watch, bind_apply, names, mapM_watched_ok evaluated]
  simp only [Reading.finish, h.reading.2, made]
  cases ending <;> rfl

end Expression

/-! ## Templates and their faults -/

open Expression

/-- **The errors of templates with expressions are precise.** An expression that fails
is the last one that is handed to the evaluator, and its error is the answer, whatever
follows that expression. Any template is the writing of a legible outline and an ending.
If no expression of the outline fails, each has been handed over once and in order, and
the ending decides: without a fault, there is the outline's statement; with one, the
error has the offset of a brace, and the template up to there has the outline's
statement, unless the brace is one inside an expression. -/
theorem expression_faults_are_precise :
    (∀ (o : Outline) (rest : List Char), o.Legible → o.Apart rest →
      ∀ (before after : List String) (expression : String),
      o.labels = before ++ expression :: after →
      ∀ {σ : Type} (eval : String → Effect σ Arg) (world world₁ world₂ : σ) (args : List Arg)
        (e : DbError),
      before.mapM eval world = (.ok args, world₁) → eval expression world₁ = (.error e, world₂) →
      watch (.ofList (o.written ++ rest)) eval world =
        (.error e, world₂, before ++ [expression])) ∧
    ∀ template : String, ∃ o tail ending, WrittenAs template.toList o tail ending ∧
      ∀ {σ : Type} (eval : String → Effect σ Arg) (world world' : σ) (args : List Arg),
      o.labels.mapM eval world = (.ok args, world') →
      (ending = none → watch template eval world = (.ok ⟨o.sql, args⟩, world', o.labels)) ∧
      ∀ i fault, ending = some (i, fault) →
        watch template eval world =
          (.error (.malformedTemplate (o.written.length + i) fault), world', o.labels) ∧
        template.toList[o.written.length + i]? =
          some (if fault = .strayClose then '\x7d' else '\x7b') ∧
        (fault ≠ .nestedOpen →
          watch (.ofList (template.toList.take (o.written.length + i))) eval world =
            (.ok ⟨o.sql, args⟩, world', o.labels)) := by
  refine ⟨?_, fun template => ?_⟩
  · intro o rest legible apart before after expression labelled σ eval world world₁ world₂ args e
      passed fails
    exact watch_failing legible apart labelled passed fails
  obtain ⟨o, tail, ending, written⟩ := exists_writtenAs template.toList
  refine ⟨o, tail, ending, written, ?_⟩
  intro σ eval world world' args evaluated
  have watched := written.watch evaluated
  rw [String.ofList_toList] at watched
  refine ⟨?_, ?_⟩
  · rintro rfl
    exact watched
  · rintro i fault rfl
    refine ⟨watched, ?_, fun outside => ?_⟩
    · rw [written.written, List.getElem?_append_right (by omega), Nat.add_sub_cancel_left]
      exact written.ends.brace
    · have cut : template.toList.take (o.written.length + i) = o.written := by
        rw [written.ends.at_once outside, written.written]
        exact List.take_left
      rw [cut]
      exact (WrittenAs.whole written.legible).watch evaluated

/-- The second expression fails, and the lone brace is not reported; and an expression
that nothing closes, behind one that ends with a brace of its own. -/
theorem expression_faults_are_precise_doubled :
    watch "\x7ba\x7d\x7bb\x7d \x7d"
      (fun name calls =>
        (if name = "b" then .error (.eval name (.unbound name)) else .ok (.raw .null), calls + 1))
      0 = (.error (.eval "b" (.unbound "b")), 2, ["a", "b"]) ∧
    watch "\x7ba\x7d\x7d\x7d\x7bb\x7d\x7d"
      (fun name calls => (.ok (.raw (.text name)), calls + 1)) 0 =
      (.error (.malformedTemplate 5 (.unterminated "b\x7d")), 1, ["a\x7d"]) ∧
    watch "\x7ba\x7d\x7d\x7d" (fun name calls => (.ok (.raw (.text name)), calls + 1)) 0 =
      (.ok ⟨"?", [.raw (.text "a\x7d")]⟩, 1, ["a\x7d"]) := by
  obtain ⟨fails, ends⟩ := expression_faults_are_precise
  constructor
  · have legible : Outline.Legible ⟨[], [(['a'], []), (['b'], [' '])]⟩ := by
      intro e t mem
      simp only [List.mem_cons, Prod.mk.injEq, List.not_mem_nil, or_false] at mem
      rcases mem with ⟨rfl, rfl⟩ | ⟨rfl, rfl⟩ <;> decide
    exact fails ⟨[], [(['a'], []), (['b'], [' '])]⟩ ['\x7d'] legible (by simp [Outline.Apart])
      ["a"] [] "b" rfl _ 0 1 2 [.raw .null] _ rfl rfl
  · obtain ⟨o, tail, ending, written, runs⟩ := ends "\x7ba\x7d\x7d\x7d\x7bb\x7d\x7d"
    obtain ⟨outline, fault⟩ := written.reading
    obtain rfl : o = ⟨[], [(['a', '\x7d'], [])]⟩ := outline.symm.trans (by decide)
    obtain rfl : ending = some (0, .unterminated "b\x7d") := by
      have found : some (5, .unterminated "b\x7d") =
        ending.map fun ending => (5 + ending.1, ending.2) := fault
      rcases ending with _ | ⟨i, fault⟩
      · cases found
      · simpa [eq_comm] using found
    obtain ⟨-, faulty⟩ := runs (fun name calls => (.ok (.raw (.text name)), calls + 1)) 0 1 _ rfl
    obtain ⟨found, -, cut⟩ := faulty _ _ rfl
    exact ⟨found, cut (by simp)⟩

end SqlBind.Template
