/-
The reader of binds and the readers of templates agree. A marker leaves a question
mark between two stretches of text, and is read there as a bind in plain text,
if every stretch is self-contained: then no stretch ends in quotes or in a comment,
and what it ends in joins with a question mark to nothing. So the binds of the SQL
are the question marks of the markers (`Outline.offsets_sql`), one for each argument,
and the check of a statement before it is prepared has nothing to say about them.
-/
import SqlBind.Postgres.Session
import SqlBind.Proofs.Placeholder.Reading
import SqlBind.Proofs.Template.Grammar

namespace SqlBind.Template

open Placeholder

namespace Outline

/-- The offsets of the question marks of markers, of which the first stands at offset `n`. -/
def marksFrom (n : Nat) : List (List Char × List Char) → List Nat
  | [] => []
  | (_, text) :: rest => n :: marksFrom (n + 1 + text.length) rest

theorem length_marksFrom (n : Nat) (rest : List (List Char × List Char)) :
    (marksFrom n rest).length = rest.length := by
  induction rest generalizing n with
  | nil => rfl
  | cons pair rest ih => rw [marksFrom, List.length_cons, ih, List.length_cons]

theorem getElem?_marksFrom (n : Nat) (before : List (List Char × List Char))
    (label text : List Char) (after : List (List Char × List Char)) :
    (marksFrom n (before ++ (label, text) :: after))[before.length]? =
      some (n + (before.flatMap fun (_, text) => '?' :: text).length) := by
  induction before generalizing n with
  | nil => rfl
  | cons pair before ih =>
    rw [List.cons_append, marksFrom, List.length_cons, List.getElem?_cons_succ, ih,
      List.flatMap_cons, List.length_append, List.length_cons]
    congr 1
    omega

theorem bindsFrom_mark {m : Mode} (outside : m.isOutside = true) (n : Nat) (rest : List Char) :
    bindsFrom m n ('?' :: rest) = n :: bindsFrom .plain (n + 1) rest := by
  rw [bindsFrom_cons]
  -- A hyphen or a slash in front joins with a question mark to nothing.
  cases m with
  | plain | dash | slash => rfl
  | single | double | line | block | blockStar => cases outside

theorem bindsFrom_rest {rest : List (List Char × List Char)}
    (contained : ∀ pair ∈ rest, SelfContained (.ofList pair.2)) {m : Mode}
    (outside : m.isOutside = true) (n : Nat) :
    bindsFrom m n (rest.flatMap fun (_, text) => '?' :: text) = marksFrom n rest := by
  induction rest generalizing m n with
  | nil => rfl
  | cons pair rest ih =>
    obtain ⟨label, text⟩ := pair
    have first : SelfContained (.ofList text) := contained (label, text) (by simp)
    have later : ∀ pair ∈ rest, SelfContained (.ofList pair.2) :=
      fun pair mem => contained pair (List.mem_cons_of_mem _ mem)
    have silent := first.bindsFrom (n + 1)
    have ends := first.2
    rw [String.toList_ofList] at silent ends
    rw [List.flatMap_cons, List.cons_append, bindsFrom_mark outside, bindsFrom_append, silent,
      List.nil_append, ih later ends, marksFrom]

/-- **The binds of an outline's SQL are the question marks of its markers**, if all
its texts are self-contained. -/
theorem offsets_sql {o : Outline} (contained : ∀ text ∈ o.texts, SelfContained (.ofList text)) :
    offsets o.sql = marksFrom o.first.length o.rest := by
  have first : SelfContained (.ofList o.first) := contained o.first (by simp [texts])
  have later : ∀ pair ∈ o.rest, SelfContained (.ofList pair.2) :=
    fun pair mem => contained pair.2 (List.mem_cons_of_mem _ (List.mem_map_of_mem mem))
  have silent := first.bindsFrom 0
  have ends := first.2
  rw [String.toList_ofList] at silent ends
  rw [offsets_eq, sql, String.toList_ofList, chars, bindsFrom_append, silent, List.nil_append,
    bindsFrom_rest later ends, Nat.zero_add]

end Outline

/-- A statement whose binds are the markers of an outline. -/
structure BoundAtMarkers (s : Statement) (o : Outline) : Prop where
  /-- The statement has the SQL of the outline. -/
  sql : s.sql = o.sql
  /-- It has an argument for each marker. -/
  args : s.args.length = o.rest.length
  /-- It has a bind for each argument, … -/
  count : s.placeholderCount = s.args.length
  /-- … so that it is not refused for their number. -/
  checked : ∀ placeholders arguments,
    Postgres.checkArgs s ≠ .error (.validation (.misaligned placeholders arguments))
  /-- The bind for a marker stands where the SQL of what is before the marker ends. -/
  places : ∀ before label text after, o.rest = before ++ (label, text) :: after →
    (offsets s.sql)[before.length]? = some (Outline.mk o.first before).chars.length

theorem checkArgs_ne_misaligned {s : Statement} (h : s.placeholderCount = s.args.length)
    (placeholders arguments : Nat) :
    Postgres.checkArgs s ≠ .error (.validation (.misaligned placeholders arguments)) := by
  rw [Postgres.checkArgs, if_neg (not_not_intro h)]
  split <;> simp

theorem Outline.boundAtMarkers {o : Outline}
    (contained : ∀ text ∈ o.texts, SelfContained (.ofList text)) {s : Statement}
    (sql : s.sql = o.sql) (args : s.args.length = o.rest.length) : BoundAtMarkers s o := by
  have marks : offsets s.sql = marksFrom o.first.length o.rest := by rw [sql, offsets_sql contained]
  have count : s.placeholderCount = s.args.length := by
    rw [Statement.placeholderCount, ← length_offsets, marks, length_marksFrom, args]
  refine ⟨sql, args, count, checkArgs_ne_misaligned count, ?_⟩
  intro before label text after split
  rw [marks, split, getElem?_marksFrom, chars, List.length_append]

/-! ## The statements of templates -/

theorem length_labels (o : Outline) : o.labels.length = o.rest.length := List.length_map _

theorem Named.boundAtMarkers {template : String} (args : NamedArgs)
    (contained : ∀ text ∈ (Outline.ofSegments (Named.segments template)).texts,
      SelfContained (.ofList text)) :
    BoundAtMarkers (Named.bind template args) (.ofSegments (Named.segments template)) := by
  refine Outline.boundAtMarkers contained (Outline.sql_ofSegments _).symm ?_
  rw [Named.bind, List.length_map, ← Outline.labels_ofSegments, length_labels]

theorem Expression.boundAtMarkers {σ : Type} {template : String} {eval : String → Effect σ Arg}
    {world : σ} {s : Statement} (ok : (Expression.bind template eval world).1 = .ok s)
    (contained : ∀ text ∈ (Expression.read template).outline.texts, SelfContained (.ofList text)) :
    BoundAtMarkers s (Expression.read template).outline := by
  obtain ⟨-, text, evaluated⟩ := Expression.bind_ok ok
  refine Outline.boundAtMarkers contained (text.trans (Outline.sql_ofSegments _).symm) ?_
  rw [Effect.length_of_mapM evaluated, ← Outline.labels_ofSegments, length_labels]
  rfl

/-- **The binds of a template's statement are its markers**, one for each argument, if
every stretch of text between them is self-contained: the statement has as many
binds as arguments, is not refused for their number, and the `k`-th bind is the
question mark of the `k`-th marker. So it is for named markers and any arguments,
and for expressions and any evaluator, in whatever world, that gets to the end. -/
theorem binds_are_markers :
    (∀ (template : String) (args : NamedArgs),
      (∀ text ∈ (Outline.ofSegments (Named.segments template)).texts, SelfContained (.ofList text)) →
      ∃ s, normalize template (.named args) = .ok s ∧
        BoundAtMarkers s (.ofSegments (Named.segments template))) ∧
    (∀ (template : String) (eval : String → Except DbError Arg) (s : Statement),
      normalize template (.evaluated eval) = .ok s →
      (∀ text ∈ (Expression.read template).outline.texts, SelfContained (.ofList text)) →
      BoundAtMarkers s (Expression.read template).outline) ∧
    ∀ (template : String) {σ : Type} (eval : String → Effect σ Arg) (world : σ) (s : Statement),
      (Expression.bind template eval world).1 = .ok s →
      (∀ text ∈ (Expression.read template).outline.texts, SelfContained (.ofList text)) →
      BoundAtMarkers s (Expression.read template).outline := by
  refine ⟨?_, ?_, ?_⟩
  · intro template args contained
    exact ⟨_, rfl, Named.boundAtMarkers args contained⟩
  · intro template eval s ok contained
    have steady := Expression.bind_steady template eval ()
    rw [ok] at steady
    exact Expression.boundAtMarkers (congrArg Prod.fst steady) contained
  · intro template σ eval world s ok contained
    exact Expression.boundAtMarkers ok contained

theorem binds_are_markers_besideQuotes :
    (∃ s, normalize "x::text = '?' || :a-:b::int -- ?\n/:c" (.named .empty) = .ok s ∧
      offsets s.sql = [17, 19, 32] ∧ s.placeholderCount = s.args.length) ∧
    ∃ s, normalize "'\x7b\x7b?' = \x7ba\x7d/\x7bb\x7d/* ? */"
        (.evaluated (.ok ∘ .raw ∘ .text)) = .ok s ∧
      offsets s.sql = [7, 9] ∧ s.placeholderCount = s.args.length := by
  obtain ⟨named, evaluated, -⟩ := binds_are_markers
  refine ⟨?_, ?_⟩
  · obtain ⟨s, normalized, bound⟩ :=
      named "x::text = '?' || :a-:b::int -- ?\n/:c" .empty (by decide)
    refine ⟨s, normalized, ?_, bound.count⟩
    rw [bound.sql]
    decide
  · have bound := evaluated "'\x7b\x7b?' = \x7ba\x7d/\x7bb\x7d/* ? */"
      (.ok ∘ .raw ∘ .text) _ rfl (by decide)
    refine ⟨_, rfl, ?_, bound.count⟩
    decide

end SqlBind.Template
