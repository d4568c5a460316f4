/-
The grammar of templates with expressions in braces. An outline is written with
every brace of its texts and expressions doubled and each expression between
single braces. Reading is the inverse of writing (`outline_read`, `template_outline`),
if no expression starts with an opening brace and no text after an expression with
a closing one: there, three braces in a row would be read the other way round. A
text that no outline is written as is written from one as far as it can be
(`exists_writtenAs`): behind its last complete expression there is a lone brace where
none may be, or an expression that nothing closes. So every template that is read to
the end is written from one legible outline, and only from one.
-/
import Mathlib.Logic.ExistsUnique
import SqlBind.Proofs.Template.Outline
import SqlBind.Proofs.Template.Watch
import SqlBind.Text.Quote

namespace SqlBind.Template

open Text

namespace Expression

def isBrace (c : Char) : Bool := c = '\x7b' || c = '\x7d'

theorem isBrace_iff {c : Char} : isBrace c = true ↔ c = '\x7b' ∨ c = '\x7d' := by simp [isBrace]

theorem isBrace_eq_false_iff {c : Char} : isBrace c = false ↔ c ≠ '\x7b' ∧ c ≠ '\x7d' := by
  simp [isBrace]

/-- Expressions as they are written, each with the text after it. -/
def writtenRest : List (List Char × List Char) → List Char
  | [] => []
  | (expression, text) :: rest =>
    '\x7b' :: (twice isBrace expression ++ '\x7d' :: (twice isBrace text ++ writtenRest rest))

end Expression

namespace Outline

open Expression

/-- The characters of an outline's template. -/
def written (o : Outline) : List Char := twice isBrace o.first ++ writtenRest o.rest

/-- The template that an outline is written as. -/
def template (o : Outline) : String := .ofList o.written

/-- No expression starts with an opening brace, and no text after one with a closing brace. -/
def Legible (o : Outline) : Prop :=
  ∀ expression text, (expression, text) ∈ o.rest →
    expression.head? ≠ some '\x7b' ∧ text.head? ≠ some '\x7d'

/-- What follows the writing of an outline does not close its last expression a second
time: it does not begin with a closing brace if no text follows that expression. -/
def Apart (o : Outline) (tail : List Char) : Prop :=
  tail.head? = some '\x7d' → ∀ pair ∈ o.rest.getLast?, pair.2 ≠ []

theorem Legible.marker {o : Outline} (h : o.Legible) {expression : List Char}
    (start : expression.head? ≠ some '\x7b') (stop : o.first.head? ≠ some '\x7d') :
    (o.marker expression).Legible := by
  intro e text mem
  rcases List.mem_cons.mp mem with same | mem
  · cases same
    exact ⟨start, stop⟩
  · exact h e text mem

/-- The last expression of an outline with one more before it is the last of the outline. -/
theorem Apart.marker {o : Outline} {tail : List Char} (h : o.Apart tail) {expression : List Char}
    (closes : (o.written ++ tail).head? ≠ some '\x7d') : (o.marker expression).Apart tail := by
  intro closing pair last
  obtain ⟨first, rest⟩ := o
  cases rest with
  | nil =>
    cases last
    rintro (rfl : first = [])
    exact closes closing
  | cons => exact h closing pair (by rwa [← List.getLast?_cons_cons])

theorem Apart.later {e t : List Char} {rest : List (List Char × List Char)} {tail : List Char}
    (h : Apart ⟨[], (e, t) :: rest⟩ tail) : Apart ⟨[], rest⟩ tail := by
  intro closing pair last
  refine h closing pair ?_
  cases rest with
  | nil => cases last
  | cons => rwa [List.getLast?_cons_cons]

end Outline

namespace Expression

/-! ## One step of the reader -/

/-- The outline of what was read. -/
def Reading.outline (r : Reading) : Outline := .ofSegments r.segments

@[simp] theorem outline_prepend (c : Char) (r : Reading) :
    (r.prepend c).outline = r.outline.prepend [c] := Outline.ofSegments_prepend c r.segments

@[simp] theorem fault_prepend (c : Char) (r : Reading) : (r.prepend c).fault = r.fault := rfl

@[simp] theorem outline_marker (label : List Char) (r : Reading) :
    (r.marker label).outline = r.outline.marker label := rfl

@[simp] theorem fault_marker (label : List Char) (r : Reading) :
    (r.marker label).fault = r.fault := rfl

theorem outside_brace {c : Char} (h : isBrace c = true) (offset : Nat) (rest : List Char) :
    outside offset (c :: c :: rest) = (outside (offset + 2) rest).prepend c := by
  rcases isBrace_iff.mp h with rfl | rfl
  · rw [outside]
  · rw [outside]

theorem outside_other {c : Char} (h : isBrace c = false) (offset : Nat) (rest : List Char) :
    outside offset (c :: rest) = (outside (offset + 1) rest).prepend c := by
  obtain ⟨notOpen, notClose⟩ := isBrace_eq_false_iff.mp h
  rw [outside] <;> simp [notOpen, notClose]

theorem outside_open {rest : List Char} (h : rest.head? ≠ some '\x7b') (offset : Nat) :
    outside offset ('\x7b' :: rest) = inside (offset + 1) offset [] rest := by
  rw [outside]
  rintro rest' rfl
  exact h rfl

theorem inside_brace {c : Char} (h : isBrace c = true) (offset start : Nat)
    (before rest : List Char) :
    inside offset start before (c :: c :: rest) =
      inside (offset + 2) start (before ++ [c]) rest := by
  rcases isBrace_iff.mp h with rfl | rfl
  · rw [inside]
  · rw [inside]

theorem inside_other {c : Char} (h : isBrace c = false) (offset start : Nat)
    (before rest : List Char) :
    inside offset start before (c :: rest) = inside (offset + 1) start (before ++ [c]) rest := by
  obtain ⟨notOpen, notClose⟩ := isBrace_eq_false_iff.mp h
  rw [inside] <;> simp [notOpen, notClose]

theorem inside_close {rest : List Char} (h : rest.head? ≠ some '\x7d') (offset start : Nat)
    (before : List Char) :
    inside offset start before ('\x7d' :: rest) = (outside (offset + 1) rest).marker before := by
  rw [inside]
  rintro rest' rfl
  exact h rfl

theorem outside_stray {rest : List Char} (h : rest.head? ≠ some '\x7d') (offset : Nat) :
    outside offset ('\x7d' :: rest) = .stop offset .strayClose := by
  rw [outside]
  rintro rest' rfl
  exact h rfl

theorem inside_nested {rest : List Char} (h : rest.head? ≠ some '\x7b') (offset start : Nat)
    (before : List Char) :
    inside offset start before ('\x7b' :: rest) = .stop offset .nestedOpen := by
  rw [inside]
  rintro rest' rfl
  exact h rfl

/-! ## What is written is read -/

/-- A written text is read as the text, whatever follows. -/
theorem outside_twice (text : List Char) (offset : Nat) (rest : List Char) :
    outside offset (twice isBrace text ++ rest) =
      text.foldr Reading.prepend (outside (offset + (twice isBrace text).length) rest) := by
  induction text generalizing offset with
  | nil => rfl
  | cons c text ih =>
    cases h : isBrace c with
    | true =>
      rw [twice_cons_pos h, List.cons_append, List.cons_append, outside_brace h, ih,
        List.foldr_cons, List.length_cons, List.length_cons]
      congr 3
      omega
    | false =>
      rw [twice_cons_neg h, List.cons_append, outside_other h, ih, List.foldr_cons,
        List.length_cons]
      congr 3
      omega

theorem inside_twice (expression : List Char) (offset start : Nat) (before rest : List Char) :
    inside offset start before (twice isBrace expression ++ rest) =
      inside (offset + (twice isBrace expression).length) start (before ++ expression) rest := by
  induction expression generalizing offset before with
  | nil => rw [List.append_nil]; rfl
  | cons c expression ih =>
    have split : before ++ c :: expression = before ++ [c] ++ expression := by simp
    cases h : isBrace c with
    | true =>
      rw [twice_cons_pos h, List.cons_append, List.cons_append, inside_brace h, ih, split,
        List.length_cons, List.length_cons]
      congr 1
      omega
    | false =>
      rw [twice_cons_neg h, List.cons_append, inside_other h, ih, split, List.length_cons]
      congr 1
      omega

theorem outline_foldr_prepend (text : List Char) (r : Reading) :
    (text.foldr Reading.prepend r).outline = r.outline.prepend text := by
  induction text with
  | nil => rfl
  | cons c text ih => rw [List.foldr_cons, outline_prepend, ih, ← Outline.prepend_append]; rfl

theorem fault_foldr_prepend (text : List Char) (r : Reading) :
    (text.foldr Reading.prepend r).fault = r.fault := by
  induction text with
  | nil => rfl
  | cons c text ih => rw [List.foldr_cons, fault_prepend, ih]

/-- What follows an empty text begins with an expression, or it is the tail. -/
theorem head?_writtenRest {e : List Char} {rest : List (List Char × List Char)} {tail : List Char}
    (apart : Outline.Apart ⟨[], (e, []) :: rest⟩ tail) :
    (writtenRest rest ++ tail).head? ≠ some '\x7d' := by
  cases rest with
  | nil => exact fun closing => apart closing (e, []) rfl rfl
  | cons => simp [writtenRest]

theorem outside_writtenRest {rest : List (List Char × List Char)} {tail : List Char}
    (legible : Outline.Legible ⟨[], rest⟩) (apart : Outline.Apart ⟨[], rest⟩ tail) (offset : Nat) :
    (outside offset (writtenRest rest ++ tail)).outline =
        .follow rest (outside (offset + (writtenRest rest).length) tail).outline ∧
      (outside offset (writtenRest rest ++ tail)).fault =
        (outside (offset + (writtenRest rest).length) tail).fault := by
  induction rest generalizing offset with
  | nil => exact ⟨rfl, rfl⟩
  | cons pair rest ih =>
    obtain ⟨expression, text⟩ := pair
    obtain ⟨start, stop⟩ := legible expression text (by simp)
    have later : Outline.Legible ⟨[], rest⟩ :=
      fun e t mem => legible e t (List.mem_cons_of_mem _ mem)
    -- The brace that opens the expression is not taken for half of a doubled one, …
    have opens : (twice isBrace expression ++
        '\x7d' :: (twice isBrace text ++ (writtenRest rest ++ tail))).head? ≠ some '\x7b' := by
      rw [head?_twice_append]
      cases expression with
      | nil => simp
      | cons => simpa using start
    -- … nor is the one that closes it.
    have closes : (twice isBrace text ++ (writtenRest rest ++ tail)).head? ≠ some '\x7d' := by
      rw [head?_twice_append]
      cases text with
      | nil => simpa using head?_writtenRest apart
      | cons => simpa using stop
    have split : writtenRest ((expression, text) :: rest) ++ tail =
        '\x7b' :: (twice isBrace expression ++
          '\x7d' :: (twice isBrace text ++ (writtenRest rest ++ tail))) := by
      simp [writtenRest]
    have length : offset + (writtenRest ((expression, text) :: rest)).length =
        offset + 1 + (twice isBrace expression).length + 1 + (twice isBrace text).length +
          (writtenRest rest).length := by
      simp only [writtenRest, List.length_cons, List.length_append]
      omega
    rw [split, length, outside_open opens, inside_twice, inside_close closes, outside_twice,
      outline_marker, fault_marker, outline_foldr_prepend, fault_foldr_prepend,
      Outline.follow_cons, List.nil_append]
    obtain ⟨outline, fault⟩ := ih later apart.later _
    rw [outline, fault]
    exact ⟨rfl, rfl⟩

/-- **What is written is read, whatever follows**: behind the writing of a legible
outline, the reading goes on as if it began there. -/
theorem outside_written {o : Outline} {tail : List Char} (legible : o.Legible)
    (apart : o.Apart tail) (offset : Nat) :
    (outside offset (o.written ++ tail)).outline =
        o.append (outside (offset + o.written.length) tail).outline ∧
      (outside offset (o.written ++ tail)).fault =
        (outside (offset + o.written.length) tail).fault := by
  have later : Outline.Legible ⟨[], o.rest⟩ := legible
  obtain ⟨outline, fault⟩ :=
    outside_writtenRest later apart (offset + (twice isBrace o.first).length)
  rw [Outline.written, List.append_assoc, outside_twice, outline_foldr_prepend,
    fault_foldr_prepend, outline, fault, List.length_append, ← Nat.add_assoc]
  exact ⟨rfl, rfl⟩

/-! ## How a reading ends -/

/-- How the text goes on where its last complete expression and the text after it have
been read: not at all, or with a fault, so many characters from there. A lone brace is
one that is not followed by its like. -/
inductive Ending : List Char → Option (Nat × TemplateFault) → Prop
  | complete : Ending [] none
  /-- A lone closing brace outside expressions. -/
  | strayClose {rest : List Char} (lone : rest.head? ≠ some '\x7d') :
    Ending ('\x7d' :: rest) (some (0, .strayClose))
  /-- An expression that nothing closes. -/
  | unterminated {expression : List Char}
    (opens : (twice isBrace expression).head? ≠ some '\x7b') :
    Ending ('\x7b' :: twice isBrace expression) (some (0, .unterminated (.ofList expression)))
  /-- A lone opening brace inside an expression. -/
  | nestedOpen {expression rest : List Char}
    (opens : (twice isBrace expression ++ '\x7b' :: rest).head? ≠ some '\x7b')
    (lone : rest.head? ≠ some '\x7b') :
    Ending ('\x7b' :: (twice isBrace expression ++ '\x7b' :: rest))
      (some (1 + (twice isBrace expression).length, .nestedOpen))

/-- At its ending the reading finds nothing more, and the fault. -/
theorem outside_ending {tail : List Char} {ending : Option (Nat × TemplateFault)}
    (h : Ending tail ending) (offset : Nat) :
    outside offset tail = ⟨[], ending.map fun (i, fault) => (offset + i, fault)⟩ := by
  cases h with
  | complete => rw [outside]; rfl
  | strayClose lone => exact outside_stray lone offset
  | @unterminated expression opens =>
    have whole := inside_twice expression (offset + 1) offset [] []
    rw [List.append_nil] at whole
    rw [outside_open opens, whole, inside]
    rfl
  | nestedOpen opens lone =>
    rw [outside_open opens, inside_twice, inside_nested lone, Nat.add_assoc]
    rfl

/-! ## Every text is written -/

/-- A text is written with doubled braces only, or as far as a lone one. -/
theorem exists_twice (text : List Char) :
    (∃ run, text = twice isBrace run) ∨
      ∃ run c rest, isBrace c = true ∧ rest.head? ≠ some c ∧
        text = twice isBrace run ++ c :: rest := by
  -- A doubled brace is two characters of the text, so the induction is on its length.
  induction h : text.length using Nat.strongRecOn generalizing text with
  | ind n ih =>
  subst h
  match text with
  | [] => exact .inl ⟨[], rfl⟩
  | c :: rest =>
    cases brace : isBrace c with
    | false =>
      rcases ih rest.length (Nat.lt_succ_self _) rest rfl with
        ⟨run, rfl⟩ | ⟨run, b, tail, brace_b, lone, rfl⟩
      · exact .inl ⟨c :: run, by rw [twice_cons_neg brace]⟩
      · exact .inr ⟨c :: run, b, tail, brace_b, lone, by rw [twice_cons_neg brace]; rfl⟩
    | true =>
      by_cases doubled : rest.head? = some c
      · obtain ⟨rest, rfl⟩ := List.head?_eq_some_iff.mp doubled
        have shorter : rest.length < (c :: c :: rest).length := by
          simp only [List.length_cons]
          omega
        rcases ih rest.length shorter rest rfl with
          ⟨run, rfl⟩ | ⟨run, b, tail, brace_b, lone, rfl⟩
        · exact .inl ⟨c :: run, by rw [twice_cons_pos brace]⟩
        · exact .inr ⟨c :: run, b, tail, brace_b, lone, by rw [twice_cons_pos brace]; rfl⟩
      · exact .inr ⟨[], c, rest, brace, doubled, rfl⟩

theorem head?_ne_of_twice {c : Char} {run rest : List Char}
    (h : (twice isBrace run ++ rest).head? ≠ some c) : run.head? ≠ some c := by
  intro start
  rw [head?_twice_append, start] at h
  exact h rfl

/-- A text is the writing of a legible outline, and then an ending. -/
structure WrittenAs (text : List Char) (o : Outline) (tail : List Char)
    (ending : Option (Nat × TemplateFault)) : Prop where
  legible : o.Legible
  apart : o.Apart tail
  ends : Ending tail ending
  written : text = o.written ++ tail

variable {text tail : List Char} {o : Outline} {ending : Option (Nat × TemplateFault)}

theorem Ending.writtenAs (h : Ending tail ending) (run : List Char) :
    WrittenAs (twice isBrace run ++ tail) ⟨run, []⟩ tail ending where
  legible _ _ mem := absurd mem List.not_mem_nil
  apart _ _ last := nomatch last
  ends := h
  written := by simp [Outline.written, writtenRest]

/-- A complete expression and the text before it. -/
theorem WrittenAs.expression (h : WrittenAs text o tail ending) (run expression : List Char)
    (opens : (twice isBrace expression ++ '\x7d' :: text).head? ≠ some '\x7b')
    (closes : text.head? ≠ some '\x7d') :
    WrittenAs (twice isBrace run ++ '\x7b' :: (twice isBrace expression ++ '\x7d' :: text))
      ((o.marker expression).prepend run) tail ending := by
  obtain ⟨legible, apart, ends, rfl⟩ := h
  have stop : o.first.head? ≠ some '\x7d' := by
    rw [Outline.written, List.append_assoc] at closes
    exact head?_ne_of_twice closes
  refine ⟨legible.marker (head?_ne_of_twice opens) stop, apart.marker closes, ends, ?_⟩
  simp [Outline.written, Outline.prepend, Outline.marker, writtenRest, twice]

/-- **Every text is the writing of a legible outline and an ending.** -/
theorem exists_writtenAs (text : List Char) : ∃ o tail ending, WrittenAs text o tail ending := by
  induction h : text.length using Nat.strongRecOn generalizing text with
  | ind n ih =>
  subst h
  rcases exists_twice text with ⟨run, rfl⟩ | ⟨run, c, rest, brace, opens, rfl⟩
  · exact ⟨_, _, _, by simpa using Ending.complete.writtenAs run⟩
  rcases isBrace_iff.mp brace with rfl | rfl
  · rcases exists_twice rest with ⟨expression, rfl⟩ | ⟨expression, c, rest, brace, lone, rfl⟩
    · exact ⟨_, _, _, (Ending.unterminated opens).writtenAs run⟩
    · rcases isBrace_iff.mp brace with rfl | rfl
      · exact ⟨_, _, _, (Ending.nestedOpen opens lone).writtenAs run⟩
      · -- The expression is complete, and what comes after it is shorter.
        have shorter : rest.length < (twice isBrace run ++
            '\x7b' :: (twice isBrace expression ++ '\x7d' :: rest)).length := by
          simp only [List.length_append, List.length_cons]
          omega
        obtain ⟨o, tail, ending, later⟩ := ih rest.length shorter rest rfl
        exact ⟨_, _, _, later.expression run expression opens lone⟩
  · exact ⟨_, _, _, (Ending.strayClose opens).writtenAs run⟩

/-- **The reading of a text** has the outline that the text is written as, and its fault. -/
theorem WrittenAs.reading (h : WrittenAs text o tail ending) :
    (read (.ofList text)).outline = o ∧
      (read (.ofList text)).fault =
        ending.map fun (i, fault) => (o.written.length + i, fault) := by
  obtain ⟨outline, fault⟩ := outside_written h.legible h.apart 0
  rw [← h.written, outside_ending h.ends] at outline fault
  rw [read, String.toList_ofList, outline, fault, Nat.zero_add]
  exact ⟨o.append_empty, rfl⟩

theorem WrittenAs.segments (h : WrittenAs text o tail ending) :
    sql (read (.ofList text)).segments = o.sql ∧
      labels (read (.ofList text)).segments = o.labels := by
  have same : Outline.ofSegments (read (.ofList text)).segments = o := h.reading.1
  rw [← Outline.sql_ofSegments, ← Outline.labels_ofSegments, same]
  exact ⟨rfl, rfl⟩

theorem WrittenAs.whole (legible : o.Legible) : WrittenAs o.written o [] none where
  legible := legible
  apart closing := absurd closing nofun
  ends := .complete
  written := (List.append_nil _).symm

/-- **What is written is read**: a legible outline's template is read to the end,
and has that outline. -/
theorem outline_read (legible : o.Legible) :
    (read o.template).outline = o ∧ (read o.template).fault = none :=
  (WrittenAs.whole legible).reading

/-- **What is read to the end was written**, and from what was read. -/
theorem template_outline {template : String} (complete : (read template).fault = none) :
    (read template).outline.Legible ∧ (read template).outline.template = template := by
  obtain ⟨o, tail, ending, written⟩ := exists_writtenAs template.toList
  obtain ⟨outline, fault⟩ := written.reading
  rw [String.ofList_toList] at outline fault
  obtain ⟨legible, -, ends, text⟩ := written
  rw [complete] at fault
  cases ends with
  | complete =>
    rw [List.append_nil] at text
    rw [outline, Outline.template, ← text, String.ofList_toList]
    exact ⟨legible, rfl⟩
  | _ => cases fault

theorem segments_read (legible : o.Legible) :
    sql (read o.template).segments = o.sql ∧ labels (read o.template).segments = o.labels :=
  (WrittenAs.whole legible).segments

theorem bind_template (legible : o.Legible) {σ : Type} {eval : String → Effect σ Arg}
    {world world' : σ} {args : List Arg}
    (evaluated : o.labels.mapM eval world = (.ok args, world')) :
    bind o.template eval world = (.ok ⟨o.sql, args⟩, world') := by
  obtain ⟨text, names⟩ := segments_read legible
  rw [bind_apply, names, evaluated]
  simp only [Reading.finish, (outline_read legible).2, text]

end Expression

/-! ## Templates and outlines -/

open Expression

/-- **Templates with expressions are the writings of legible outlines, each of one.**
The template of a legible outline makes the outline's SQL with what its expressions
evaluate to, in whatever world, and each expression is handed to the evaluator once
and in order. A template that has a statement, under any evaluator, is written from
exactly one legible outline. -/
theorem expression_templates_read_back :
    (∀ (o : Outline), o.Legible → ∀ {σ : Type} (eval : String → Effect σ Arg) (world world' : σ)
      (args : List Arg), o.labels.mapM eval world = (.ok args, world') →
      watch o.template eval world = (.ok ⟨o.sql, args⟩, world', o.labels)) ∧
    (∀ (o : Outline), o.Legible → ∀ (eval : String → Except DbError Arg) (value : String → Arg),
      (∀ expression ∈ o.labels, eval expression = .ok (value expression)) →
      normalize o.template (.evaluated eval) = .ok ⟨o.sql, o.labels.map value⟩) ∧
    ∀ (template : String) {σ : Type} (eval : String → Effect σ Arg) (world : σ) (s : Statement),
      (bind template eval world).1 = .ok s → ∃! o : Outline, o.Legible ∧ o.template = template := by
  refine ⟨?_, ?_, ?_⟩
  · intro o legible σ eval world world' args evaluated
    obtain ⟨handed, -, watched, all⟩ := watch_eq o.template eval world
    have bound := bind_template legible evaluated
    rw [bound] at watched all
    rw [watched, (all _ rfl).1, (segments_read legible).2]
  · intro o legible eval value answers
    have evaluated : o.labels.mapM (steady eval) () = (.ok (o.labels.map value), ()) := by
      rw [mapM_steady, Except.mapM_of_forall_ok answers]
    have bound := bind_template legible evaluated
    rw [bind_steady] at bound
    exact congrArg Prod.fst bound
  · intro template σ eval world s ok
    refine ⟨(read template).outline, template_outline (bind_ok ok).1, ?_⟩
    rintro o ⟨legible, rfl⟩
    exact (outline_read legible).1.symm

/-- Braces on both sides of the braces of an expression, and an empty expression. -/
def Outline.embraced : Outline := ⟨['\x7b'], [(['\x7d'], ['\x7b', '-']), ([], [])]⟩

theorem expression_templates_read_back_embraced :
    Outline.embraced.Legible ∧
    watch "\x7b\x7b\x7b\x7d\x7d\x7d\x7b\x7b-\x7b\x7d"
      (fun name calls => (.ok (.raw (.text name)), calls + 1)) 0 =
      (.ok ⟨"\x7b?\x7b-?", [.raw (.text "\x7d"), .raw (.text "")]⟩, 2, ["\x7d", ""]) ∧
    ∃! o : Outline, o.Legible ∧ o.template = "\x7b\x7b\x7b\x7d\x7d\x7d\x7b\x7b-\x7b\x7d" := by
  obtain ⟨forward, -, backward⟩ := expression_templates_read_back
  have legible : Outline.embraced.Legible := by
    intro e t mem
    simp only [Outline.embraced, List.mem_cons, Prod.mk.injEq, List.not_mem_nil, or_false] at mem
    rcases mem with ⟨rfl, rfl⟩ | ⟨rfl, rfl⟩ <;> decide
  have watched := forward .embraced legible
    (fun name calls => (.ok (.raw (.text name)), calls + 1)) 0 2 _ rfl
  refine ⟨legible, watched, ?_⟩
  exact backward _ (steady fun name => .ok (.raw (.text name))) () _ rfl

end SqlBind.Template
