/-
Named markers by the colons alone. A text is cut at its maximal runs of colons, in
one way (`Cut.existsUnique`). Of every run the pairs are copied, and a run that is
odd opens a marker with its last colon, whose name is as much of the text after it
as can stand in a name (`segments_inName`). So the SQL and the names of a template
are put together from its runs, one after the other.
-/
import Mathlib.Data.List.Chain
import Mathlib.Logic.ExistsUnique
import SqlBind.Params
import SqlBind.Proofs.Template.Outline

namespace SqlBind.Template

namespace Named

/-- Whether a character may stand in a name. -/
def isNamed (c : Char) : Bool := !isSymbol c

/-! ## A text cut at its colons -/

/-- Colons in a row, and the text after them up to the next colon. -/
structure ColonRun where
  length : Nat
  after : List Char
  deriving DecidableEq, Repr

/-- A text, and runs of colons with the text after each. -/
structure Cut where
  first : List Char
  runs : List ColonRun
  deriving DecidableEq, Repr

namespace ColonRun

/-- The characters of a run and of the text after it. -/
def chars (run : ColonRun) : List Char := List.replicate run.length ':' ++ run.after

/-- Whether the last colon of a run opens a marker: all others stand in pairs. -/
def opens (run : ColonRun) : Bool := run.length % 2 = 1

/-- The name of the marker that a run opens: the longest name that the text after it starts with. -/
def name? (run : ColonRun) : Option String :=
  if run.opens then some (.ofList (run.after.takeWhile isNamed)) else none

/-- What a run and the text after it are in the SQL: the pairs of colons, and the
text, or a question mark and the text without the name. -/
def sql (run : ColonRun) : List Char :=
  (List.replicate (run.length / 2) [':', ':']).flatten ++
    if run.opens then '?' :: run.after.dropWhile isNamed else run.after

end ColonRun

namespace Cut

/-- The characters of the text that is cut. -/
def chars (cut : Cut) : List Char := cut.first ++ cut.runs.flatMap ColonRun.chars

/-- The text that is cut. -/
def text (cut : Cut) : String := .ofList cut.chars

/-- The SQL: what stands before the first colon, and what each run is. -/
def sql (cut : Cut) : String := .ofList (cut.first ++ cut.runs.flatMap ColonRun.sql)

/-- The names of the markers, in order. -/
def names (cut : Cut) : List String := cut.runs.filterMap ColonRun.name?

/-- The runs hold all colons, and no two stand next to each other. -/
structure Maximal (cut : Cut) : Prop where
  first : ':' ∉ cut.first
  runs : ∀ run ∈ cut.runs, 0 < run.length ∧ ':' ∉ run.after
  apart : cut.runs.IsChain fun run _ => run.after ≠ []

/-- A cut with one more colon before it. -/
def colon : Cut → Cut
  | ⟨[], run :: runs⟩ => ⟨[], ⟨run.length + 1, run.after⟩ :: runs⟩
  | ⟨first, runs⟩ => ⟨[], ⟨1, first⟩ :: runs⟩

/-- A cut with one more character before it. -/
def cons (c : Char) (cut : Cut) : Cut :=
  if c = ':' then cut.colon else ⟨c :: cut.first, cut.runs⟩

/-- A text cut at its runs of colons. -/
def ofChars (text : List Char) : Cut := text.foldr cons ⟨[], []⟩

theorem chars_colon (cut : Cut) : cut.colon.chars = ':' :: cut.chars := by
  obtain ⟨first, runs⟩ := cut
  cases first with
  | nil =>
    cases runs with
    | nil => rfl
    | cons run runs =>
      simp only [colon, chars, ColonRun.chars, List.flatMap_cons, List.nil_append,
        List.replicate_succ, List.cons_append]
  | cons c first => rfl

theorem chars_cons (c : Char) (cut : Cut) : (cut.cons c).chars = c :: cut.chars := by
  unfold cons
  split
  · rename_i h
    rw [h, chars_colon]
  · rfl

theorem Maximal.colon {cut : Cut} (h : cut.Maximal) : cut.colon.Maximal := by
  obtain ⟨first, runs⟩ := cut
  obtain ⟨hfirst, hruns, apart⟩ := h
  cases first with
  | nil =>
    cases runs with
    | nil => exact ⟨by simp [Cut.colon], by simp [Cut.colon], by simp [Cut.colon]⟩
    | cons run runs =>
      refine ⟨by simp [Cut.colon], ?_, ?_⟩
      · intro other mem
        rcases List.mem_cons.mp mem with rfl | mem
        · exact ⟨Nat.succ_pos _, (hruns run (by simp)).2⟩
        · exact hruns other (List.mem_cons_of_mem _ mem)
      · cases runs with
        | nil => exact List.isChain_singleton _
        | cons next runs => simpa [Cut.colon] using apart
  | cons c first =>
    refine ⟨by simp [Cut.colon], ?_, ?_⟩
    · intro other mem
      rcases List.mem_cons.mp mem with rfl | mem
      · exact ⟨Nat.one_pos, hfirst⟩
      · exact hruns other mem
    · cases runs with
      | nil => exact List.isChain_singleton _
      | cons next runs => simpa [Cut.colon] using apart

theorem Maximal.cons {cut : Cut} (h : cut.Maximal) (c : Char) : (cut.cons c).Maximal := by
  unfold Cut.cons
  split
  · exact h.colon
  · rename_i other
    refine ⟨?_, h.runs, h.apart⟩
    simpa [Ne.symm other] using h.first

theorem maximal_ofChars (text : List Char) : (ofChars text).Maximal := by
  induction text with
  | nil => exact ⟨by simp [ofChars], by simp [ofChars], by simp [ofChars]⟩
  | cons c text ih => exact ih.cons c

theorem chars_ofChars (text : List Char) : (ofChars text).chars = text := by
  induction text with
  | nil => rfl
  | cons c text ih => rw [ofChars, List.foldr_cons, chars_cons, ← ofChars, ih]

theorem ofChars_append {first : List Char} (h : ':' ∉ first) (rest : List Char) :
    ofChars (first ++ rest) = ⟨first ++ (ofChars rest).first, (ofChars rest).runs⟩ := by
  induction first with
  | nil => rfl
  | cons c first ih =>
    obtain ⟨other, later⟩ : ':' ≠ c ∧ ':' ∉ first := by simpa using h
    rw [ofChars, List.cons_append, List.foldr_cons, ← ofChars, ih later, cons, if_neg other.symm]
    rfl

/-- Colons before a text make one run, if the text does not start with a colon. -/
theorem ofChars_colons {n : Nat} {rest : List Char}
    (apart : (ofChars rest).first = [] → (ofChars rest).runs = []) :
    ofChars (List.replicate (n + 1) ':' ++ rest) =
      ⟨[], ⟨n + 1, (ofChars rest).first⟩ :: (ofChars rest).runs⟩ := by
  induction n with
  | zero =>
    have step : ofChars (':' :: rest) = (ofChars rest).colon := rfl
    refine step.trans ?_
    rcases h : ofChars rest with ⟨first, runs⟩
    rw [h] at apart
    cases first with
    | nil => rw [show runs = [] from apart rfl]; rfl
    | cons c first => rfl
  | succ n ih =>
    have step : ofChars (List.replicate (n + 1 + 1) ':' ++ rest) =
      (ofChars (List.replicate (n + 1) ':' ++ rest)).colon := rfl
    rw [step, ih]
    rfl

/-- **A text is cut at its maximal runs of colons in one way.** -/
theorem Maximal.ofChars_chars {cut : Cut} (h : cut.Maximal) : ofChars cut.chars = cut := by
  obtain ⟨first, runs⟩ := cut
  rw [chars, ofChars_append h.first]
  suffices ofChars (runs.flatMap ColonRun.chars) = ⟨[], runs⟩ by rw [this, List.append_nil]
  obtain ⟨-, positive, apart⟩ := h
  induction runs with
  | nil => rfl
  | cons run runs ih =>
    obtain ⟨pos, noColon⟩ := positive run (by simp)
    have later : ofChars (runs.flatMap ColonRun.chars) = ⟨[], runs⟩ :=
      ih (fun r mem => positive r (List.mem_cons_of_mem _ mem)) apart.tail
    have after := ofChars_append noColon (runs.flatMap ColonRun.chars)
    rw [later] at after
    obtain ⟨n, hn⟩ : ∃ n, run.length = n + 1 := ⟨run.length - 1, by omega⟩
    rw [List.flatMap_cons, ColonRun.chars, List.append_assoc, hn, ofChars_colons, after, ← hn]
    · simp
    · rw [after]
      intro empty
      cases runs with
      | nil => rfl
      | cons next runs =>
        have ne : run.after ≠ [] := (List.isChain_cons_cons.mp apart).1
        simp at empty
        exact absurd empty ne

theorem existsUnique (text : String) : ∃! cut : Cut, cut.Maximal ∧ cut.text = text := by
  refine ⟨ofChars text.toList, ⟨maximal_ofChars _, ?_⟩, ?_⟩
  · simp only [Cut.text, chars_ofChars, String.ofList_toList]
  · rintro cut ⟨maximal, rfl⟩
    rw [Cut.text, String.toList_ofList, maximal.ofChars_chars]

end Cut

/-! ## What the reader makes of colons -/

/-- The outline of a text outside every name. -/
def outline (text : List Char) : Outline := .ofSegments (outside text)

/-- **A name is as long as it can be**, and the text goes on after it. -/
theorem inName_eq (name text : List Char) :
    inName name text =
      .marker (name ++ text.takeWhile isNamed) :: outside (text.dropWhile isNamed) := by
  induction text generalizing name with
  | nil => simp [inName, outside]
  | cons c rest ih =>
    by_cases colon : c = ':'
    · -- A name ends before a colon, whether the colon is one of a pair or alone.
      subst colon
      rw [List.takeWhile_cons_of_neg (by decide), List.dropWhile_cons_of_neg (by decide),
        List.append_nil]
      by_cases cast : ∃ rest', rest = ':' :: rest'
      · obtain ⟨rest', rfl⟩ := cast
        rw [inName, outside]
      · rw [inName, outside] <;> exact fun rest' eq => cast ⟨rest', eq⟩
    · have step : inName name (c :: rest) =
          if isSymbol c then .marker name :: prepend c (outside rest)
          else inName (name ++ [c]) rest := by
        rw [inName] <;> simp [colon]
      have copy : outside (c :: rest) = prepend c (outside rest) := by
        rw [outside] <;> simp [colon]
      by_cases symbol : isSymbol c = true
      · have ends : ¬isNamed c = true := by simp [isNamed, symbol]
        rw [step, if_pos symbol, List.takeWhile_cons_of_neg ends, List.dropWhile_cons_of_neg ends,
          List.append_nil, copy]
      · have goesOn : isNamed c = true := by simpa [isNamed] using symbol
        rw [step, if_neg symbol, ih, List.takeWhile_cons_of_pos goesOn,
          List.dropWhile_cons_of_pos goesOn]
        simp

theorem outline_append {text : List Char} (h : ':' ∉ text) (rest : List Char) :
    outline (text ++ rest) = (outline rest).prepend text := by
  induction text with
  | nil => rfl
  | cons c text ih =>
    obtain ⟨other, later⟩ : ':' ≠ c ∧ ':' ∉ text := by simpa using h
    have copy : outside (c :: (text ++ rest)) = prepend c (outside (text ++ rest)) := by
      rw [outside] <;> simp [other.symm]
    rw [List.cons_append, outline, copy, Outline.ofSegments_prepend, ← outline, ih later,
      ← Outline.prepend_append]
    rfl

theorem outline_pair (rest : List Char) :
    outline (':' :: ':' :: rest) = (outline rest).prepend [':', ':'] := by
  rw [outline, outside, Outline.ofSegments_prepend, Outline.ofSegments_prepend, ← outline,
    ← Outline.prepend_append]
  rfl

theorem outline_colon {rest : List Char} (alone : rest.head? ≠ some ':') :
    outline (':' :: rest) =
      (outline (rest.dropWhile isNamed)).marker (rest.takeWhile isNamed) := by
  have step : outside (':' :: rest) = inName [] rest := by
    rw [outside]
    rintro rest' rfl
    exact alone rfl
  rw [outline, step, inName_eq]
  rfl

/-- Of colons in a row the pairs are copied, and one that is left opens a marker. -/
theorem outline_colons {rest : List Char} (alone : rest.head? ≠ some ':') (n : Nat) :
    outline (List.replicate n ':' ++ rest) =
      (if n % 2 = 1 then (outline (rest.dropWhile isNamed)).marker (rest.takeWhile isNamed)
        else outline rest).prepend (List.replicate (n / 2) [':', ':']).flatten := by
  -- Two colons fewer are one pair fewer, and as odd.
  induction n using Nat.twoStepInduction with
  | zero => rfl
  | one => exact outline_colon alone
  | more n ih _ =>
    have pair : List.replicate (n + 2) ':' ++ rest =
        ':' :: ':' :: (List.replicate n ':' ++ rest) := rfl
    have half : (n + 2) / 2 = n / 2 + 1 := by omega
    have parity : (n + 2) % 2 = n % 2 := by omega
    rw [pair, outline_pair, ih, half, parity, List.replicate_succ, List.flatten_cons,
      Outline.prepend_append]

theorem takeWhile_isNamed_append {rest : List Char} (h : rest = [] ∨ rest.head? = some ':')
    (text : List Char) :
    (text ++ rest).takeWhile isNamed = text.takeWhile isNamed ∧
      (text ++ rest).dropWhile isNamed = text.dropWhile isNamed ++ rest := by
  induction text with
  | nil =>
    cases rest with
    | nil => exact ⟨rfl, rfl⟩
    | cons c rest =>
      obtain rfl : c = ':' := by simpa using h
      exact ⟨rfl, rfl⟩
  | cons c text ih =>
    cases named : isNamed c with
    | true => simpa [named] using ih
    | false => simp [named]

theorem ColonRun.head?_flatMap_chars {runs : List ColonRun}
    (positive : ∀ run ∈ runs, 0 < run.length) :
    runs.flatMap ColonRun.chars = [] ∨ (runs.flatMap ColonRun.chars).head? = some ':' := by
  cases runs with
  | nil => exact .inl rfl
  | cons run runs =>
    have pos : 0 < run.length := positive run (by simp)
    obtain ⟨n, hn⟩ : ∃ n, run.length = n + 1 := ⟨run.length - 1, by omega⟩
    exact .inr (by simp [ColonRun.chars, hn, List.replicate_succ])

theorem ColonRun.head?_after_append {run : ColonRun} {runs : List ColonRun}
    (noColon : ':' ∉ run.after)
    (apart : (run :: runs).IsChain fun run _ => run.after ≠ []) :
    (run.after ++ runs.flatMap ColonRun.chars).head? ≠ some ':' := by
  cases after : run.after with
  | nil =>
    cases runs with
    | nil => simp
    | cons next runs => exact absurd after (List.isChain_cons_cons.mp apart).1
  | cons c text =>
    rw [after] at noColon
    obtain ⟨other, -⟩ : ':' ≠ c ∧ ':' ∉ text := by simpa using noColon
    simpa using other.symm

/-- The runs of a cut, read one after the other. -/
theorem outline_runs {runs : List ColonRun}
    (positive : ∀ run ∈ runs, 0 < run.length ∧ ':' ∉ run.after)
    (apart : runs.IsChain fun run _ => run.after ≠ []) :
    (outline (runs.flatMap ColonRun.chars)).chars = runs.flatMap ColonRun.sql ∧
      (outline (runs.flatMap ColonRun.chars)).labels = runs.filterMap ColonRun.name? := by
  induction runs with
  | nil => exact ⟨rfl, rfl⟩
  | cons run runs ih =>
    obtain ⟨-, noColon⟩ := positive run (by simp)
    have later : ∀ r ∈ runs, 0 < r.length ∧ ':' ∉ r.after :=
      fun r mem => positive r (List.mem_cons_of_mem _ mem)
    obtain ⟨sql, names⟩ := ih later apart.tail
    obtain ⟨take, drop⟩ := takeWhile_isNamed_append
      (ColonRun.head?_flatMap_chars fun r mem => (later r mem).1) run.after
    have unnamed : ':' ∉ run.after.dropWhile isNamed :=
      fun mem => noColon ((List.dropWhile_sublist _).mem mem)
    rw [List.flatMap_cons, ColonRun.chars, List.append_assoc,
      outline_colons (ColonRun.head?_after_append noColon apart), take, drop,
      outline_append noColon, outline_append unnamed, List.flatMap_cons, List.filterMap_cons,
      ColonRun.sql, ColonRun.name?, ColonRun.opens]
    by_cases odd : run.length % 2 = 1
    · simp [odd, sql, names]
    · simp [odd, sql, names]

theorem segments_text {cut : Cut} (maximal : cut.Maximal) :
    Template.sql (segments cut.text) = cut.sql ∧ labels (segments cut.text) = cut.names := by
  obtain ⟨sql, names⟩ := outline_runs maximal.runs maximal.apart
  have read : Outline.ofSegments (segments cut.text) =
      (outline (cut.runs.flatMap ColonRun.chars)).prepend cut.first := by
    rw [segments, Cut.text, String.toList_ofList, Cut.chars, ← outline,
      outline_append maximal.first]
  rw [← Outline.sql_ofSegments, ← Outline.labels_ofSegments, read, Outline.sql,
    Outline.chars_prepend, Outline.labels_prepend, sql, names]
  exact ⟨rfl, rfl⟩

/-! ## Counting -/

theorem length_names (cut : Cut) : cut.names.length = cut.runs.countP ColonRun.opens := by
  rw [Cut.names]
  induction cut.runs with
  | nil => rfl
  | cons run runs ih =>
    cases opens : run.opens with
    | true => simp [ColonRun.name?, opens, ih]
    | false => simp [ColonRun.name?, opens, ih]

theorem count_dropWhile_isNamed (text : List Char) :
    (text.dropWhile isNamed).count '?' = text.count '?' := by
  induction text with
  | nil => rfl
  | cons c text ih =>
    cases named : isNamed c with
    | true =>
      -- The question mark is a symbol, so a name holds none.
      have ne : c ≠ '?' := by
        rintro rfl
        exact absurd named (by decide)
      rw [List.dropWhile_cons_of_pos named, ih, List.count_cons_of_ne ne]
    | false => rw [List.dropWhile_cons_of_neg (by simp [named])]

theorem count_pairs (n : Nat) : ((List.replicate n [':', ':']).flatten).count '?' = 0 := by
  induction n with
  | zero => rfl
  | succ n ih => rw [List.replicate_succ, List.flatten_cons, List.count_append, ih]; rfl

theorem count_sql (cut : Cut) :
    cut.sql.toList.count '?' = cut.text.toList.count '?' + cut.names.length := by
  rw [length_names, Cut.sql, Cut.text, String.toList_ofList, String.toList_ofList, Cut.chars,
    List.count_append, List.count_append, Nat.add_assoc]
  congr 1
  induction cut.runs with
  | nil => rfl
  | cons run runs ih =>
    have colons : (List.replicate run.length ':').count '?' = 0 := by
      rw [List.count_replicate]; rfl
    rw [List.flatMap_cons, List.flatMap_cons, List.count_append, List.count_append, ih,
      ColonRun.sql, ColonRun.chars, List.count_append, List.count_append, count_pairs, colons]
    cases opens : run.opens with
    | true =>
      rw [if_pos rfl, List.count_cons_self, count_dropWhile_isNamed, List.countP_cons_of_pos opens]
      omega
    | false =>
      rw [if_neg (by simp), List.countP_cons_of_neg (by simp [opens])]
      omega

end Named

/-! ## Templates with named markers -/

open Named

/-- **The markers of a template are the odd runs of its colons.** A template has one
cut at its maximal runs of colons, and its statement is that of the cut: the SQL,
in which each run has its pairs and one question mark for a last colon and the
name after it; and for each name, in order, its argument, or `NULL` if there is
none. So there are as many arguments as odd runs, and as many more question marks
in the SQL than in the template. -/
theorem named_markers_are_odd_colon_runs :
    (∀ template : String, ∃! cut : Cut, cut.Maximal ∧ cut.text = template) ∧
    ∀ cut : Cut, cut.Maximal → ∀ args : NamedArgs, ∃ s,
      normalize cut.text (.named args) = .ok s ∧
      s.sql = cut.sql ∧
      s.args = cut.names.map (fun name => (args.get? name).getD .null) ∧
      s.args.length = cut.runs.countP ColonRun.opens ∧
      s.sql.toList.count '?' = cut.text.toList.count '?' + s.args.length := by
  refine ⟨Cut.existsUnique, fun cut maximal args => ?_⟩
  obtain ⟨text, names⟩ := segments_text maximal
  have arguments : (Named.bind cut.text args).args =
      cut.names.map (fun name => (args.get? name).getD .null) :=
    congrArg (List.map (lookup args)) names
  refine ⟨_, rfl, text, arguments, ?_, ?_⟩
  · rw [arguments, List.length_map, length_names]
  · have sql : (Named.bind cut.text args).sql = cut.sql := text
    rw [arguments, List.length_map, sql, count_sql]

/-- A cast, two markers side by side, one after a cast, and one without a name. -/
def Named.Cut.casts : Cut :=
  ⟨"a".toList, [⟨2, "b?".toList⟩, ⟨1, "x".toList⟩, ⟨1, "y".toList⟩, ⟨3, "z\\ , ".toList⟩, ⟨1, []⟩]⟩

theorem named_markers_are_odd_colon_runs_casts :
    Cut.casts.Maximal ∧ ∃ s,
      normalize "a::b?:x:y:::z\\ , :" (.named (.ofList [("z\\", .raw (.int 5))])) = .ok s ∧
      s.sql = "a::b???::? , ?" ∧ s.args = [.null, .null, .raw (.int 5), .null] := by
  have maximal : Cut.casts.Maximal := ⟨by decide, by decide, by decide⟩
  obtain ⟨s, normalized, sql, args, -⟩ :=
    named_markers_are_odd_colon_runs.2 .casts maximal (.ofList [("z\\", .raw (.int 5))])
  exact ⟨maximal, s, normalized, sql, args⟩

end SqlBind.Template
