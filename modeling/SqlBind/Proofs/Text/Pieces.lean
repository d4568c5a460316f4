/-
What cutting and trimming answer, said without the way they take. The pieces of a
text are those without the separator that are the text with separators between them
(`split_eq_iff`), and the trimmed text is what is left of it without blanks before
and after that neither starts nor ends with one (`trim_eq_iff`).
-/
import SqlBind.Text.Blank

namespace SqlBind.Text

/-! ## Pieces between separators -/

/-- The pieces of a text between the separators in it. -/
structure Pieces (separator : Char) (text : List Char) (pieces : List (List Char)) : Prop where
  some : pieces ≠ []
  free : ∀ piece ∈ pieces, separator ∉ piece
  joined : text = [separator].intercalate pieces

theorem split_eq_splitOn (separator : Char) (cs : List Char) :
    split separator cs = cs.splitOn separator := by
  induction cs with
  | nil => rfl
  | cons c cs ih =>
    rw [split, List.splitOn_cons_eq_if_modifyHead, ih]
    by_cases same : c = separator
    · rw [if_pos same, if_pos (by simp [same])]
    · rw [if_neg same, if_neg (by simp [same])]
      obtain ⟨piece, pieces, eq⟩ :=
        List.exists_cons_of_ne_nil (List.splitOn_ne_nil separator cs)
      rw [eq]
      rfl

theorem not_mem_of_mem_split {separator : Char} {cs piece : List Char}
    (h : piece ∈ split separator cs) : separator ∉ piece := by
  induction cs generalizing piece with
  | nil =>
    obtain rfl := List.mem_singleton.mp h
    simp
  | cons c cs ih =>
    rw [split] at h
    split at h
    · rcases List.mem_cons.mp h with rfl | later
      · simp
      · exact ih later
    · next other =>
      have ne : separator ≠ c := fun same => other same.symm
      split at h
      · obtain rfl := List.mem_singleton.mp h
        simpa using ne
      · next first pieces eq =>
        rcases List.mem_cons.mp h with rfl | later
        · have free : separator ∉ first := ih (by simp [eq])
          simp [ne, free]
        · exact ih (by simp [eq, later])

theorem split_eq_iff {separator : Char} {cs : List Char} {pieces : List (List Char)} :
    split separator cs = pieces ↔ Pieces separator cs pieces := by
  rw [split_eq_splitOn]
  constructor
  · rintro rfl
    refine ⟨List.splitOn_ne_nil separator cs, fun piece mem => ?_, ?_⟩
    · rw [← split_eq_splitOn] at mem
      exact not_mem_of_mem_split mem
    · rw [List.intercalate_splitOn]
  · rintro ⟨some, free, rfl⟩
    exact List.splitOn_intercalate separator free some

/-! ## Without blanks around -/

/-- A text without the blanks before and after it. -/
structure Trims (text core : List Char) : Prop where
  around : ∃ before after, text = before ++ core ++ after ∧
    (∀ c ∈ before, isBlank c = true) ∧ ∀ c ∈ after, isBlank c = true
  first : ∀ c ∈ core.head?, isBlank c = false
  last : ∀ c ∈ core.getLast?, isBlank c = false

theorem exists_trimStart (cs : List Char) :
    ∃ before, cs = before ++ trimStart cs ∧ ∀ c ∈ before, isBlank c = true :=
  ⟨cs.takeWhile isBlank, List.takeWhile_append_dropWhile.symm,
    List.all_eq_true.mp List.all_takeWhile⟩

theorem trimStart_append {before : List Char} (blank : ∀ c ∈ before, isBlank c = true)
    (cs : List Char) : trimStart (before ++ cs) = trimStart cs :=
  List.dropWhile_append_of_pos blank

theorem head?_trimStart (cs : List Char) : ∀ c ∈ (trimStart cs).head?, isBlank c = false := by
  intro c mem
  have start := List.head?_dropWhile_not isBlank cs
  rw [show (cs.dropWhile isBlank).head? = some c from mem] at start
  exact start

theorem trims_trim (cs : List Char) : Trims cs (trim cs) := by
  obtain ⟨before, whole, blankBefore⟩ := exists_trimStart cs
  obtain ⟨after, reversed, blankAfter⟩ := exists_trimStart (trimStart cs).reverse
  have core : trimStart cs = trim cs ++ after.reverse := by
    rw [trim, ← List.reverse_append, ← reversed, List.reverse_reverse]
  refine ⟨⟨before, after.reverse, ?_, blankBefore, by simpa using blankAfter⟩, ?_, ?_⟩
  · rw [List.append_assoc, ← core]
    exact whole
  · intro c mem
    refine head?_trimStart cs c ?_
    rw [core, List.head?_append, mem]
    rfl
  · rw [trim, List.getLast?_reverse]
    exact head?_trimStart _

theorem trim_eq_iff {text core : List Char} : trim text = core ↔ Trims text core := by
  constructor
  · rintro rfl
    exact trims_trim text
  · rintro ⟨⟨before, after, rfl, blankBefore, blankAfter⟩, first, last⟩
    have blankReversed : ∀ c ∈ after.reverse, isBlank c = true := by simpa using blankAfter
    cases core with
    | nil =>
      have all : ∀ c ∈ before ++ [] ++ after, isBlank c = true := by
        simpa [or_imp, forall_and] using ⟨blankBefore, blankAfter⟩
      have none := trimStart_append all []
      rw [List.append_nil] at none
      rw [trim, none]
      rfl
    | cons c core =>
      have start : trimStart (before ++ (c :: core) ++ after) = (c :: core) ++ after := by
        rw [List.append_assoc, trimStart_append blankBefore]
        exact trimStart_eq_self (by simpa using first)
      have ends : ∀ d ∈ (c :: core).reverse.head?, isBlank d = false := by
        rw [List.head?_reverse]
        exact last
      rw [trim, start, List.reverse_append, trimStart_append blankReversed, trimStart_eq_self ends,
        List.reverse_reverse]

end SqlBind.Text
