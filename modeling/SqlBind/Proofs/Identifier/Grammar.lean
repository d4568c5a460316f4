/-
The grammar of names. A name is one or more parts with single dots between them;
a part is a letter or underscore with letters, digits and `_`, `$`, `#` behind it,
or it stands between double quotes, in which a quote is written twice. The check
reads from left to right and accepts just these names (`names_are_dotted_parts`):
where it is at a place, what is left of the name is what the grammar allows there
(`Place.Leaves`).
-/
import SqlBind.Identifier
import SqlBind.Text.Quote

namespace SqlBind.Identifier

open Text

/-! ## The grammar -/

/-- A letter of the Latin alphabet, without accents. -/
def Letter (c : Char) : Prop := ('a' ≤ c ∧ c ≤ 'z') ∨ ('A' ≤ c ∧ c ≤ 'Z')

def Digit (c : Char) : Prop := '0' ≤ c ∧ c ≤ '9'

/-- A character that may follow in a part without quotes. -/
def Follows (c : Char) : Prop := Letter c ∨ Digit c ∨ c ∈ ['_', '$', '#']

/-- A part of a name. -/
inductive IsPart : List Char → Prop
  | bare {first : Char} {rest : List Char} (start : Letter first ∨ first = '_')
    (follow : ∀ c ∈ rest, Follows c) : IsPart (first :: rest)
  | quoted {content : List Char} (some : content ≠ []) (noNul : '\x00' ∉ content) :
    IsPart ('"' :: (twice (· = '"') content ++ ['"']))

/-- One or more parts with a dot between each two. -/
inductive IsPath : List Char → Prop
  | last {part : List Char} (h : IsPart part) : IsPath part
  | more {part rest : List Char} (h : IsPart part) (others : IsPath rest) :
    IsPath (part ++ '.' :: rest)

theorem isPath_iff {cs : List Char} :
    IsPath cs ↔ ∃ parts : List String, parts ≠ [] ∧ (∀ part ∈ parts, IsPart part.toList) ∧
      cs = (".".intercalate parts).toList := by
  constructor
  · intro path
    induction path with
    | @last part h => exact ⟨[.ofList part], by simp, by simpa using h, by simp⟩
    | @more part rest h others ih =>
      obtain ⟨parts, some, all, rfl⟩ := ih
      obtain ⟨next, parts, rfl⟩ := List.exists_cons_of_ne_nil some
      refine ⟨.ofList part :: next :: parts, by simp, ?_, ?_⟩
      · intro p mem
        rcases List.mem_cons.mp mem with rfl | mem
        · simpa using h
        · exact all p mem
      · rw [String.intercalate_cons_cons]
        simp
  · rintro ⟨parts, some, all, rfl⟩
    induction parts with
    | nil => exact absurd rfl some
    | cons part parts ih =>
      have first : IsPart part.toList := all part (by simp)
      cases parts with
      | nil => simpa using IsPath.last first
      | cons next parts =>
        have others := ih (by simp) fun p mem => all p (by simp [mem])
        rw [String.intercalate_cons_cons]
        simpa using IsPath.more first others

/-! ## Classes of characters -/

theorem isAlpha_iff {c : Char} : c.isAlpha = true ↔ Letter c := by
  unfold Char.isAlpha Char.isUpper Char.isLower
  simp only [Letter, Char.le_def, Bool.or_eq_true, Bool.and_eq_true, decide_eq_true_eq, ge_iff_le]
  exact or_comm

theorem isDigit_iff {c : Char} : c.isDigit = true ↔ Digit c := by
  simp only [Char.isDigit, Digit, Char.le_def, Bool.and_eq_true, decide_eq_true_eq, ge_iff_le]

theorem isStart_iff {c : Char} : isStart c = true ↔ Letter c ∨ c = '_' := by
  rw [isStart, Bool.or_eq_true, decide_eq_true_eq, isAlpha_iff]

theorem isFollow_iff {c : Char} : isFollow c = true ↔ Follows c := by
  simp only [isFollow, Follows, Char.isAlphanum, Bool.or_eq_true, decide_eq_true_eq, isAlpha_iff,
    isDigit_iff, List.mem_cons, List.not_mem_nil, or_false, or_assoc]

theorem Follows.ne {c d : Char} (h : Follows c) (other : isFollow d = false) : c ≠ d := by
  rintro rfl
  rw [isFollow_iff.mpr h] at other
  cases other

theorem ne_quote_of_start {c : Char} (h : Letter c ∨ c = '_') : c ≠ '"' := by
  rintro rfl
  have start : isStart '"' = true := isStart_iff.mpr h
  cases start

/-! ## What may be left of a name -/

/-- What may follow a part: nothing, or a dot and more parts. -/
def Ends (cs : List Char) : Prop := cs = [] ∨ ∃ rest, cs = '.' :: rest ∧ IsPath rest

/-- What may follow in a part without quotes. -/
def Goes (cs : List Char) : Prop :=
  ∃ follow rest, cs = follow ++ rest ∧ (∀ c ∈ follow, Follows c) ∧ Ends rest

/-- What may follow between quotes, where `empty` says that nothing stands there yet. -/
def Closes (empty : Bool) (cs : List Char) : Prop :=
  ∃ content rest, cs = twice (· = '"') content ++ '"' :: rest ∧ '\x00' ∉ content ∧
    (empty = true → content ≠ []) ∧ Ends rest

/-- What may be left of a name where the check is at a place. -/
def Place.Leaves : Place → List Char → Prop
  | .start, cs => IsPath cs
  | .bare, cs => Goes cs
  | .quoted empty, cs => Closes empty cs
  | .afterQuote empty, cs => (empty = false ∧ Ends cs) ∨ ∃ rest, cs = '"' :: rest ∧ Closes false rest

theorem isPath_iff_part {cs : List Char} :
    IsPath cs ↔ ∃ part rest, cs = part ++ rest ∧ IsPart part ∧ Ends rest := by
  constructor
  · rintro (⟨h⟩ | ⟨h, others⟩)
    · exact ⟨cs, [], by simp, h, .inl rfl⟩
    · exact ⟨_, _, rfl, h, .inr ⟨_, rfl, others⟩⟩
  · rintro ⟨part, rest, rfl, h, rfl | ⟨rest, rfl, others⟩⟩
    · rw [List.append_nil]
      exact .last h
    · exact .more h others

theorem ends_cons {c : Char} {cs : List Char} : Ends (c :: cs) ↔ c = '.' ∧ IsPath cs := by
  constructor
  · rintro (empty | ⟨rest, eq, path⟩)
    · cases empty
    · cases eq
      exact ⟨rfl, path⟩
  · rintro ⟨rfl, path⟩
    exact .inr ⟨cs, rfl, path⟩

theorem not_isPath_nil : ¬IsPath [] := by
  rw [isPath_iff_part]
  rintro ⟨part, rest, eq, h, -⟩
  cases h <;> cases eq

theorem isPath_cons {c : Char} {cs : List Char} :
    IsPath (c :: cs) ↔ if c = '"' then Closes true cs else isStart c = true ∧ Goes cs := by
  rw [isPath_iff_part, isStart_iff]
  constructor
  · rintro ⟨part, rest, eq, h, ends⟩
    cases h with
    | @bare first follow start all =>
      cases eq
      rw [if_neg (ne_quote_of_start start)]
      exact ⟨start, follow, rest, rfl, all, ends⟩
    | @quoted content some noNul =>
      obtain ⟨rfl, rfl⟩ : c = '"' ∧ cs = twice (· = '"') content ++ '"' :: rest := by simpa using eq
      rw [if_pos rfl]
      exact ⟨content, rest, rfl, noNul, fun _ => some, ends⟩
  · split
    · next quote =>
      rintro ⟨content, rest, rfl, noNul, some, ends⟩
      exact ⟨_, rest, by simp [quote], .quoted (some rfl) noNul, ends⟩
    · rintro ⟨start, follow, rest, rfl, all, ends⟩
      exact ⟨c :: follow, rest, rfl, .bare start all, ends⟩

theorem goes_nil : Goes [] := ⟨[], [], rfl, by simp, .inl rfl⟩

theorem goes_cons {c : Char} {cs : List Char} :
    Goes (c :: cs) ↔ if c = '.' then IsPath cs else isFollow c = true ∧ Goes cs := by
  rw [isFollow_iff]
  constructor
  · rintro ⟨_ | ⟨d, follow⟩, rest, eq, all, ends⟩
    · rw [List.nil_append] at eq
      subst eq
      obtain ⟨dot, path⟩ := ends_cons.mp ends
      rwa [if_pos dot]
    · cases eq
      obtain ⟨h, later⟩ := List.forall_mem_cons.mp all
      rw [if_neg (h.ne (by decide))]
      exact ⟨h, follow, rest, rfl, later, ends⟩
  · split
    · next dot => exact fun path => ⟨[], c :: cs, rfl, by simp, ends_cons.mpr ⟨dot, path⟩⟩
    · rintro ⟨h, follow, rest, rfl, all, ends⟩
      exact ⟨c :: follow, rest, rfl, List.forall_mem_cons.mpr ⟨h, all⟩, ends⟩

theorem not_closes_nil {empty : Bool} : ¬Closes empty [] := by
  rintro ⟨content, rest, eq, -⟩
  have length := congrArg List.length eq
  simp at length

theorem afterQuote_cons {empty : Bool} {c : Char} {cs : List Char} :
    (Place.afterQuote empty).Leaves (c :: cs) ↔
      if c = '"' then Closes false cs else empty = false ∧ c = '.' ∧ IsPath cs := by
  rw [Place.Leaves, ends_cons]
  split
  · next quote => simp [quote]
  · next quote => simp [quote]

/-- A quote between quotes is the end of the part, or the first of two that are one
character of its content. -/
theorem closes_cons {empty : Bool} {c : Char} {cs : List Char} :
    Closes empty (c :: cs) ↔
      if c = '"' then (Place.afterQuote empty).Leaves cs else c ≠ '\x00' ∧ Closes false cs := by
  constructor
  · rintro ⟨_ | ⟨d, content⟩, rest, eq, noNul, some, ends⟩
    · cases eq
      rw [if_pos rfl]
      exact .inl ⟨by simpa using some, ends⟩
    · obtain ⟨ne, later⟩ : '\x00' ≠ d ∧ '\x00' ∉ content := by simpa using noNul
      by_cases quote : d = '"'
      · rw [twice_cons_pos (by simpa using quote)] at eq
        cases eq
        rw [if_pos quote]
        exact .inr ⟨_, by rw [quote]; rfl, content, rest, rfl, later, by simp, ends⟩
      · rw [twice_cons_neg (by simpa using quote)] at eq
        cases eq
        rw [if_neg quote]
        exact ⟨ne.symm, content, rest, rfl, later, by simp, ends⟩
  · split
    · next quote =>
      rintro (⟨rfl, ends⟩ | ⟨_, rfl, content, rest, rfl, noNul, -, ends⟩)
      · exact ⟨[], cs, by rw [quote]; rfl, by simp, by simp, ends⟩
      · refine ⟨'"' :: content, rest, ?_, by simpa using noNul, by simp, ends⟩
        rw [twice_cons_pos (by simp), quote]
        rfl
    · next quote =>
      rintro ⟨ne, content, rest, rfl, noNul, -, ends⟩
      refine ⟨c :: content, rest, ?_, by simpa using ⟨ne.symm, noNul⟩, by simp, ends⟩
      rw [twice_cons_neg (by simpa using quote)]
      rfl

/-- **The check finds no fault just if the grammar allows what is left**, from every
place that it can be at. -/
theorem faultFrom_eq_none_iff {name : String} {place : Place} {cs : List Char} :
    faultFrom name place cs = none ↔ place.Leaves cs := by
  -- Both sides take one character off, by the same tests, and go on at the same place.
  induction cs generalizing place with
  | nil =>
    cases place with
    | start => simpa [faultFrom, Place.Leaves] using not_isPath_nil
    | bare => simpa [faultFrom, Place.Leaves] using goes_nil
    | quoted empty => simpa [faultFrom, Place.Leaves] using not_closes_nil
    | afterQuote empty => cases empty <;> simp [faultFrom, Place.Leaves, Ends]
  | cons c cs ih =>
    cases place with
    | start =>
      rw [faultFrom, Place.Leaves, isPath_cons]
      split
      · exact ih
      · split <;> simp [*, Place.Leaves]
    | bare =>
      rw [faultFrom, Place.Leaves, goes_cons]
      split
      · exact ih
      · split <;> simp [*, Place.Leaves]
    | quoted empty =>
      rw [faultFrom, Place.Leaves, closes_cons]
      split
      · exact ih
      · split <;> simp [*, Place.Leaves]
    | afterQuote empty =>
      rw [faultFrom, afterQuote_cons]
      split
      · exact ih
      · cases empty with
        | true => simp
        | false =>
          rw [if_neg (by simp)]
          split <;> simp [*, Place.Leaves]

theorem check_eq_ok_iff {name : String} : check name = .ok () ↔ IsPath name.toList := by
  have checked : check name = .ok () ↔ fault? name = none := by
    unfold check
    split <;> simp [*]
  rw [checked, fault?]
  split
  · next empty =>
    rw [String.isEmpty_iff.mp empty]
    simpa using not_isPath_nil
  · exact faultFrom_eq_none_iff

/-! ## Outside quotes -/

/-- The characters that stand outside quotes, if `inside` says whether the text
starts between them. -/
def outsideQuotes (inside : Bool) : List Char → List Char
  | [] => []
  | c :: cs =>
    if c = '"' then outsideQuotes (!inside) cs
    else if inside then outsideQuotes inside cs
    else c :: outsideQuotes inside cs

theorem outside_bare {cs : List Char} (noQuote : '"' ∉ cs) (rest : List Char) :
    outsideQuotes false (cs ++ rest) = cs ++ outsideQuotes false rest := by
  induction cs with
  | nil => rfl
  | cons c cs ih =>
    obtain ⟨ne, later⟩ : '"' ≠ c ∧ '"' ∉ cs := by simpa using noQuote
    rw [List.cons_append, outsideQuotes, if_neg ne.symm, if_neg (by simp), ih later, List.cons_append]

/-- A quote that is written twice leaves the quotes and enters them again. -/
theorem outside_twice (content rest : List Char) :
    outsideQuotes true (twice (· = '"') content ++ rest) = outsideQuotes true rest := by
  induction content with
  | nil => rfl
  | cons c content ih =>
    by_cases quote : c = '"'
    · rw [twice_cons_pos (by simpa using quote), List.cons_append, List.cons_append, outsideQuotes,
        if_pos quote, outsideQuotes, if_pos quote]
      exact ih
    · rw [twice_cons_neg (by simpa using quote), List.cons_append, outsideQuotes, if_neg quote, if_pos rfl]
      exact ih

/-- Outside quotes, a part shows nothing but what a part without quotes may hold. -/
theorem IsPart.follows_outside {part : List Char} (h : IsPart part) (rest : List Char) :
    ∃ shown, outsideQuotes false (part ++ rest) = shown ++ outsideQuotes false rest ∧ ∀ c ∈ shown, Follows c := by
  cases h with
  | @bare first more start follow =>
    have all : ∀ c ∈ first :: more, Follows c := by
      intro c mem
      rcases List.mem_cons.mp mem with rfl | mem
      · rcases start with letter | underscore
        · exact .inl letter
        · exact .inr (.inr (by simp [underscore]))
      · exact follow c mem
    exact ⟨first :: more, outside_bare (fun mem => (all _ mem).ne (by decide) rfl) rest, all⟩
  | @quoted content some noNul =>
    refine ⟨[], ?_, by simp⟩
    rw [List.cons_append, List.append_assoc, outsideQuotes, if_pos rfl]
    exact outside_twice content _

theorem IsPath.follows_outside {cs : List Char} (h : IsPath cs) :
    ∀ c ∈ outsideQuotes false cs, Follows c ∨ c = '.' := by
  induction h with
  | @last part h =>
    obtain ⟨shown, eq, all⟩ := h.follows_outside []
    rw [List.append_nil] at eq
    intro c mem
    rw [eq] at mem
    exact .inl (all c (by simpa [outsideQuotes] using mem))
  | @more part rest h others ih =>
    obtain ⟨shown, eq, all⟩ := h.follows_outside ('.' :: rest)
    intro c mem
    rw [eq, outsideQuotes, if_neg (by decide), if_neg (by simp)] at mem
    rcases List.mem_append.mp mem with mem | mem
    · exact .inl (all c mem)
    · rcases List.mem_cons.mp mem with dot | mem
      · exact .inr dot
      · exact ih c mem

/-! ## Names -/

/-- **A name passes the check just if it is parts with dots between them.** Whatever
stands between quotes, outside them it holds letters, digits and `_`, `$`, `#` and `.`
alone. -/
theorem names_are_dotted_parts (name : String) :
    (check name = .ok () ↔ ∃ parts : List String, parts ≠ [] ∧
      (∀ part ∈ parts, IsPart part.toList) ∧ name = ".".intercalate parts) ∧
    (check name = .ok () →
      ∀ c ∈ outsideQuotes false name.toList, Letter c ∨ Digit c ∨ c ∈ ['_', '$', '#', '.']) := by
  refine ⟨?_, fun checked c mem => ?_⟩
  · rw [check_eq_ok_iff, isPath_iff]
    simp only [String.toList_inj]
  · rcases (check_eq_ok_iff.mp checked).follows_outside c mem with follows | dot
    · rcases follows with letter | digit | sign
      · exact .inl letter
      · exact .inr (.inl digit)
      · exact .inr (.inr (List.mem_append_left ['.'] sign))
    · exact .inr (.inr (by simp [dot]))

/-- Two parts, one of which has a quote at either end and dots, comments and binds between. -/
theorem names_are_dotted_parts_quoted :
    check "app_1.\"\"\"a.b; -- ?\"\"\"" = .ok () ∧
    outsideQuotes false "app_1.\"\"\"a.b; -- ?\"\"\"".toList = "app_1.".toList ∧
    ∀ c ∈ "app_1.".toList, Letter c ∨ Digit c ∨ c ∈ ['_', '$', '#', '.'] := by
  have checked : check "app_1.\"\"\"a.b; -- ?\"\"\"" = .ok () := rfl
  have shown : outsideQuotes false "app_1.\"\"\"a.b; -- ?\"\"\"".toList = "app_1.".toList := by decide
  exact ⟨checked, shown, shown ▸ (names_are_dotted_parts _).2 checked⟩

end SqlBind.Identifier
