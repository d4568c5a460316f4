/-
A rendered statement has no binds left. Rendering puts a dollar sign and digits in
the place of a question mark, and in the splitting these are tokens of their own as
the question mark was: they start nothing, and what stands before them is not closed
or joined by them. So the rendered statement has the same quoted texts and comments
(`Splits.numberedFrom`), and to render it again changes nothing
(`rendering_is_final`).
-/
import SqlBind.Proofs.Placeholder.Splitting

namespace SqlBind.Placeholder

/-- What stands in the place of the bind with a number. -/
def mark (n : Nat) : List Char := '$' :: Numeral.ofNat n

theorem mem_mark {n : Nat} {c : Char} (h : c ∈ mark n) : c = '$' ∨ Numeral.isDigit c = true := by
  rcases List.mem_cons.mp h with dollar | digit
  · exact .inl dollar
  · exact .inr (List.all_eq_true.mp (Numeral.ofNat_all_isDigit n) c digit)

/-- A mark has none of the characters that mean anything in the splitting. -/
theorem ne_of_mem_mark {n : Nat} {c d : Char} (h : c ∈ mark n)
    (other : d ≠ '$' ∧ Numeral.isDigit d = false) : c ≠ d := by
  rintro rfl
  rcases mem_mark h with dollar | digit
  · exact other.1 dollar
  · rw [other.2] at digit
    cases digit

namespace Token

/-- Tokens with the binds numbered from `n` on: every character of a mark is a token. -/
def markedFrom (n : Nat) : List Token → List Token
  | [] => []
  | t :: rest =>
    if t.isBind then (mark n).map other ++ markedFrom (n + 1) rest else t :: markedFrom n rest

theorem countP_markedFrom (n : Nat) (tokens : List Token) :
    (markedFrom n tokens).countP isBind = 0 := by
  induction tokens generalizing n with
  | nil => rfl
  | cons t tokens ih =>
    rw [markedFrom]
    cases bind : t.isBind with
    | false => rw [if_neg (by simp), List.countP_cons_of_neg (by simp [bind]), ih]
    | true =>
      have noBind : ((mark n).map other).countP isBind = 0 := by
        refine List.countP_eq_zero.mpr fun t mem => ?_
        obtain ⟨c, hc, rfl⟩ := List.mem_map.mp mem
        simpa [isBind] using ne_of_mem_mark hc (by decide)
      rw [if_pos rfl, List.countP_append, noBind, ih]

/-- The first character of a text that is no bind's. -/
theorem head?_chars_of_not_isBind {t : Token} {rest : List Char} (h : t.Stands rest)
    (noBind : t.isBind = false) : ∃ c more, t.chars = c :: more ∧ c ≠ '?' := by
  cases t with
  | quoted quote content | openQuoted quote content =>
    refine ⟨quote, _, rfl, ?_⟩
    rintro rfl
    exact absurd h.1 (by decide)
  | line content => exact ⟨_, _, rfl, by decide⟩
  | comment content => exact ⟨_, _, rfl, by decide⟩
  | openComment content => exact ⟨_, _, rfl, by decide⟩
  | other c => exact ⟨c, [], rfl, by simpa [isBind] using noBind⟩

end Token

/-- Numbering changes the first character of a text only if it is a bind. -/
theorem Splits.head?_numberedFrom {text : List Char} {tokens : List Token} (h : Splits text tokens)
    (n : Nat) : (Token.numberedFrom n tokens).head? =
      text.head?.map fun c => if c = '?' then '$' else c := by
  cases h with
  | nil => rfl
  | @cons t rest tokens first others =>
    rw [Token.numberedFrom]
    cases bind : t.isBind with
    | true =>
      obtain rfl : t = .other '?' := by simpa [Token.isBind] using bind
      rfl
    | false =>
      obtain ⟨c, more, chars, ne⟩ := Token.head?_chars_of_not_isBind first bind
      rw [if_neg (by simp), chars]
      simp [ne]

/-- A token stands as well where what follows was numbered: no token is ended or kept
from ending by a question mark or a dollar sign. -/
theorem Token.Stands.of_head? {t : Token} {rest rest' : List Char} (h : t.Stands rest)
    (heads : rest'.head? = rest.head?.map fun c => if c = '?' then '$' else c) :
    t.Stands rest' := by
  have empty (none : rest = []) : rest' = [] := by
    rw [none] at heads
    exact List.head?_eq_none_iff.mp heads
  have kept {d : Char} (other : d ≠ '?' ∧ d ≠ '$') :
      rest'.head? = some d ↔ rest.head? = some d := by
    rw [heads]
    cases rest.head? with
    | none => simp
    | some c =>
      by_cases bind : c = '?'
      · simp [bind, other.1.symm, other.2.symm]
      · simp [bind]
  cases t with
  | quoted quote content =>
    obtain ⟨mem, apart⟩ := h
    refine ⟨mem, fun head => apart ((kept ?_).mp head)⟩
    constructor <;> rintro rfl <;> exact absurd mem (by decide)
  | openQuoted quote content => exact ⟨h.1, empty h.2⟩
  | line content =>
    obtain ⟨oneLine, ends⟩ := h
    exact ⟨oneLine, ends.imp empty (kept (by decide)).mpr⟩
  | comment content => exact h
  | openComment content => exact ⟨h.1, empty h.2⟩
  | other c =>
    obtain ⟨noQuote, dash, slash⟩ := h
    exact ⟨noQuote, fun isDash head => dash isDash ((kept (by decide)).mp head),
      fun isSlash head => slash isSlash ((kept (by decide)).mp head)⟩

/-- **Numbering keeps the splitting**: but for the binds, the tokens are what they were. -/
theorem Splits.numberedFrom {text : List Char} {tokens : List Token} (h : Splits text tokens)
    (n : Nat) : Splits (Token.numberedFrom n tokens) (Token.markedFrom n tokens) := by
  induction h generalizing n with
  | nil => exact .nil
  | @cons t rest tokens first others ih =>
    rw [Token.numberedFrom, Token.markedFrom]
    cases bind : t.isBind with
    | true =>
      rw [if_pos rfl, if_pos rfl]
      have plain : ∀ c ∈ mark n, c ∉ ['\'', '"', '-', '/'] := by
        intro c mem
        simp only [List.mem_cons, List.not_mem_nil, or_false, not_or]
        exact ⟨ne_of_mem_mark mem (by decide), ne_of_mem_mark mem (by decide),
          ne_of_mem_mark mem (by decide), ne_of_mem_mark mem (by decide)⟩
      exact Splits.others plain (ih (n + 1))
    | false =>
      rw [if_neg (by simp), if_neg (by simp)]
      exact .cons (first.of_head? (others.head?_numberedFrom n)) (ih n)

/-- **Rendering is final.** A rendered statement has no binds, so it is rendered to
itself; and its tokens are those of the statement, the same quoted texts and comments
in the same order, with the characters of `$1`, `$2`, … in place of the binds. -/
theorem rendering_is_final (sql : String) :
    count (render sql) = 0 ∧ render (render sql) = render sql ∧
    ∀ tokens, Splits sql.toList tokens → ReadsAs (render sql) (Token.markedFrom 1 tokens) := by
  have marked {tokens : List Token} (split : Splits sql.toList tokens) :
      Splits (render sql).toList (Token.markedFrom 1 tokens) := by
    rw [split.render_eq, String.toList_ofList]
    exact split.numberedFrom 1
  obtain ⟨tokens, split⟩ := exists_splits sql.toList
  have none : count (render sql) = 0 := by
    rw [(marked split).count_eq, Token.countP_markedFrom]
  exact ⟨none, render_eq_self none, fun tokens split => (marked split).readsAs⟩

/-- Binds next to a comment, a hyphen and a quote that is not closed. -/
def Token.besideOpenings : List Token :=
  [.other '?', .line ['?'], .other '\n', .other '-', .other '?', .openQuoted '\'' ['?']]

theorem rendering_is_final_openings :
    Splits "?--?\n-?'?".toList Token.besideOpenings ∧
    render "?--?\n-?'?" = "$1--?\n-$2'?" ∧
    ReadsAs "$1--?\n-$2'?" [.other '$', .other '1', .line ['?'], .other '\n', .other '-', .other '$',
      .other '2', .openQuoted '\'' ['?']] := by
  have split : Splits (Token.besideOpenings.flatMap Token.chars) Token.besideOpenings := by
    unfold Token.besideOpenings
    repeat refine Splits.cons (by decide) ?_
    exact .nil
  rw [show Token.besideOpenings.flatMap Token.chars = "?--?\n-?'?".toList by decide] at split
  have rendered : render "?--?\n-?'?" = "$1--?\n-$2'?" := by decide +kernel
  have marked : Token.markedFrom 1 Token.besideOpenings =
      [.other '$', .other '1', .line ['?'], .other '\n', .other '-', .other '$', .other '2',
        .openQuoted '\'' ['?']] := by decide +kernel
  have read := (rendering_is_final "?--?\n-?'?").2.2 _ split
  rw [rendered, marked] at read
  exact ⟨split, rendered, read⟩

end SqlBind.Placeholder
