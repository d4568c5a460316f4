/-
The tokens of a statement. A statement splits from the left into quoted texts,
comments and single characters; which token comes next is a matter of the
characters in front (`Token.Stands`), and there always is one (`exists_splits`).
The reader of binds passes over a token as a whole (`pieces_token`): its state
after a token may be that after a hyphen, a slash or a comment to the end of the
line, but what follows then is read as in plain text. So the binds are the
question marks that are tokens of their own.
-/
import SqlBind.Proofs.Placeholder.Reading
import SqlBind.Text.Quote

namespace SqlBind.Placeholder

open Text

/-- A token of a statement. -/
inductive Token where
  /-- A text between quotes. -/
  | quoted (quote : Char) (content : List Char)
  /-- A quoted text that is not closed. -/
  | openQuoted (quote : Char) (content : List Char)
  /-- A comment to the end of the line, without the line break. -/
  | line (content : List Char)
  /-- A bracketed comment. -/
  | comment (content : List Char)
  /-- A bracketed comment that is not closed. -/
  | openComment (content : List Char)
  /-- A character outside all these. -/
  | other (c : Char)
  deriving DecidableEq, Repr

/-- The end of a bracketed comment. -/
def closing : List Char := ['*', '/']

namespace Token

/-- The characters of a token. -/
def chars : Token → List Char
  | quoted quote content => quote :: (twice (· = quote) content ++ [quote])
  | openQuoted quote content => quote :: twice (· = quote) content
  | line content => '-' :: '-' :: content
  | comment content => '/' :: '*' :: (content ++ closing)
  | openComment content => '/' :: '*' :: content
  | other c => [c]

/-- Whether a token is the first of a text that goes on with `rest`. What is not
closed goes on to the end. -/
def Stands (rest : List Char) : Token → Prop
  | quoted quote _ => quote ∈ ['\'', '"'] ∧ rest.head? ≠ some quote
  | openQuoted quote _ => quote ∈ ['\'', '"'] ∧ rest = []
  | line content => '\n' ∉ content ∧ (rest = [] ∨ rest.head? = some '\n')
  | comment content => ¬closing <:+: content
  | openComment content => ¬closing <:+: content ∧ rest = []
  | other c =>
    c ∉ ['\'', '"'] ∧ (c = '-' → rest.head? ≠ some '-') ∧ (c = '/' → rest.head? ≠ some '*')

instance (rest : List Char) (t : Token) : Decidable (t.Stands rest) :=
  match t with
  | quoted .. => inferInstanceAs (Decidable (_ ∧ _))
  | openQuoted .. => inferInstanceAs (Decidable (_ ∧ _))
  | line _ => inferInstanceAs (Decidable (_ ∧ _))
  | comment _ => inferInstanceAs (Decidable (¬_))
  | openComment _ => inferInstanceAs (Decidable (_ ∧ _))
  | other _ => inferInstanceAs (Decidable (_ ∧ _ ∧ _))

/-- The token of a bind. -/
def isBind (t : Token) : Bool := t = other '?'

/-- The offsets of the binds among tokens that start at offset `n`. -/
def marksFrom (n : Nat) : List Token → List Nat
  | [] => []
  | t :: rest =>
    if t.isBind then n :: marksFrom (n + 1) rest else marksFrom (n + t.chars.length) rest

/-- The characters of tokens with the binds numbered from `n` on. -/
def numberedFrom (n : Nat) : List Token → List Char
  | [] => []
  | t :: rest =>
    if t.isBind then '$' :: Numeral.ofNat n ++ numberedFrom (n + 1) rest
    else t.chars ++ numberedFrom n rest

theorem chars_ne_nil (t : Token) : t.chars ≠ [] := by
  cases t <;> simp [chars]

end Token

/-- A text split into tokens from the left. -/
inductive Splits : List Char → List Token → Prop
  | nil : Splits [] []
  | cons {t : Token} {rest : List Char} {tokens : List Token} (first : t.Stands rest)
    (others : Splits rest tokens) : Splits (t.chars ++ rest) (t :: tokens)

theorem Splits.flatMap_chars {text : List Char} {tokens : List Token} (h : Splits text tokens) :
    tokens.flatMap Token.chars = text := by
  induction h with
  | nil => rfl
  | cons _ _ ih => rw [List.flatMap_cons, ih]

/-! ## Every text splits -/

/-- A quoted text is closed by the first quote that is not doubled, or not at all. -/
theorem exists_content (quote : Char) : ∀ text : List Char,
    (∃ content rest, text = twice (· = quote) content ++ quote :: rest ∧ rest.head? ≠ some quote) ∨
      ∃ content, text = twice (· = quote) content
  | [] => .inr ⟨[], rfl⟩
  | [c] => by
    by_cases h : c = quote
    · exact .inl ⟨[], [], by rw [h]; rfl, by simp⟩
    · exact .inr ⟨[c], by rw [twice_cons_neg (by simpa using h)]; rfl⟩
  | c :: d :: text => by
    by_cases h : c = quote
    · subst h
      -- A doubled quote is one character of the content, so two characters are taken at once.
      by_cases doubled : d = c
      · subst doubled
        rcases exists_content d text with ⟨content, rest, rfl, apart⟩ | ⟨content, rfl⟩
        · exact .inl ⟨d :: content, rest, by rw [twice_cons_pos (by simp)]; rfl, apart⟩
        · exact .inr ⟨d :: content, by rw [twice_cons_pos (by simp)]⟩
      · exact .inl ⟨[], d :: text, rfl, by simpa using doubled⟩
    · rcases exists_content quote (d :: text) with ⟨content, rest, eq, apart⟩ | ⟨content, eq⟩
      · exact .inl ⟨c :: content, rest, by rw [twice_cons_neg (by simpa using h), eq]; rfl, apart⟩
      · exact .inr ⟨c :: content, by rw [twice_cons_neg (by simpa using h), eq]⟩

/-- A comment is closed by the first star with a slash after it, or not at all. -/
theorem exists_comment (text : List Char) :
    (∃ content rest, text = content ++ closing ++ rest ∧ ¬closing <:+: content) ∨
      ¬closing <:+: text := by
  induction text with
  | nil => exact .inr (by decide)
  | cons c text ih =>
    by_cases now : closing <+: c :: text
    · obtain ⟨rest, eq⟩ := now
      exact .inl ⟨[], rest, eq.symm, by decide⟩
    · rcases ih with ⟨content, rest, rfl, first⟩ | never
      · refine .inl ⟨c :: content, rest, rfl, fun inside => ?_⟩
        rcases List.infix_cons_iff.mp inside with start | later
        · refine now (start.trans ?_)
          exact ⟨closing ++ rest, by simp⟩
        · exact first later
      · refine .inr fun inside => ?_
        rcases List.infix_cons_iff.mp inside with start | later
        · exact now start
        · exact never later

theorem exists_token (c : Char) (text : List Char) :
    ∃ t rest, c :: text = Token.chars t ++ rest ∧ t.Stands rest := by
  by_cases quote : c ∈ ['\'', '"']
  · rcases exists_content c text with ⟨content, rest, rfl, apart⟩ | ⟨content, rfl⟩
    · exact ⟨.quoted c content, rest, by simp [Token.chars], quote, apart⟩
    · exact ⟨.openQuoted c content, [], by simp [Token.chars], quote, rfl⟩
  · by_cases comment : c = '/' ∧ text.head? = some '*'
    · obtain ⟨rfl, head⟩ := comment
      obtain ⟨text, rfl⟩ := List.head?_eq_some_iff.mp head
      rcases exists_comment text with ⟨content, rest, rfl, first⟩ | never
      · exact ⟨.comment content, rest, by simp [Token.chars], first⟩
      · exact ⟨.openComment text, [], by simp [Token.chars], never, rfl⟩
    · by_cases line : c = '-' ∧ text.head? = some '-'
      · obtain ⟨rfl, head⟩ := line
        obtain ⟨text, rfl⟩ := List.head?_eq_some_iff.mp head
        refine ⟨.line (text.takeWhile (· ≠ '\n')), text.dropWhile (· ≠ '\n'), ?_, ?_, ?_⟩
        · simp [Token.chars]
        · intro mem
          have kept := List.all_eq_true.mp List.all_takeWhile _ mem
          simp at kept
        · have ends := List.head?_dropWhile_not (· ≠ '\n') text
          cases after : text.dropWhile (· ≠ '\n') with
          | nil => exact .inl rfl
          | cons d rest =>
            rw [after] at ends
            exact .inr (by simpa using ends)
      · exact ⟨.other c, text, rfl, quote, fun h head => line ⟨h, head⟩,
          fun h head => comment ⟨h, head⟩⟩

/-- **Every text splits into tokens.** -/
theorem exists_splits (text : List Char) : ∃ tokens, Splits text tokens := by
  -- A token is not empty, so less is left after it.
  induction h : text.length using Nat.strongRecOn generalizing text with
  | ind n ih =>
    cases text with
    | nil => exact ⟨[], .nil⟩
    | cons c text =>
      obtain ⟨t, rest, eq, stands⟩ := exists_token c text
      have shorter : rest.length < n := by
        have length := congrArg List.length eq
        have pos : 0 < t.chars.length := List.length_pos_iff.mpr t.chars_ne_nil
        rw [List.length_append] at length
        omega
      obtain ⟨tokens, split⟩ := ih rest.length shorter rest rfl
      exact ⟨t :: tokens, eq ▸ .cons stands split⟩

/-! ## How the reader passes over a token -/

/-- Read from a mode on, a text binds nothing and leaves the reader in the other mode. -/
structure Passes (m : Mode) (text : List Char) (m' : Mode) : Prop where
  after : m.after text = m'
  binds : bindsFrom m 0 text = []

namespace Passes

theorem nil (m : Mode) : Passes m [] m := ⟨rfl, rfl⟩

theorem cons {m m' : Mode} {c : Char} {text : List Char} (noBind : m.binds c = false)
    (rest : Passes (m.next c) text m') : Passes m (c :: text) m' := by
  refine ⟨rest.after, ?_⟩
  rw [bindsFrom_cons, noBind, if_neg (by simp)]
  exact bindsFrom_eq_nil_iff.mpr rest.binds

theorem append {m m' m'' : Mode} {xs ys : List Char} (hx : Passes m xs m') (hy : Passes m' ys m'') :
    Passes m (xs ++ ys) m'' := by
  refine ⟨?_, ?_⟩
  · rw [Mode.after_append, hx.after, hy.after]
  · rw [bindsFrom_append, hx.binds, hx.after, bindsFrom_eq_nil_iff.mpr hy.binds]
    rfl

end Passes

theorem Passes.piecesFrom {m m' : Mode} {text : List Char} (h : Passes m text m')
    (rest : List Char) :
    piecesFrom m (text ++ rest) = text.foldr prepend (piecesFrom m' rest) := by
  obtain ⟨after, binds⟩ := h
  induction text generalizing m with
  | nil =>
    have same : m = m' := after
    rw [same]
    rfl
  | cons c text ih =>
    rw [bindsFrom_cons] at binds
    by_cases bind : m.binds c = true
    · rw [if_pos bind] at binds
      cases binds
    · rw [if_neg bind] at binds
      rw [List.cons_append, Placeholder.piecesFrom, if_neg bind,
        ih after (bindsFrom_eq_nil_iff.mp binds), List.foldr_cons]

/-- The mode between quotes of a kind. -/
def Mode.between (quote : Char) : Mode := if quote = '\'' then .single else .double

theorem Passes.openQuote {quote : Char} (h : quote ∈ ['\'', '"']) :
    Passes .plain [quote] (.between quote) := by
  simp only [List.mem_cons, List.not_mem_nil, or_false] at h
  rcases h with rfl | rfl <;> exact ⟨rfl, rfl⟩

theorem Passes.closeQuote {quote : Char} (h : quote ∈ ['\'', '"']) :
    Passes (.between quote) [quote] .plain := by
  simp only [List.mem_cons, List.not_mem_nil, or_false] at h
  rcases h with rfl | rfl <;> exact ⟨rfl, rfl⟩

theorem passes_twice {quote : Char} (h : quote ∈ ['\'', '"']) (content : List Char) :
    Passes (.between quote) (twice (· = quote) content) (.between quote) := by
  induction content with
  | nil => exact .nil _
  | cons c content ih =>
    by_cases same : c = quote
    · subst same
      rw [twice_cons_pos (by simp)]
      -- The reader knows no doubled quote: it closes the text and opens it again.
      exact (Passes.closeQuote h).append ((Passes.openQuote h).append ih)
    · rw [twice_cons_neg (by simpa using same)]
      have stays : (Mode.between quote).next c = .between quote := by
        simp only [List.mem_cons, List.not_mem_nil, or_false] at h
        rcases h with rfl | rfl <;> simp [Mode.between, Mode.next, same]
      refine .cons ?_ ?_
      · simp only [Mode.between]
        split <;> rfl
      · rw [stays]
        exact ih

theorem passes_line {content : List Char} (h : '\n' ∉ content) : Passes .line content .line := by
  induction content with
  | nil => exact .nil _
  | cons c content ih =>
    obtain ⟨ne, later⟩ : '\n' ≠ c ∧ '\n' ∉ content := by simpa using h
    refine .cons rfl ?_
    rw [show Mode.line.next c = .line from if_neg ne.symm]
    exact ih later

/-- In a bracketed comment the reader only keeps in mind whether a star came last. -/
theorem passes_comment {content : List Char} :
    (¬closing <:+: content → ∃ m, m ∈ [Mode.block, .blockStar] ∧ Passes .block content m) ∧
      (¬closing <:+: '*' :: content →
        ∃ m, m ∈ [Mode.block, .blockStar] ∧ Passes .blockStar content m) := by
  induction content with
  | nil => exact ⟨fun _ => ⟨.block, by simp, .nil _⟩, fun _ => ⟨.blockStar, by simp, .nil _⟩⟩
  | cons c content ih =>
    obtain ⟨fromBlock, fromStar⟩ := ih
    have later {d : Char} {text : List Char} (h : ¬closing <:+: d :: text) : ¬closing <:+: text :=
      fun inside => h (inside.trans (List.infix_cons (List.infix_refl text)))
    by_cases star : c = '*'
    · subst star
      refine ⟨fun h => ?_, fun h => ?_⟩
      · obtain ⟨m, mem, passes⟩ := fromStar h
        exact ⟨m, mem, .cons rfl passes⟩
      · obtain ⟨m, mem, passes⟩ := fromStar (later h)
        exact ⟨m, mem, .cons rfl passes⟩
    · -- Only the star in front of the content makes it matter whether `c` is a slash.
      have step : Mode.block.next c = .block := if_neg star
      refine ⟨fun h => ?_, fun h => ?_⟩
      · obtain ⟨m, mem, passes⟩ := fromBlock (later h)
        exact ⟨m, mem, .cons rfl (by rw [step]; exact passes)⟩
      · have slash : c ≠ '/' := by
          rintro rfl
          exact h ⟨[], content, rfl⟩
        have starStep : Mode.blockStar.next c = .block := by simp [Mode.next, slash, star]
        obtain ⟨m, mem, passes⟩ := fromBlock (later (later h))
        exact ⟨m, mem, .cons rfl (by rw [starStep]; exact passes)⟩

/-- What follows is read as in plain text. -/
def Mode.ReadsPlain (m : Mode) (rest : List Char) : Prop :=
  ∀ c ∈ rest.head?, m.binds c = Mode.plain.binds c ∧ m.next c = Mode.plain.next c

theorem Mode.ReadsPlain.piecesFrom {m : Mode} {rest : List Char} (h : m.ReadsPlain rest) :
    piecesFrom m rest = piecesFrom .plain rest := by
  cases rest with
  | nil => rfl
  | cons c rest =>
    obtain ⟨binds, next⟩ := h c rfl
    rw [Placeholder.piecesFrom, Placeholder.piecesFrom, binds, next]

theorem Token.Stands.passes {t : Token} {rest : List Char} (h : t.Stands rest)
    (noBind : t.isBind = false) : ∃ m, Passes .plain t.chars m ∧ m.ReadsPlain rest := by
  cases t with
  | quoted quote content =>
    obtain ⟨mem, -⟩ := h
    have passes := (Passes.openQuote mem).append
      ((passes_twice mem content).append (Passes.closeQuote mem))
    exact ⟨.plain, passes, fun _ _ => ⟨rfl, rfl⟩⟩
  | openQuoted quote content =>
    obtain ⟨mem, rfl⟩ := h
    exact ⟨_, (Passes.openQuote mem).append (passes_twice mem content), by simp [Mode.ReadsPlain]⟩
  | line content =>
    obtain ⟨oneLine, ends⟩ := h
    refine ⟨.line, .cons rfl (.cons rfl (passes_line oneLine)), fun c head => ?_⟩
    rcases ends with rfl | ends
    · cases head
    · obtain rfl : '\n' = c := Option.some.inj (ends.symm.trans head)
      exact ⟨rfl, rfl⟩
  | comment content =>
    obtain ⟨m, mem, passes⟩ := passes_comment.1 h
    have closes : Passes m closing .plain := by
      simp only [List.mem_cons, List.not_mem_nil, or_false] at mem
      rcases mem with rfl | rfl <;> exact ⟨rfl, rfl⟩
    exact ⟨.plain, .cons rfl (.cons rfl (passes.append closes)), fun _ _ => ⟨rfl, rfl⟩⟩
  | openComment content =>
    obtain ⟨never, rfl⟩ := h
    obtain ⟨m, mem, passes⟩ := passes_comment.1 never
    exact ⟨m, .cons rfl (.cons rfl passes), by simp [Mode.ReadsPlain]⟩
  | other c =>
    obtain ⟨noQuote, dash, slash⟩ := h
    have ne : c ≠ '?' := by simpa [Token.isBind] using noBind
    refine ⟨.opened c, .cons (by simp [Mode.binds, ne]) (.nil _), fun d head => ?_⟩
    simp only [List.mem_cons, List.not_mem_nil, or_false, not_or] at noQuote
    obtain ⟨noSingle, noDouble⟩ := noQuote
    by_cases isDash : c = '-'
    · subst isDash
      have other : d ≠ '-' := by
        rintro rfl
        exact dash rfl head
      exact ⟨rfl, if_neg other⟩
    · by_cases isSlash : c = '/'
      · subst isSlash
        have other : d ≠ '*' := by
          rintro rfl
          exact slash rfl head
        exact ⟨rfl, if_neg other⟩
      · simp [Mode.opened, noSingle, noDouble, isDash, isSlash]

/-- **The reader reads a token as a bind or as text**, and what follows as if it
stood alone. -/
theorem pieces_token {t : Token} {rest : List Char} (h : t.Stands rest) :
    pieces (t.chars ++ rest) =
      if t.isBind then .bind :: pieces rest else t.chars.foldr prepend (pieces rest) := by
  cases bind : t.isBind with
  | true =>
    obtain rfl : t = .other '?' := by simpa [Token.isBind] using bind
    rfl
  | false =>
    obtain ⟨m, passes, plain⟩ := h.passes bind
    rw [pieces, passes.piecesFrom, plain.piecesFrom]
    rfl

/-! ## Pieces and tokens -/

theorem offsetsFrom_foldr_prepend (n : Nat) (text : List Char) (ps : List Piece) :
    Piece.offsetsFrom n (text.foldr prepend ps) = Piece.offsetsFrom (n + text.length) ps := by
  induction text generalizing n with
  | nil => rfl
  | cons c text ih =>
    rw [List.foldr_cons, offsetsFrom_prepend, ih, List.length_cons]
    congr 1
    omega

theorem numberFrom_foldr_prepend (n : Nat) (text : List Char) (ps : List Piece) :
    numberFrom n (text.foldr prepend ps) = text ++ numberFrom n ps := by
  induction text with
  | nil => rfl
  | cons c text ih =>
    have step : numberFrom n (prepend c (text.foldr prepend ps)) =
        c :: numberFrom n (text.foldr prepend ps) := by
      rcases text.foldr prepend ps with _ | ⟨_ | _, _⟩ <;> rfl
    rw [List.foldr_cons, step, ih]
    rfl

theorem chars_piecesFrom (m : Mode) (text : List Char) :
    (piecesFrom m text).flatMap Piece.chars = text := by
  induction text generalizing m with
  | nil => rfl
  | cons c text ih =>
    rw [piecesFrom]
    split
    · rename_i bind
      have mark : c = '?' := by
        simp only [Mode.binds, Bool.and_eq_true, decide_eq_true_eq] at bind
        exact bind.2
      rw [List.flatMap_cons, ih, mark]
      rfl
    · have step : (prepend c (piecesFrom (m.next c) text)).flatMap Piece.chars =
          c :: (piecesFrom (m.next c) text).flatMap Piece.chars := by
        rcases piecesFrom (m.next c) text with _ | ⟨_ | _, _⟩ <;> rfl
      rw [step, ih]

theorem Splits.offsetsFrom {text : List Char} {tokens : List Token} (h : Splits text tokens)
    (n : Nat) :
    Piece.offsetsFrom n (pieces text) = Token.marksFrom n tokens := by
  induction h generalizing n with
  | nil => rfl
  | @cons t rest tokens first others ih =>
    rw [pieces_token first, Token.marksFrom]
    cases bind : t.isBind with
    | true => rw [if_pos rfl, if_pos rfl, Piece.offsetsFrom, ih]
    | false => rw [if_neg (by simp), if_neg (by simp), offsetsFrom_foldr_prepend, ih]

theorem Splits.numberFrom {text : List Char} {tokens : List Token} (h : Splits text tokens)
    (n : Nat) :
    numberFrom n (pieces text) = Token.numberedFrom n tokens := by
  induction h generalizing n with
  | nil => rfl
  | @cons t rest tokens first others ih =>
    rw [pieces_token first, Token.numberedFrom]
    cases bind : t.isBind with
    | true => rw [if_pos rfl, if_pos rfl, Placeholder.numberFrom, ih]
    | false => rw [if_neg (by simp), if_neg (by simp), numberFrom_foldr_prepend, ih]

theorem Token.length_marksFrom (n : Nat) (tokens : List Token) :
    (Token.marksFrom n tokens).length = tokens.countP Token.isBind := by
  induction tokens generalizing n with
  | nil => rfl
  | cons t tokens ih =>
    rw [Token.marksFrom]
    cases bind : t.isBind with
    | true => rw [if_pos rfl, List.length_cons, ih, List.countP_cons_of_pos bind]
    | false => rw [if_neg (by simp), ih, List.countP_cons_of_neg (by simp [bind])]

end SqlBind.Placeholder
