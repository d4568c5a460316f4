/-
A statement splits into tokens in one way (`Splits.unique`). Its first two
characters tell which kind of token comes first (`Token.Stands.kind_eq`), and a
token goes on to the first mark that can end it. So a statement has its tokens and
no others (`ReadsAs`), and its binds are those among them.
-/
import SqlBind.Proofs.Placeholder.Token

namespace SqlBind.Placeholder

open Text

/-! ## Where a token ends -/

/-- What follows the content of a quoted text: nothing, or the quote that closes it. -/
def AfterContent (quote : Char) (tail : List Char) : Prop :=
  tail = [] ∨ ∃ rest, tail = quote :: rest ∧ rest.head? ≠ some quote

theorem AfterContent.ne_twice {quote : Char} {tail : List Char} (h : AfterContent quote tail)
    (c : Char) (content rest : List Char) : tail ≠ twice (· = quote) (c :: content) ++ rest := by
  rintro rfl
  by_cases same : c = quote
  · subst same
    rw [twice_cons_pos (by simp)] at h
    rcases h with empty | ⟨_, eq, apart⟩
    · cases empty
    · cases eq
      exact apart rfl
  · rw [twice_cons_neg (by simpa using same)] at h
    rcases h with empty | ⟨_, eq, -⟩
    · cases empty
    · cases eq
      exact same rfl

theorem twice_append_inj {quote : Char} {content content' tail tail' : List Char}
    (h : AfterContent quote tail) (h' : AfterContent quote tail')
    (eq : twice (· = quote) content ++ tail = twice (· = quote) content' ++ tail') :
    content = content' ∧ tail = tail' := by
  induction content generalizing content' with
  | nil =>
    cases content' with
    | nil => exact ⟨rfl, eq⟩
    | cons d content' => exact absurd eq (h.ne_twice d content' tail')
  | cons c content ih =>
    cases content' with
    | nil => exact absurd eq.symm (h'.ne_twice c content tail)
    | cons d content' =>
      obtain rfl : c = d := by
        have heads := congrArg List.head? eq
        rw [head?_twice_append, head?_twice_append] at heads
        exact Option.some.inj heads
      have later : twice (· = quote) content ++ tail = twice (· = quote) content' ++ tail' := by
        by_cases same : c = quote
        · rw [twice_cons_pos (by simpa using same), twice_cons_pos (by simpa using same)] at eq
          simpa using eq
        · rw [twice_cons_neg (by simpa using same), twice_cons_neg (by simpa using same)] at eq
          simpa using eq
      obtain ⟨rfl, rfl⟩ := ih later
      exact ⟨rfl, rfl⟩

/-- Two ways to cut a text in two are one if neither can be made later. -/
theorem cut_unique {xs ys xs' ys' : List Char} (eq : xs ++ ys = xs' ++ ys')
    (last : ∀ more, xs' = xs ++ more → ys = more ++ ys' → more = [])
    (last' : ∀ more, xs = xs' ++ more → ys' = more ++ ys → more = []) : xs = xs' ∧ ys = ys' := by
  rcases List.append_eq_append_iff.mp eq with ⟨more, rfl, rfl⟩ | ⟨more, rfl, rfl⟩
  · obtain rfl := last more rfl rfl
    exact ⟨(List.append_nil _).symm, rfl⟩
  · obtain rfl := last' more rfl rfl
    exact ⟨List.append_nil _, rfl⟩

/-- A comment to the end of the line has no line break, so it is not cut later. -/
theorem line_last {content rest rest' more : List Char} (oneLine : '\n' ∉ content ++ more)
    (ends : rest = [] ∨ rest.head? = some '\n') (eq : rest = more ++ rest') : more = [] := by
  cases more with
  | nil => rfl
  | cons c more =>
    subst eq
    rcases ends with empty | head
    · cases empty
    · cases head
      exact absurd (by simp) oneLine

/-- What follows the content of a bracketed comment: nothing, or its end. -/
def AfterComment (tail : List Char) : Prop := tail = [] ∨ ∃ rest, tail = closing ++ rest

theorem AfterComment.last {content tail tail' more : List Char} (h : AfterComment tail)
    (h' : AfterComment tail') (free : ¬closing <:+: content ++ more) (eq : tail = more ++ tail') :
    more = [] := by
  cases more with
  | nil => rfl
  | cons c more =>
    subst eq
    rcases h with empty | ⟨rest, eq⟩
    · cases empty
    · obtain ⟨rfl, eq⟩ : c = '*' ∧ more ++ tail' = '/' :: rest := by simpa [closing] using eq
      cases more with
      | nil =>
        -- The star would be the last character of the content, and a slash the first of the tail.
        rcases h' with rfl | ⟨rest', rfl⟩
        · cases eq
        · cases eq
      | cons d more =>
        cases eq
        exact absurd ⟨content, more, by simp [closing]⟩ free

theorem comment_inj {content content' tail tail' : List Char} (free : ¬closing <:+: content)
    (free' : ¬closing <:+: content') (h : AfterComment tail) (h' : AfterComment tail')
    (eq : content ++ tail = content' ++ tail') : content = content' ∧ tail = tail' := by
  refine cut_unique eq (fun more cut rest => ?_) fun more cut rest => ?_
  · exact h.last h' (cut ▸ free') rest
  · exact h'.last h (cut ▸ free) rest

/-! ## Which token comes next -/

namespace Token

/-- The four kinds of tokens, whether they are closed or not. -/
inductive Kind where
  | quoted
  | line
  | comment
  | other
  deriving DecidableEq

def kind : Token → Kind
  | quoted .. | openQuoted .. => .quoted
  | line _ => .line
  | comment _ | openComment _ => .comment
  | other _ => .other

/-- The kind of the token that a text starts with. -/
def kindOf : List Char → Kind
  | '\'' :: _ | '"' :: _ => .quoted
  | '-' :: '-' :: _ => .line
  | '/' :: '*' :: _ => .comment
  | _ => .other

theorem kindOf_quote {quote : Char} (h : quote ∈ ['\'', '"']) (text : List Char) :
    kindOf (quote :: text) = .quoted := by
  simp only [List.mem_cons, List.not_mem_nil, or_false] at h
  rcases h with rfl | rfl <;> rfl

theorem Stands.kind_eq {t : Token} {rest : List Char} (h : t.Stands rest) :
    t.kind = kindOf (t.chars ++ rest) := by
  cases t with
  | quoted quote content => exact (kindOf_quote h.1 _).symm
  | openQuoted quote content => exact (kindOf_quote h.1 _).symm
  | line content => rfl
  | comment content => rfl
  | openComment content => rfl
  | other c =>
    obtain ⟨noQuote, dash, slash⟩ := h
    rw [chars, List.singleton_append, kindOf]
    · rfl
    · rintro _ eq
      cases eq
      exact noQuote (by simp)
    · rintro _ eq
      cases eq
      exact noQuote (by simp)
    · rintro _ eq
      cases eq
      exact dash rfl rfl
    · rintro _ eq
      cases eq
      exact slash rfl rfl

/-- A text that starts with a quote is that quote, a content and what follows it; and
what follows tells whether the quotes are closed. -/
theorem Stands.quoted_content {t : Token} {rest : List Char} (h : t.Stands rest)
    (quoted : t.kind = .quoted) :
    ∃ quote content tail, t.chars ++ rest = quote :: (twice (· = quote) content ++ tail) ∧
      ((tail = [] ∧ t = .openQuoted quote content ∧ rest = []) ∨
        (tail = quote :: rest ∧ rest.head? ≠ some quote ∧ t = .quoted quote content)) := by
  cases t with
  | quoted quote content => exact ⟨quote, content, _, by simp [chars], .inr ⟨rfl, h.2, rfl⟩⟩
  | openQuoted quote content =>
    exact ⟨quote, content, [], by simp [chars, h.2], .inl ⟨rfl, rfl, h.2⟩⟩
  | line | comment | openComment | other => cases quoted

theorem Stands.quoted_unique {t t' : Token} {rest rest' : List Char} (h : t.Stands rest)
    (h' : t'.Stands rest') (quoted : t.kind = .quoted) (quoted' : t'.kind = .quoted)
    (eq : t.chars ++ rest = t'.chars ++ rest') : t = t' ∧ rest = rest' := by
  obtain ⟨quote, content, tail, chars, ends⟩ := h.quoted_content quoted
  obtain ⟨quote', content', tail', chars', ends'⟩ := h'.quoted_content quoted'
  rw [chars, chars'] at eq
  obtain ⟨rfl, eq⟩ := List.cons.inj eq
  have after : AfterContent quote tail := ends.imp (·.1) fun closed => ⟨_, closed.1, closed.2.1⟩
  have after' : AfterContent quote tail' := ends'.imp (·.1) fun closed => ⟨_, closed.1, closed.2.1⟩
  obtain ⟨rfl, rfl⟩ := twice_append_inj after after' eq
  rcases ends with ⟨rfl, rfl, rfl⟩ | ⟨rfl, -, rfl⟩
  · rcases ends' with ⟨-, rfl, rfl⟩ | ⟨closed, -⟩
    · exact ⟨rfl, rfl⟩
    · cases closed
  · rcases ends' with ⟨closed, -⟩ | ⟨closed, -, rfl⟩
    · cases closed
    · exact ⟨rfl, (List.cons.inj closed).2⟩

/-- The same of a bracketed comment, which has its end behind the content or is open. -/
theorem Stands.comment_content {t : Token} {rest : List Char} (h : t.Stands rest)
    (comment : t.kind = .comment) :
    ∃ content tail, t.chars ++ rest = '/' :: '*' :: (content ++ tail) ∧ ¬closing <:+: content ∧
      ((tail = [] ∧ t = .openComment content ∧ rest = []) ∨
        (tail = closing ++ rest ∧ t = .comment content)) := by
  cases t with
  | comment content => exact ⟨content, _, by simp [chars], h, .inr ⟨rfl, rfl⟩⟩
  | openComment content => exact ⟨content, [], by simp [chars, h.2], h.1, .inl ⟨rfl, rfl, h.2⟩⟩
  | quoted | openQuoted | line | other => cases comment

theorem Stands.comment_unique {t t' : Token} {rest rest' : List Char} (h : t.Stands rest)
    (h' : t'.Stands rest') (comment : t.kind = .comment) (comment' : t'.kind = .comment)
    (eq : t.chars ++ rest = t'.chars ++ rest') : t = t' ∧ rest = rest' := by
  obtain ⟨content, tail, chars, free, ends⟩ := h.comment_content comment
  obtain ⟨content', tail', chars', free', ends'⟩ := h'.comment_content comment'
  rw [chars, chars'] at eq
  have texts : content ++ tail = content' ++ tail' := by simpa using eq
  have after : AfterComment tail := ends.imp (·.1) fun closed => ⟨_, closed.1⟩
  have after' : AfterComment tail' := ends'.imp (·.1) fun closed => ⟨_, closed.1⟩
  obtain ⟨rfl, rfl⟩ := comment_inj free free' after after' texts
  rcases ends with ⟨rfl, rfl, rfl⟩ | ⟨rfl, rfl⟩
  · rcases ends' with ⟨-, rfl, rfl⟩ | ⟨closed, -⟩
    · exact ⟨rfl, rfl⟩
    · cases closed
  · rcases ends' with ⟨closed, -⟩ | ⟨closed, rfl⟩
    · cases closed
    · exact ⟨rfl, List.append_cancel_left closed⟩

/-- **The token in front of a text is the only one there.** -/
theorem Stands.unique {t t' : Token} {rest rest' : List Char} (h : t.Stands rest)
    (h' : t'.Stands rest') (eq : t.chars ++ rest = t'.chars ++ rest') : t = t' ∧ rest = rest' := by
  have kinds : t.kind = t'.kind := by rw [h.kind_eq, h'.kind_eq, eq]
  cases t with
  | quoted | openQuoted => exact h.quoted_unique h' rfl kinds.symm eq
  | comment | openComment => exact h.comment_unique h' rfl kinds.symm eq
  | line content =>
    cases t' with
    | line content' =>
      obtain ⟨oneLine, ends⟩ := h
      obtain ⟨oneLine', ends'⟩ := h'
      have texts : content ++ rest = content' ++ rest' := by simpa [chars] using eq
      obtain ⟨rfl, rfl⟩ := cut_unique texts
        (fun more cut eq => line_last (cut ▸ oneLine') ends eq)
        (fun more cut eq => line_last (cut ▸ oneLine) ends' eq)
      exact ⟨rfl, rfl⟩
    | quoted | openQuoted | comment | openComment | other => cases kinds
  | other c =>
    cases t' with
    | other c' =>
      cases eq
      exact ⟨rfl, rfl⟩
    | quoted | openQuoted | line | comment | openComment => cases kinds

end Token

/-- **A text splits into tokens in one way.** -/
theorem Splits.unique {text : List Char} {tokens tokens' : List Token} (h : Splits text tokens)
    (h' : Splits text tokens') : tokens = tokens' := by
  induction h generalizing tokens' with
  | nil =>
    generalize nothing : ([] : List Char) = text at h'
    cases h' with
    | nil => rfl
    | @cons t' rest' tokens' first' others' =>
      obtain ⟨none, -⟩ := List.append_eq_nil_iff.mp nothing.symm
      exact absurd none t'.chars_ne_nil
  | @cons t rest tokens first others ih =>
    generalize whole : t.chars ++ rest = text at h'
    cases h' with
    | nil =>
      obtain ⟨none, -⟩ := List.append_eq_nil_iff.mp whole
      exact absurd none t.chars_ne_nil
    | @cons t' rest' tokens' first' others' =>
      obtain ⟨rfl, rfl⟩ := first.unique first' whole
      rw [ih others']

/-! ## The tokens of a statement -/

/-- These are the tokens of a statement, and no others. -/
def ReadsAs (sql : String) (tokens : List Token) : Prop :=
  ∀ split, Splits sql.toList split ↔ split = tokens

theorem Splits.readsAs {sql : String} {tokens : List Token} (h : Splits sql.toList tokens) :
    ReadsAs sql tokens :=
  fun _ => ⟨fun other => other.unique h, fun same => same ▸ h⟩

/-- Characters that start nothing are tokens of their own. -/
theorem Splits.others {text rest : List Char} {tokens : List Token}
    (plain : ∀ c ∈ text, c ∉ ['\'', '"', '-', '/']) (h : Splits rest tokens) :
    Splits (text ++ rest) (text.map .other ++ tokens) := by
  induction text with
  | nil => exact h
  | cons c text ih =>
    have alone : c ∉ ['\'', '"', '-', '/'] := plain c (by simp)
    simp only [List.mem_cons, List.not_mem_nil, or_false, not_or] at alone
    obtain ⟨noSingle, noDouble, noDash, noSlash⟩ := alone
    have stands : (Token.other c).Stands (text ++ rest) :=
      ⟨by simp [noSingle, noDouble], fun dash => absurd dash noDash, fun slash => absurd slash noSlash⟩
    exact .cons stands (ih fun d mem => plain d (by simp [mem]))

/-- A statement has as many binds as tokens that are binds. -/
theorem Splits.count_eq {sql : String} {tokens : List Token} (h : Splits sql.toList tokens) :
    count sql = tokens.countP Token.isBind := by
  have marks : offsets sql = Token.marksFrom 0 tokens := h.offsetsFrom 0
  rw [← length_offsets, marks, Token.length_marksFrom]

theorem Splits.render_eq {sql : String} {tokens : List Token} (h : Splits sql.toList tokens) :
    render sql = .ofList (Token.numberedFrom 1 tokens) := congrArg String.ofList (h.numberFrom 1)

theorem Token.numberedFrom_of_no_bind {tokens : List Token} (h : tokens.countP Token.isBind = 0)
    (n : Nat) : Token.numberedFrom n tokens = tokens.flatMap Token.chars := by
  induction tokens with
  | nil => rfl
  | cons t tokens ih =>
    cases bind : t.isBind with
    | true =>
      rw [List.countP_cons_of_pos bind] at h
      cases h
    | false =>
      rw [List.countP_cons_of_neg (by simp [bind])] at h
      rw [Token.numberedFrom, bind, if_neg (by simp), ih h, List.flatMap_cons]

/-- A statement without binds is rendered as it stands. -/
theorem render_eq_self {sql : String} (h : count sql = 0) : render sql = sql := by
  obtain ⟨tokens, split⟩ := exists_splits sql.toList
  rw [split.count_eq] at h
  rw [split.render_eq, Token.numberedFrom_of_no_bind h, split.flatMap_chars, String.ofList_toList]

end SqlBind.Placeholder
