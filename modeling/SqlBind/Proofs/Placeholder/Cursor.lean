/-
The cursor over octets finds what the reader of characters finds. Of a character
that is not ASCII every octet is 128 or more (`eq_of_toUInt8_mem`), so the marks
that the cursor looks for are characters and never parts of one. So it moves from
token to token (`visits_token`), comes to stand at character boundaries, and cuts
out no text inside a character.
-/
import SqlBind.Proofs.Placeholder.Token
import SqlBind.Statement.Cursor

namespace SqlBind.Placeholder

open Text

/-! ## The octets of characters -/

/-- The octets of a text. -/
def encoded (text : List Char) : List UInt8 := text.flatMap String.utf8EncodeChar

theorem encoded_append (xs ys : List Char) : encoded (xs ++ ys) = encoded xs ++ encoded ys :=
  List.flatMap_append

theorem encoded_cons (c : Char) (text : List Char) :
    encoded (c :: text) = String.utf8EncodeChar c ++ encoded text := rfl

theorem octets_ofList (text : List Char) : Cursor.octets (.ofList text) = encoded text := by
  rw [Cursor.octets, String.toUTF8_eq_toByteArray, String.toByteArray_ofList, List.utf8Encode,
    List.toList_data_toByteArray]
  rfl

theorem length_encoded (text : List Char) :
    (encoded text).length = (String.ofList text).utf8ByteSize := by
  rw [← octets_ofList, Cursor.octets, String.toUTF8_eq_toByteArray, ← String.size_toByteArray]
  rfl

theorem length_encoded_pos {text : List Char} (h : text ≠ []) : 0 < (encoded text).length := by
  cases text with
  | nil => exact absurd rfl h
  | cons c text =>
    rw [encoded_cons, List.length_append, String.length_utf8EncodeChar]
    have pos := c.utf8Size_pos
    omega

theorem encode_ascii {a : Char} (ascii : a.toNat < 128) :
    String.utf8EncodeChar a = [a.toUInt8] := by
  have small : a.val.toNat ≤ 127 := by
    have same : a.val.toNat = a.toNat := Char.toNat_val
    omega
  rw [String.utf8EncodeChar, if_pos small]
  rfl

/-- The octet of an ASCII character occurs in no other character. -/
theorem eq_of_toUInt8_mem {a c : Char} (ascii : a.toNat < 128)
    (h : a.toUInt8 ∈ String.utf8EncodeChar c) : c = a := by
  have value : a.toUInt8.toNat = a.toNat := by
    have small : a.toUInt8.toNat = a.toNat % 256 := rfl
    omega
  have large : ∀ n, 128 ≤ n → n < 256 → a.toUInt8 ≠ UInt8.ofNat n := by
    intro n low high same
    have eq := congrArg UInt8.toNat same
    rw [value, UInt8.toNat_ofNat'] at eq
    omega
  by_cases one : c.val.toNat ≤ 127
  · rw [encode_ascii (show c.toNat < 128 by rw [← Char.toNat_val]; omega)] at h
    have same : c.toUInt8.toNat = c.toNat % 256 := rfl
    have eq := congrArg UInt8.toNat (List.mem_singleton.mp h)
    rw [value, same, ← Char.toNat_val (c := c)] at eq
    refine Char.ext (UInt32.toNat_inj.mp ?_)
    rw [Char.toNat_val (c := a)]
    omega
  · exfalso
    simp only [String.utf8EncodeChar, if_neg one] at h
    split at h
    · simp only [List.mem_cons, List.not_mem_nil, or_false] at h
      rcases h with h | h <;> exact large _ (by omega) (by omega) h
    · split at h <;> simp only [List.mem_cons, List.not_mem_nil, or_false] at h
      · rcases h with h | h | h <;> exact large _ (by omega) (by omega) h
      · rcases h with h | h | h | h <;> exact large _ (by omega) (by omega) h

theorem ne_of_mem_encode {a c : Char} (ascii : a.toNat < 128) (ne : c ≠ a) :
    ∀ octet ∈ String.utf8EncodeChar c, octet ≠ a.toUInt8 := by
  rintro octet mem rfl
  exact ne (eq_of_toUInt8_mem ascii mem)

theorem ne_of_mem_encoded {a : Char} {text : List Char} (ascii : a.toNat < 128) (h : a ∉ text) :
    ∀ octet ∈ encoded text, octet ≠ a.toUInt8 := by
  intro octet mem
  obtain ⟨c, inText, inChar⟩ := List.mem_flatMap.mp mem
  exact ne_of_mem_encode ascii (fun same => h (same ▸ inText)) octet inChar

theorem head?_encoded {a : Char} {text : List Char} (ascii : a.toNat < 128)
    (h : text.head? ≠ some a) : (encoded text).head? ≠ some a.toUInt8 := by
  cases text with
  | nil => simp [encoded]
  | cons c text =>
    intro head
    have ne : c ≠ a := by simpa using h
    rw [encoded_cons] at head
    obtain ⟨octet, more, octets⟩ := List.exists_cons_of_length_pos (l := String.utf8EncodeChar c)
      (by rw [String.length_utf8EncodeChar]; exact c.utf8Size_pos)
    rw [octets] at head
    exact ne_of_mem_encode ascii ne octet (by simp [octets]) (by simpa using head)

/-! ## The cursor inside a token

Where the cursor stands is said by the octets that are left there. -/

namespace Cursor

variable {os : List UInt8}

theorem getElem?_of_drop {i : Nat} {octet : UInt8} {rest : List UInt8}
    (h : os.drop i = octet :: rest) :
    i < os.length ∧ os[i]? = some octet ∧ os[i + 1]? = rest.head? ∧ os.drop (i + 1) = rest := by
  have here : os[i]? = some octet := by rw [← List.head?_drop, h, List.head?_cons]
  have later : os.drop (i + 1) = rest := by rw [← List.tail_drop, h, List.tail_cons]
  refine ⟨(List.getElem?_eq_some_iff.mp here).1, here, ?_, later⟩
  rw [← List.head?_drop, later]

theorem drop_add_length {i : Nat} {block rest : List UInt8} (h : os.drop i = block ++ rest) :
    os.drop (i + block.length) = rest := by
  rw [← List.drop_drop, h, List.drop_left]

theorem length_le_of_drop {i : Nat} (h : os.drop i = []) : os.length ≤ i :=
  List.drop_eq_nil_iff.mp h

/-- What does not change by one step over an octet of a kind does not change by a
block of such octets. -/
theorem eq_of_block {α : Type} {f : Nat → α} {skipped : UInt8 → Prop}
    (step : ∀ {i : Nat} {octet : UInt8} {rest : List UInt8},
      os.drop i = octet :: rest → skipped octet → f i = f (i + 1))
    {block rest : List UInt8} (all : ∀ octet ∈ block, skipped octet) {i : Nat}
    (h : os.drop i = block ++ rest) : f i = f (i + block.length) := by
  induction block generalizing i with
  | nil => rfl
  | cons octet block ih =>
    have later : os.drop (i + 1) = block ++ rest := (getElem?_of_drop h).2.2.2
    rw [step h (all octet (by simp)), ih (fun o mem => all o (List.mem_cons_of_mem _ mem)) later,
      List.length_cons]
    congr 1
    omega

theorem quoteEnd_block {quote : UInt8} {block rest : List UInt8}
    (ne : ∀ octet ∈ block, octet ≠ quote) {i : Nat} (h : os.drop i = block ++ rest) :
    quoteEnd os quote i = quoteEnd os quote (i + block.length) := by
  refine eq_of_block (fun {i octet _} first other => ?_) ne h
  obtain ⟨inside, here, -, -⟩ := getElem?_of_drop first
  have noQuote : os[i]? ≠ some quote := by simpa [here] using other
  rw [quoteEnd, if_pos inside, if_neg noQuote]

theorem quoteEnd_twice {quote : Char} (ascii : quote.toNat < 128) (content : List Char)
    {rest : List UInt8} {i : Nat} (h : os.drop i = encoded (twice (· = quote) content) ++ rest) :
    quoteEnd os quote.toUInt8 i =
      quoteEnd os quote.toUInt8 (i + (encoded (twice (· = quote) content)).length) := by
  induction content generalizing i with
  | nil => rfl
  | cons c content ih =>
    by_cases same : c = quote
    · subst same
      have two : encoded (twice (· = c) (c :: content)) =
          c.toUInt8 :: c.toUInt8 :: encoded (twice (· = c) content) := by
        rw [twice_cons_pos (by simp), encoded_cons, encoded_cons, encode_ascii ascii]
        rfl
      rw [two] at h ⊢
      obtain ⟨inside, here, next, later⟩ := getElem?_of_drop h
      obtain ⟨-, -, -, after⟩ := getElem?_of_drop later
      have twice : os[i + 1]? = some c.toUInt8 := next
      rw [quoteEnd, if_pos inside, if_pos here, if_pos twice, ih after, List.length_cons,
        List.length_cons]
      congr 1
      omega
    · rw [twice_cons_neg (by simpa using same), encoded_cons] at h ⊢
      rw [List.append_assoc] at h
      rw [quoteEnd_block (ne_of_mem_encode ascii same) h, ih (drop_add_length h),
        List.length_append]
      congr 1
      omega

theorem quoteEnd_closed {quote : UInt8} {rest : List UInt8} {i : Nat}
    (h : os.drop i = quote :: rest) (apart : rest.head? ≠ some quote) : quoteEnd os quote i = i := by
  obtain ⟨inside, here, next, -⟩ := getElem?_of_drop h
  rw [quoteEnd, if_pos inside, if_pos here, if_neg (by rw [next]; exact apart)]

theorem lineEnd_block {block rest : List UInt8} (ne : ∀ octet ∈ block, octet ≠ '\n'.toUInt8)
    {i : Nat} (h : os.drop i = block ++ rest) : lineEnd os i = lineEnd os (i + block.length) := by
  refine eq_of_block (fun {i octet _} first other => ?_) ne h
  obtain ⟨inside, here, -, -⟩ := getElem?_of_drop first
  have noBreak : os[i]? ≠ some '\n'.toUInt8 := by simpa [here] using other
  rw [lineEnd, if_pos inside, if_neg noBreak]

theorem lineEnd_closed {rest : List UInt8} {i : Nat} (h : os.drop i = rest)
    (ends : ∀ octet ∈ rest.head?, octet = '\n'.toUInt8) : lineEnd os i = i := by
  rw [lineEnd]
  split
  · rename_i inside
    have here : os[i]? = some '\n'.toUInt8 := by
      rw [← List.head?_drop, h]
      cases rest with
      | nil => exact absurd (length_le_of_drop h) (by omega)
      | cons octet rest => rw [List.head?_cons, ends octet rfl]
    rw [if_pos here]
  · rfl

theorem commentEnd_block {block rest : List UInt8} (ne : ∀ octet ∈ block, octet ≠ '*'.toUInt8)
    {i : Nat} (h : os.drop i = block ++ rest) :
    commentEnd os i = commentEnd os (i + block.length) := by
  refine eq_of_block (fun {i octet _} first other => ?_) ne h
  obtain ⟨inside, here, -, -⟩ := getElem?_of_drop first
  have noEnd : ¬(os[i]? = some '*'.toUInt8 ∧ os[i + 1]? = some '/'.toUInt8) := by
    rintro ⟨star, -⟩
    rw [here] at star
    exact other (Option.some.inj star)
  rw [commentEnd, if_pos inside, if_neg noEnd]

theorem commentEnd_content {content : List Char} (never : ¬closing <:+: content) {rest : List UInt8}
    (apart : rest.head? ≠ some '/'.toUInt8) {i : Nat} (h : os.drop i = encoded content ++ rest) :
    commentEnd os i = commentEnd os (i + (encoded content).length) := by
  induction content generalizing i with
  | nil => rfl
  | cons c content ih =>
    have later : ¬closing <:+: content :=
      fun inside => never (inside.trans (List.infix_cons (List.infix_refl content)))
    rw [encoded_cons] at h ⊢
    by_cases star : c = '*'
    · subst star
      rw [encode_ascii (by decide), List.singleton_append] at h ⊢
      obtain ⟨inside, -, next, after⟩ := getElem?_of_drop h
      -- No slash comes after the star, neither in the content nor behind it.
      have noSlash : (encoded content ++ rest).head? ≠ some '/'.toUInt8 := by
        have head : content.head? ≠ some '/' := by
          intro slash
          obtain ⟨more, rfl⟩ := List.head?_eq_some_iff.mp slash
          exact never ⟨[], more, rfl⟩
        rw [List.head?_append]
        cases first : (encoded content).head? with
        | none => simpa using apart
        | some octet =>
          rw [Option.some_or, ← first]
          exact head?_encoded (by decide) head
      have other : ¬(os[i]? = some '*'.toUInt8 ∧ os[i + 1]? = some '/'.toUInt8) := by
        rintro ⟨-, slash⟩
        rw [next] at slash
        exact noSlash slash
      rw [commentEnd, if_pos inside, if_neg other, ih later after, List.length_cons]
      congr 1
      omega
    · rw [List.append_assoc] at h
      rw [commentEnd_block (ne_of_mem_encode (by decide) star) h, ih later (drop_add_length h),
        List.length_append]
      congr 1
      omega

theorem commentEnd_closed {rest : List UInt8} {i : Nat}
    (h : os.drop i = '*'.toUInt8 :: '/'.toUInt8 :: rest) : commentEnd os i = i := by
  obtain ⟨inside, here, next, -⟩ := getElem?_of_drop h
  rw [commentEnd, if_pos inside, if_pos ⟨here, next⟩]

/-! ## From token to token -/

theorem visits_end {start i : Nat} (h : os.length ≤ i) :
    visits os start i = if start < os.length then [.text start os.length] else [] := by
  have past : os[i]? = none := List.getElem?_eq_none_iff.mpr h
  rw [visits]
  split
  · rfl
  · rename_i here
    rw [past] at here
    cases here

theorem visits_octet {start i : Nat} {octet : UInt8} (h : os[i]? = some octet) :
    visits os start i =
      if octet = '?'.toUInt8 then .text start i :: .bind :: visits os (i + 1) (i + 1)
      else visits os start (next os i octet) := by
  rw [visits]
  split
  · rename_i past
    rw [past] at h
    cases h
  · rename_i here
    rw [here] at h
    cases h
    rfl

theorem visits_bind {start i : Nat} {rest : List UInt8} (h : os.drop i = '?'.toUInt8 :: rest) :
    visits os start i = .text start i :: .bind :: visits os (i + 1) (i + 1) := by
  obtain ⟨-, here, -, -⟩ := getElem?_of_drop h
  rw [visits_octet here, if_pos rfl]

theorem visits_next {start i : Nat} {octet : UInt8} {rest : List UInt8}
    (h : os.drop i = octet :: rest) (noBind : octet ≠ '?'.toUInt8) :
    visits os start i = visits os start (next os i octet) := by
  obtain ⟨-, here, -, -⟩ := getElem?_of_drop h
  rw [visits_octet here, if_neg noBind]

theorem next_other {i : Nat} {octet : UInt8} (single : octet ≠ '\''.toUInt8)
    (double : octet ≠ '"'.toUInt8)
    (dash : octet = '-'.toUInt8 → os[i + 1]? ≠ some '-'.toUInt8)
    (slash : octet = '/'.toUInt8 → os[i + 1]? ≠ some '*'.toUInt8) : next os i octet = i + 1 := by
  unfold next
  rw [if_neg (by simp [single, double]), if_neg fun two => dash two.1 two.2,
    if_neg fun two => slash two.1 two.2]

/-- The characters at which the cursor does not simply move to the next octet. -/
def marks : List Char := ['\'', '"', '-', '/', '?']

theorem visits_block {block rest : List UInt8}
    (plain : ∀ octet ∈ block, ∀ mark ∈ marks, octet ≠ mark.toUInt8) {start i : Nat}
    (h : os.drop i = block ++ rest) : visits os start i = visits os start (i + block.length) := by
  refine eq_of_block (fun {i octet _} first ne => ?_) plain h
  simp only [marks, List.forall_mem_cons, List.not_mem_nil, false_implies, implies_true,
    and_true] at ne
  obtain ⟨single, double, dash, slash, bind⟩ := ne
  rw [visits_next first bind, next_other single double (absurd · dash) (absurd · slash)]

theorem quote_spec (os : List UInt8) {quote : Char} (h : quote ∈ ['\'', '"']) :
    quote.toNat < 128 ∧ quote.toUInt8 ≠ '?'.toUInt8 ∧
      ∀ i, next os i quote.toUInt8 = quoteEnd os quote.toUInt8 (i + 1) + 1 := by
  simp only [List.mem_cons, List.not_mem_nil, or_false] at h
  rcases h with rfl | rfl
  · exact ⟨by decide, by decide, fun i => if_pos (.inl rfl)⟩
  · exact ⟨by decide, by decide, fun i => if_pos (.inr rfl)⟩

/-- From the quote that opens a text the cursor moves behind the one that closes it. -/
theorem next_quoted {quote : Char} {content rest : List Char}
    (stands : (Token.quoted quote content).Stands rest) {i : Nat}
    (h : os.drop i = encoded ((Token.quoted quote content).chars ++ rest)) :
    next os i quote.toUInt8 = i + (encoded (Token.quoted quote content).chars).length := by
  obtain ⟨mem, apart⟩ := stands
  obtain ⟨ascii, -, opens⟩ := quote_spec os mem
  have octets : encoded (Token.quoted quote content).chars =
      quote.toUInt8 :: (encoded (twice (· = quote) content) ++ [quote.toUInt8]) := by
    rw [Token.chars, encoded_cons, encoded_append, encoded_cons, encode_ascii ascii]
    rfl
  rw [encoded_append, octets] at h
  obtain ⟨-, -, -, later⟩ := getElem?_of_drop h
  rw [List.append_eq, List.append_assoc] at later
  have closed := quoteEnd_closed (drop_add_length later) (head?_encoded ascii apart)
  rw [opens, quoteEnd_twice ascii content later, closed, octets]
  simp only [List.length_cons, List.length_append, List.length_nil]
  omega

theorem visits_quoted {quote : Char} {content rest : List Char}
    (stands : (Token.quoted quote content).Stands rest) {start i : Nat}
    (h : os.drop i = encoded ((Token.quoted quote content).chars ++ rest)) :
    visits os start i =
      visits os start (i + (encoded (Token.quoted quote content).chars).length) := by
  have moved := next_quoted stands h
  obtain ⟨ascii, noBind, -⟩ := quote_spec os stands.1
  rw [Token.chars, List.cons_append, encoded_cons, encode_ascii ascii] at h
  rw [visits_next h noBind, moved]

theorem visits_openQuoted {quote : Char} {content : List Char} (mem : quote ∈ ['\'', '"'])
    {start i : Nat} (h : os.drop i = encoded (Token.openQuoted quote content).chars) :
    visits os start i =
      visits os start (i + (encoded (Token.openQuoted quote content).chars).length) := by
  obtain ⟨ascii, noBind, opens⟩ := quote_spec os mem
  have octets : encoded (Token.openQuoted quote content).chars =
      quote.toUInt8 :: encoded (twice (· = quote) content) := by
    rw [Token.chars, encoded_cons, encode_ascii ascii]
    rfl
  rw [octets] at h ⊢
  obtain ⟨-, -, -, later⟩ := getElem?_of_drop h
  rw [← List.append_nil (encoded (twice (· = quote) content))] at later
  -- The cursor comes to stand past the end, where no more is left than at the end.
  have past := length_le_of_drop (drop_add_length later)
  have moved := le_quoteEnd os quote.toUInt8 (i + 1 + (encoded (twice (· = quote) content)).length)
  rw [visits_next h noBind, opens, quoteEnd_twice ascii content later, visits_end (by omega),
    visits_end (by rw [List.length_cons]; omega)]

theorem visits_line {content rest : List Char} (stands : (Token.line content).Stands rest)
    {start i : Nat} (h : os.drop i = encoded ((Token.line content).chars ++ rest)) :
    visits os start i = visits os start (i + (encoded (Token.line content).chars).length) := by
  obtain ⟨oneLine, ends⟩ := stands
  have octets : encoded (Token.line content).chars =
      '-'.toUInt8 :: '-'.toUInt8 :: encoded content := by
    rw [Token.chars, encoded_cons, encoded_cons, encode_ascii (by decide)]
    rfl
  have noBreak : ∀ octet ∈ encoded (Token.line content).chars, octet ≠ '\n'.toUInt8 :=
    ne_of_mem_encoded (by decide) (by simpa [Token.chars] using oneLine)
  have stops : ∀ octet ∈ (encoded rest).head?, octet = '\n'.toUInt8 := by
    intro octet head
    rcases ends with rfl | ends
    · cases head
    · obtain ⟨rest, rfl⟩ := List.head?_eq_some_iff.mp ends
      rw [encoded_cons, encode_ascii (by decide)] at head
      exact (Option.some.inj head).symm
  rw [encoded_append] at h
  have closed := lineEnd_closed (drop_add_length h) stops
  have opens : next os i '-'.toUInt8 = lineEnd os i := by
    rw [octets] at h
    obtain ⟨-, -, second, -⟩ := getElem?_of_drop h
    exact (if_neg (by decide)).trans (if_pos ⟨rfl, second⟩)
  have passed := lineEnd_block noBreak h
  rw [closed] at passed
  have first : os.drop i = '-'.toUInt8 :: ('-'.toUInt8 :: encoded content ++ encoded rest) := by
    rw [h, octets]
    rfl
  rw [visits_next first (by decide), opens, passed]

theorem next_comment {i : Nat} {rest : List UInt8}
    (h : os.drop i = '/'.toUInt8 :: '*'.toUInt8 :: rest) :
    next os i '/'.toUInt8 = commentEnd os (i + 2) + 2 ∧ os.drop (i + 2) = rest := by
  obtain ⟨-, -, second, later⟩ := getElem?_of_drop h
  obtain ⟨-, -, -, after⟩ := getElem?_of_drop later
  have noDash : ¬('/'.toUInt8 = '-'.toUInt8 ∧ os[i + 1]? = some '-'.toUInt8) :=
    fun two => absurd two.1 (by decide)
  exact ⟨(if_neg (by decide)).trans ((if_neg noDash).trans (if_pos ⟨rfl, second⟩)), after⟩

theorem visits_comment {content rest : List Char} (never : ¬closing <:+: content)
    {start i : Nat} (h : os.drop i = encoded ((Token.comment content).chars ++ rest)) :
    visits os start i = visits os start (i + (encoded (Token.comment content).chars).length) := by
  have octets : encoded (Token.comment content).chars =
      '/'.toUInt8 :: '*'.toUInt8 :: (encoded content ++ ['*'.toUInt8, '/'.toUInt8]) := by
    rw [Token.chars, encoded_cons, encoded_cons, encoded_append, encode_ascii (by decide),
      encode_ascii (by decide)]
    rfl
  rw [encoded_append, octets] at h
  obtain ⟨opens, later⟩ := next_comment h
  rw [List.append_eq, List.append_assoc] at later
  have passed := commentEnd_content never (by simp; decide) later
  have closed := commentEnd_closed (drop_add_length later)
  rw [visits_next h (by decide), opens, passed, closed, octets]
  congr 1
  simp only [List.length_cons, List.length_append, List.length_nil]
  omega

theorem visits_openComment {content : List Char} (never : ¬closing <:+: content)
    {start i : Nat} (h : os.drop i = encoded (Token.openComment content).chars) :
    visits os start i =
      visits os start (i + (encoded (Token.openComment content).chars).length) := by
  have octets : encoded (Token.openComment content).chars =
      '/'.toUInt8 :: '*'.toUInt8 :: encoded content := by
    rw [Token.chars, encoded_cons, encoded_cons, encode_ascii (by decide), encode_ascii (by decide)]
    rfl
  rw [octets] at h ⊢
  obtain ⟨opens, later⟩ := next_comment h
  rw [← List.append_nil (encoded content)] at later
  have passed := commentEnd_content never (by simp) later
  have past := length_le_of_drop (drop_add_length later)
  have moved := le_commentEnd os (i + 2 + (encoded content).length)
  rw [visits_next h (by decide), opens, passed, visits_end (by omega),
    visits_end (by simp only [List.length_cons]; omega)]

theorem visits_other {c : Char} {rest : List Char} (stands : (Token.other c).Stands rest)
    (noBind : c ≠ '?') {start i : Nat} (h : os.drop i = encoded (c :: rest)) :
    visits os start i = visits os start (i + (encoded [c]).length) := by
  obtain ⟨noQuote, dash, slash⟩ := stands
  have alone : encoded [c] = String.utf8EncodeChar c := List.append_nil _
  rw [encoded_cons] at h
  rw [alone]
  by_cases isDash : c = '-'
  · subst isDash
    rw [encode_ascii (by decide), List.singleton_append] at h
    obtain ⟨-, -, second, -⟩ := getElem?_of_drop h
    have apart := head?_encoded (by decide) (dash rfl)
    rw [← second] at apart
    rw [visits_next h (by decide),
      next_other (by decide) (by decide) (fun _ => apart) (absurd · (by decide))]
    rfl
  · by_cases isSlash : c = '/'
    · subst isSlash
      rw [encode_ascii (by decide), List.singleton_append] at h
      obtain ⟨-, -, second, -⟩ := getElem?_of_drop h
      have apart := head?_encoded (by decide) (slash rfl)
      rw [← second] at apart
      rw [visits_next h (by decide),
        next_other (by decide) (by decide) (absurd · (by decide)) (fun _ => apart)]
      rfl
    · -- None of the octets of such a character is that of a mark.
      have plain : c ∉ marks := by
        simp only [marks, List.mem_cons, List.not_mem_nil, or_false, not_or] at noQuote ⊢
        exact ⟨noQuote.1, noQuote.2, isDash, isSlash, noBind⟩
      refine visits_block (fun octet mem mark isMark => ?_) h
      have ascii : mark.toNat < 128 := by
        simp only [marks, List.mem_cons, List.not_mem_nil, or_false] at isMark
        rcases isMark with rfl | rfl | rfl | rfl | rfl <;> decide
      exact ne_of_mem_encode ascii (fun same => plain (by rwa [same])) octet mem

/-- **The cursor passes over a token** that is no bind. -/
theorem visits_token {t : Token} {rest : List Char} (stands : t.Stands rest)
    (noBind : t.isBind = false) {start i : Nat} (h : os.drop i = encoded (t.chars ++ rest)) :
    visits os start i = visits os start (i + (encoded t.chars).length) := by
  cases t with
  | quoted quote content => exact visits_quoted stands h
  | openQuoted quote content =>
    obtain ⟨mem, rfl⟩ := stands
    rw [List.append_nil] at h
    exact visits_openQuoted mem h
  | line content => exact visits_line stands h
  | comment content => exact visits_comment stands h
  | openComment content =>
    obtain ⟨never, rfl⟩ := stands
    rw [List.append_nil] at h
    exact visits_openComment never h
  | other c => exact visits_other stands (by simpa [Token.isBind] using noBind) h

/-! ## The texts that are cut out -/

theorem isValid_length_encoded (xs ys : List Char) :
    String.Pos.Raw.IsValid (.ofList (xs ++ ys)) ⟨(encoded xs).length⟩ := by
  refine String.Pos.Raw.isValid_iff_exists_append.mpr
    ⟨.ofList xs, .ofList ys, String.ofList_append, ?_⟩
  rw [length_encoded]
  rfl

theorem slice?_encoded (xs ys zs : List Char) :
    slice? (.ofList (xs ++ ys ++ zs)) (encoded xs).length (encoded (xs ++ ys)).length =
      some (.ofList ys) := by
  have start := isValid_length_encoded xs (ys ++ zs)
  rw [← List.append_assoc] at start
  have stop := isValid_length_encoded (xs ++ ys) zs
  have order : (encoded xs).length ≤ (encoded (xs ++ ys)).length := by
    rw [encoded_append, List.length_append]
    omega
  rw [slice?, dif_pos ⟨start, stop, order⟩]
  refine congrArg some (String.toByteArray_inj.mp ?_)
  have size : ∀ text, (encoded text).length = (List.utf8Encode text).size := fun text => by
    rw [List.utf8Encode, List.size_toByteArray]
    rfl
  rw [String.toByteArray_extract, String.toByteArray_ofList, String.toByteArray_ofList]
  change (List.utf8Encode (xs ++ ys ++ zs)).extract (encoded xs).length
    (encoded (xs ++ ys)).length = _
  rw [size, size, List.utf8Encode_append, List.utf8Encode_append, ByteArray.size_append,
    ByteArray.append_assoc, ← Nat.add_zero (List.utf8Encode xs).size, Nat.add_assoc,
    ByteArray.extract_append_size_add, Nat.zero_add]
  exact ByteArray.extract_append_eq_left rfl

end Cursor

/-- The pieces that tokens make up after a text that has begun, with the empty texts
before and between binds. -/
def Token.visited (run : List Char) : List Token → List Piece
  | [] => if run = [] then [] else [.text run]
  | t :: rest =>
    if t.isBind then .text run :: .bind :: visited [] rest else visited (run ++ t.chars) rest

theorem foldr_prepend_eq (run : List Char) {ps : List Piece}
    (h : ∀ c, prepend c ps = .text [c] :: ps) :
    run.foldr prepend ps = if run = [] then ps else .text run :: ps := by
  induction run with
  | nil => rfl
  | cons c run ih =>
    rw [List.foldr_cons, ih, if_neg (List.cons_ne_nil c run)]
    split
    · rename_i empty
      rw [h, empty]
    · rfl

/-- Without the empty texts they are the pieces that the reader of characters finds. -/
theorem Splits.filter_visited {text : List Char} {tokens : List Token} (h : Splits text tokens)
    (run : List Char) :
    (Token.visited run tokens).filter (· ≠ .text []) = run.foldr prepend (pieces text) := by
  induction h generalizing run with
  | nil =>
    rw [Token.visited, show pieces [] = [] from rfl, foldr_prepend_eq run fun _ => rfl]
    by_cases empty : run = []
    · rw [if_pos empty]
      rfl
    · rw [if_neg empty, List.filter_cons_of_pos (by simpa using empty)]
      rfl
  | @cons t rest tokens first others ih =>
    rw [Token.visited, pieces_token first]
    cases bind : t.isBind with
    | true =>
      have later : (Token.visited [] tokens).filter (· ≠ .text []) = pieces rest := ih []
      rw [if_pos rfl, if_pos rfl, foldr_prepend_eq run fun _ => rfl]
      by_cases empty : run = []
      · rw [if_pos empty, List.filter_cons_of_neg (by simp [empty]),
          List.filter_cons_of_pos (by simp), later]
      · rw [if_neg empty, List.filter_cons_of_pos (by simpa using empty),
          List.filter_cons_of_pos (by simp), later]
    | false => rw [if_neg (by simp), if_neg (by simp), ih, List.foldr_append]

namespace Cursor

/-- From a token on, where a text has begun, the cursor comes by the pieces that the
tokens make up, and every text that it comes by is cut out of the statement. -/
theorem visits_splits {text : List Char} {tokens : List Token} (h : Splits text tokens)
    (done run : List Char) :
    (visits (encoded (done ++ run ++ text)) (encoded done).length
      (encoded (done ++ run)).length).mapM (Visit.piece? (.ofList (done ++ run ++ text))) =
        some (Token.visited run tokens) := by
  -- The statement stays the same: a token goes over from `text` to `run`, or with a bind
  -- all of `run` to `done`.
  induction h generalizing done run with
  | nil =>
    rw [List.append_nil, visits_end (Nat.le_refl _), Token.visited]
    by_cases empty : run = []
    · rw [empty, List.append_nil, if_neg (Nat.lt_irrefl _), if_pos rfl]
      rfl
    · have pos := length_encoded_pos empty
      have cut := slice?_encoded done run []
      rw [List.append_nil] at cut
      have more : (encoded done).length < (encoded (done ++ run)).length := by
        rw [encoded_append, List.length_append]
        omega
      rw [if_pos more, if_neg empty, List.mapM_cons, Visit.piece?, cut]
      simp
  | @cons t rest tokens first others ih =>
    have here : (encoded (done ++ run ++ (t.chars ++ rest))).drop (encoded (done ++ run)).length =
        encoded (t.chars ++ rest) := by
      rw [encoded_append (done ++ run), List.drop_left]
    rw [Token.visited]
    cases bind : t.isBind with
    | true =>
      obtain rfl : t = .other '?' := by simpa [Token.isBind] using bind
      have later := ih (done ++ run ++ ['?']) []
      have same : done ++ run ++ ['?'] ++ [] ++ rest =
          done ++ run ++ ((Token.other '?').chars ++ rest) := by
        simp [Token.chars]
      have moved :
          (encoded (done ++ run ++ ['?'])).length = (encoded (done ++ run)).length + 1 := by
        rw [encoded_append, List.length_append]
        rfl
      rw [same, List.append_nil, moved] at later
      have cut := slice?_encoded done run ((Token.other '?').chars ++ rest)
      rw [visits_bind (here.trans rfl), List.mapM_cons, List.mapM_cons, later, Visit.piece?, cut]
      simp [Visit.piece?]
    | false =>
      have later := ih done (run ++ t.chars)
      have same : done ++ (run ++ t.chars) ++ rest = done ++ run ++ (t.chars ++ rest) := by simp
      have moved : (encoded (done ++ (run ++ t.chars))).length =
          (encoded (done ++ run)).length + (encoded t.chars).length := by
        rw [← List.append_assoc, encoded_append, List.length_append]
      rw [same, moved] at later
      rw [if_neg (by simp), visits_token first bind here, later]

/-- **The cursor finds the pieces that the reader of characters finds**, and empty
texts, and cuts out no text inside a character. -/
theorem pieces?_eq {sql : String} {tokens : List Token} (h : Splits sql.toList tokens) :
    pieces? sql = some (Token.visited [] tokens) := by
  have visited := visits_splits h [] []
  rw [List.nil_append, List.nil_append, String.ofList_toList, ← octets_ofList,
    String.ofList_toList] at visited
  exact visited

end Cursor

theorem flatMap_chars_filter (ps : List Piece) :
    (ps.filter (· ≠ .text [])).flatMap Piece.chars = ps.flatMap Piece.chars := by
  induction ps with
  | nil => rfl
  | cons p ps ih =>
    by_cases empty : p = .text []
    · rw [List.filter_cons_of_neg (by simpa using empty), ih, empty]
      rfl
    · rw [List.filter_cons_of_pos (by simpa using empty), List.flatMap_cons, ih,
        List.flatMap_cons]

/-! ## The binds of a statement -/

/-- **The binds of a statement are the question marks outside its tokens.** The pieces
that are read, with a question mark for each bind, are the statement; a cursor over
its octets cuts out every text at character boundaries, and comes by the same pieces
and by empty texts. A statement splits into tokens, and the binds are its tokens that
are question marks; in the rendered statement the `k`-th of these is `$k`, and every
other token is as it was. -/
theorem binds_are_marks_outside_tokens (sql : String) :
    (pieces sql.toList).flatMap Piece.chars = sql.toList ∧
    (∃ visited, Cursor.pieces? sql = some visited ∧
      visited.flatMap Piece.chars = sql.toList ∧
      visited.filter (· ≠ .text []) = pieces sql.toList) ∧
    (∃ tokens, Splits sql.toList tokens) ∧
    ∀ tokens, Splits sql.toList tokens →
      tokens.flatMap Token.chars = sql.toList ∧
      offsets sql = Token.marksFrom 0 tokens ∧
      count sql = tokens.countP Token.isBind ∧
      render sql = .ofList (Token.numberedFrom 1 tokens) := by
  obtain ⟨tokens, split⟩ := exists_splits sql.toList
  have whole : (pieces sql.toList).flatMap Piece.chars = sql.toList :=
    chars_piecesFrom .plain sql.toList
  refine ⟨whole, ⟨_, Cursor.pieces?_eq split, ?_, split.filter_visited []⟩, ⟨tokens, split⟩, ?_⟩
  · rw [← flatMap_chars_filter, split.filter_visited []]
    exact whole
  · intro tokens split
    have marks : offsets sql = Token.marksFrom 0 tokens := split.offsetsFrom 0
    refine ⟨split.flatMap_chars, marks, ?_, congrArg String.ofList (split.numberFrom 1)⟩
    rw [← length_offsets, marks, Token.length_marksFrom]

/-- Question marks in and between tokens of all kinds. -/
def Token.ofEveryKind : List Token :=
  [.other 'é', .quoted '\'' ['?', '\'', '?'], .other '?', .comment ['/', '?', '*'], .other '?',
    .line ['-', '?'], .other '\n', .other '?', .other '-', .openQuoted '"' ['?', '"']]

theorem binds_are_marks_outside_tokens_ofEveryKind :
    Splits "é'?''?'?/*/?**/?---?\n?-\"?\"\"".toList Token.ofEveryKind ∧
    offsets "é'?''?'?/*/?**/?---?\n?-\"?\"\"" = [7, 15, 21] ∧
    render "é'?''?'?/*/?**/?---?\n?-\"?\"\"" = "é'?''?'$1/*/?**/$2---?\n$3-\"?\"\"" := by
  have text : Token.ofEveryKind.flatMap Token.chars =
    "é'?''?'?/*/?**/?---?\n?-\"?\"\"".toList := by decide
  have split : Splits (Token.ofEveryKind.flatMap Token.chars) Token.ofEveryKind := by
    unfold Token.ofEveryKind
    repeat refine Splits.cons (by decide) ?_
    exact .nil
  rw [text] at split
  obtain ⟨-, marks, -, rendered⟩ := (binds_are_marks_outside_tokens _).2.2.2 _ split
  exact ⟨split, marks, rendered.trans (by decide +kernel)⟩

end SqlBind.Placeholder
