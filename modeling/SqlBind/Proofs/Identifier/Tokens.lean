/-
Names as tokens. The check of names and the reader of binds agree on where a name
ends. A part between quotes is one quoted text for the reader, every other character
is a token of its own, and none of them is a bind (`IsPath.splitsApart`). The last
token of a name could be carried on by nothing but a double quote, so what follows a
name and does not begin with one is read as if it stood alone: by the splitting into
tokens and by the cursor over octets (`names_are_read_apart`).
-/
import SqlBind.Proofs.Identifier.Grammar
import SqlBind.Proofs.Identifier.Reading
import SqlBind.Proofs.Placeholder.Cursor
import SqlBind.Proofs.Placeholder.Splitting

namespace SqlBind.Placeholder

open Text

/-! ## Texts that are read apart from what follows -/

/-- A text has tokens of its own, none of them a bind, and what follows has its own
too, unless it begins with a double quote. -/
structure SplitsApart (text : List Char) (own : List Token) : Prop where
  noBind : ∀ t ∈ own, t.isBind = false
  splits : ∀ {rest : List Char} {tokens : List Token}, rest.head? ≠ some '"' →
    Splits rest tokens → Splits (text ++ rest) (own ++ tokens)

namespace SplitsApart

variable {text : List Char} {own : List Token}

theorem alone (h : SplitsApart text own) : Splits text own := by
  have split := h.splits (by simp) .nil
  rwa [List.append_nil, List.append_nil] at split

theorem flatMap_chars (h : SplitsApart text own) : own.flatMap Token.chars = text :=
  h.alone.flatMap_chars

theorem quoted (content : List Char) :
    SplitsApart ('"' :: (twice (· = '"') content ++ ['"'])) [.quoted '"' content] := by
  refine ⟨by simp [Token.isBind], fun {rest tokens} apart split => ?_⟩
  have stands : (Token.quoted '"' content).Stands rest := ⟨by simp, apart⟩
  exact .cons stands split

theorem append {c : Char} {later : List Char} {others : List Token} (h : SplitsApart text own)
    (apart : c ≠ '"') (h' : SplitsApart (c :: later) others) :
    SplitsApart (text ++ c :: later) (own ++ others) := by
  refine ⟨fun t mem => ?_, fun {rest tokens} restApart split => ?_⟩
  · rcases List.mem_append.mp mem with mem | mem
    · exact h.noBind t mem
    · exact h'.noBind t mem
  · rw [List.append_assoc, List.append_assoc]
    exact h.splits (by simpa using apart) (h'.splits restApart split)

/-- A character that starts nothing is a token of its own, whatever follows it. -/
theorem cons {c : Char} (plain : c ∉ ['\'', '"', '-', '/', '?']) (h : SplitsApart text own) :
    SplitsApart (c :: text) (.other c :: own) := by
  simp only [List.mem_cons, List.not_mem_nil, or_false, not_or] at plain
  obtain ⟨noSingle, noDouble, noDash, noSlash, noBind⟩ := plain
  refine ⟨fun t mem => ?_, fun {rest tokens} apart split => ?_⟩
  · rcases List.mem_cons.mp mem with rfl | mem
    · simpa [Token.isBind] using noBind
    · exact h.noBind t mem
  · have stands : (Token.other c).Stands (text ++ rest) :=
      ⟨by simp [noSingle, noDouble], (absurd · noDash), (absurd · noSlash)⟩
    exact .cons stands (h.splits apart split)

theorem others (plain : ∀ c ∈ text, c ∉ ['\'', '"', '-', '/', '?']) :
    SplitsApart text (text.map .other) := by
  induction text with
  | nil => exact ⟨by simp, fun _ split => split⟩
  | cons c text ih => exact .cons (plain c (by simp)) (ih fun d mem => plain d (by simp [mem]))

end SplitsApart

theorem Splits.first {t : Token} {text : List Char} {tokens : List Token}
    (h : Splits text (t :: tokens)) :
    ∃ rest, text = t.chars ++ rest ∧ t.Stands rest ∧ Splits rest tokens := by
  cases h with
  | cons first others => exact ⟨_, rfl, first, others⟩

/-- The cursor passes over tokens that are no binds. -/
theorem Cursor.visits_tokens {own tokens : List Token} {rest : List Char}
    (h : Splits (own.flatMap Token.chars ++ rest) (own ++ tokens))
    (noBind : ∀ t ∈ own, t.isBind = false) {os : List UInt8} {start i : Nat}
    (left : os.drop i = encoded (own.flatMap Token.chars ++ rest)) :
    visits os start i = visits os start (i + (encoded (own.flatMap Token.chars)).length) := by
  induction own generalizing i with
  | nil => rfl
  | cons t own ih =>
    rw [List.flatMap_cons, List.append_assoc] at h left
    obtain ⟨rest', eq, stands, others⟩ := h.first
    obtain rfl := List.append_cancel_left eq
    have passed : os.drop (i + (encoded t.chars).length) =
        encoded (own.flatMap Token.chars ++ rest) := by
      rw [encoded_append] at left
      exact drop_add_length left
    rw [visits_token stands (noBind t (by simp)) left,
      ih others (fun u mem => noBind u (by simp [mem])) passed, List.flatMap_cons, encoded_append,
      List.length_append, Nat.add_assoc]

/-- The pieces with a text before them, which goes on in the first. -/
def Piece.afterText (text : List Char) : List Piece → List Piece
  | .text run :: rest => .text (text ++ run) :: rest
  | ps => .text text :: ps

theorem Token.visited_append {own : List Token} (noBind : ∀ t ∈ own, t.isBind = false)
    (run : List Char) (tokens : List Token) :
    visited run (own ++ tokens) = visited (run ++ own.flatMap chars) tokens := by
  induction own generalizing run with
  | nil => rw [List.nil_append, List.flatMap_nil, List.append_nil]
  | cons t own ih =>
    have text : t.isBind = false := noBind t (by simp)
    rw [List.cons_append, visited, text, if_neg (by simp),
      ih (fun u mem => noBind u (by simp [mem])), List.flatMap_cons, List.append_assoc]

theorem Token.visited_afterText {text : List Char} (some : text ≠ []) (run : List Char)
    (tokens : List Token) :
    visited (text ++ run) tokens = Piece.afterText text (visited run tokens) := by
  induction tokens generalizing run with
  | nil =>
    rw [visited, visited, if_neg (by simp [some])]
    by_cases empty : run = []
    · rw [if_pos empty, empty, List.append_nil]
      rfl
    · rw [if_neg empty]
      rfl
  | cons t tokens ih =>
    rw [visited, visited]
    cases t.isBind with
    | true => rfl
    | false => rw [if_neg (by simp), if_neg (by simp), List.append_assoc, ih]

/-- A text without binds is read apart from what follows it. -/
structure ReadApart (text rest : String) : Prop where
  /-- The text has tokens of its own, and after them come those of the rest. -/
  tokens : ∃ own, ReadsAs text own ∧ (∀ t ∈ own, t.isBind = false) ∧
    ∀ tokens, ReadsAs rest tokens → ReadsAs (text ++ rest) (own ++ tokens)
  /-- The cursor comes to the end of the text without a visit, … -/
  passed : ∀ start, Cursor.visits (Cursor.octets (text ++ rest)) start 0 =
    Cursor.visits (Cursor.octets (text ++ rest)) start (Cursor.octets text).length
  /-- … so that it comes by the pieces of the rest, of which the first has the text before it. -/
  visited : Cursor.pieces? (text ++ rest) =
    (Cursor.pieces? rest).map (Piece.afterText text.toList)
  /-- The binds are those of the rest. -/
  binds : offsets (text ++ rest) = (offsets rest).map (text.length + ·)

theorem octets_eq (sql : String) : Cursor.octets sql = encoded sql.toList := by
  rw [← octets_ofList, String.ofList_toList]

theorem Quiet.offsets_append {text : String} (h : Quiet text) (rest : String) :
    offsets (text ++ rest) = (offsets rest).map (text.length + ·) := by
  rw [offsets_eq, String.toList_append, bindsFrom_append, h.1, h.2, List.nil_append,
    bindsFrom_eq_map, ← offsets_eq, Nat.zero_add, String.length_toList]

theorem SplitsApart.readApart {text rest : String} {own : List Token}
    (h : SplitsApart text.toList own) (quiet : Quiet text) (filled : text.toList ≠ [])
    (apart : rest.toList.head? ≠ some '"') : ReadApart text rest := by
  obtain ⟨tokens, split⟩ := exists_splits rest.toList
  have whole : Splits (text ++ rest).toList (own ++ tokens) := by
    rw [String.toList_append]
    exact h.splits apart split
  refine ⟨⟨own, h.alone.readsAs, h.noBind, fun tokens reads => ?_⟩, fun start => ?_, ?_,
    quiet.offsets_append rest⟩
  · refine Splits.readsAs ?_
    rw [String.toList_append]
    exact h.splits apart ((reads _).mpr rfl)
  · have octets : Cursor.octets (text ++ rest) = encoded (own.flatMap Token.chars ++ rest.toList) := by
      rw [octets_eq, String.toList_append, h.flatMap_chars]
    rw [String.toList_append, ← h.flatMap_chars] at whole
    rw [Cursor.visits_tokens whole h.noBind (by rw [List.drop_zero, octets]), Nat.zero_add,
      h.flatMap_chars, ← octets_eq]
  · rw [Cursor.pieces?_eq whole, Cursor.pieces?_eq split, Token.visited_append h.noBind,
      h.flatMap_chars, List.nil_append, Option.map_some, ← Token.visited_afterText filled,
      List.append_nil]

end SqlBind.Placeholder

namespace SqlBind.Identifier

open Placeholder

/-! ## Names -/

theorem Follows.noMark {c : Char} (h : Follows c) : c ∉ ['\'', '"', '-', '/', '?'] := by
  simp only [List.mem_cons, List.not_mem_nil, or_false, not_or]
  exact ⟨h.ne (by decide), h.ne (by decide), h.ne (by decide), h.ne (by decide), h.ne (by decide)⟩

theorem follows_of_start {c : Char} (h : Letter c ∨ c = '_') : Follows c :=
  h.imp id fun underscore => .inr (by simp [underscore])

theorem IsPart.splitsApart {part : List Char} (h : IsPart part) : ∃ own, SplitsApart part own := by
  cases h with
  | bare start follow =>
    refine ⟨_, .others fun c mem => ?_⟩
    rcases List.mem_cons.mp mem with rfl | mem
    · exact (follows_of_start start).noMark
    · exact (follow c mem).noMark
  | quoted => exact ⟨_, .quoted _⟩

theorem IsPath.splitsApart {cs : List Char} (h : IsPath cs) : ∃ own, SplitsApart cs own := by
  induction h with
  | last h => exact h.splitsApart
  | @more part rest h others ih =>
    obtain ⟨own, ofPart⟩ := h.splitsApart
    obtain ⟨later, ofRest⟩ := ih
    exact ⟨_, ofPart.append (by decide) (.cons (by decide) ofRest)⟩

/-- **A name that passes the check is read apart from what follows**, if that does not
begin with a double quote: the check and the reader find the same end of it, however it
is quoted. The reader goes over the name to its end, binds nothing in it, is outside
quotes and comments there, and finds in the rest what it finds in the rest alone. -/
theorem names_are_read_apart {name rest : String} (checked : check name = .ok ())
    (apart : rest.toList.head? ≠ some '"') : ReadApart name rest ∧ Quiet name := by
  have path : IsPath name.toList := check_eq_ok_iff.mp checked
  have filled : name.toList ≠ [] := fun empty => not_isPath_nil (empty ▸ path)
  have quiet := quiet_of_check checked
  obtain ⟨own, splits⟩ := path.splitsApart
  exact ⟨splits.readApart quiet filled apart, quiet⟩

/-- A name with quotes and a bind at both ends of its quoted part, before a bind and a
quoted text that is not closed. -/
theorem names_are_read_apart_quoted :
    check "app.\"\"\"?é--?\"\"\"" = .ok () ∧ "=? '?".toList.head? ≠ some '"' ∧
      ReadApart "app.\"\"\"?é--?\"\"\"" "=? '?" ∧
      offsets "app.\"\"\"?é--?\"\"\"=? '?" = [16] := by
  have checked : check "app.\"\"\"?é--?\"\"\"" = .ok () := rfl
  have apart : "=? '?".toList.head? ≠ some '"' := by decide
  have read := (names_are_read_apart checked apart).1
  exact ⟨checked, apart, read, read.binds.trans (by decide)⟩

end SqlBind.Identifier
