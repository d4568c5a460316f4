/-
Reading a statement piece by piece. A text is read the same in one piece or in
several (`bindsFrom_append`), so what holds of the parts of a statement holds of
the whole: where its binds stand, and in which mode they leave the reader.

Two kinds of text are safe to put together. A `Quiet` one, read outside quotes
and comments, binds nothing and leaves the reader there; an `Inert` one does so
even right after a hyphen or a slash that some other text ended in.
-/
import SqlBind.Statement.Placeholder

namespace SqlBind.Placeholder

/-! ## Where the binds stand -/

/-- The offsets of the binds among pieces that start at offset `n`. -/
def Piece.offsetsFrom (n : Nat) : List Piece → List Nat
  | [] => []
  | .text run :: rest => offsetsFrom (n + run.length) rest
  | .bind :: rest => n :: offsetsFrom (n + 1) rest

/-- The offsets, in characters, of the binds of a statement. -/
def offsets (sql : String) : List Nat := Piece.offsetsFrom 0 (pieces sql.toList)

/-- The offsets of the binds in a text that starts at offset `n` and is read from a mode on. -/
def bindsFrom (m : Mode) (n : Nat) (cs : List Char) : List Nat :=
  Piece.offsetsFrom n (piecesFrom m cs)

theorem offsets_eq (sql : String) : offsets sql = bindsFrom .plain 0 sql.toList := rfl

theorem offsetsFrom_prepend (c : Char) (n : Nat) (ps : List Piece) :
    Piece.offsetsFrom n (prepend c ps) = Piece.offsetsFrom (n + 1) ps := by
  cases ps with
  | nil => rfl
  | cons p ps =>
    cases p with
    | text run =>
      simp only [prepend, Piece.offsetsFrom, List.length_cons]
      rw [Nat.add_assoc, Nat.add_comm 1]
    | bind => rfl

theorem length_offsetsFrom (n : Nat) (ps : List Piece) :
    (Piece.offsetsFrom n ps).length = ps.count .bind := by
  induction ps generalizing n with
  | nil => rfl
  | cons p ps ih => cases p <;> simp [Piece.offsetsFrom, ih]

/-- A statement has as many binds as the reader finds places for. -/
theorem length_offsets (sql : String) : (offsets sql).length = count sql :=
  length_offsetsFrom 0 _

theorem bindsFrom_cons (m : Mode) (n : Nat) (c : Char) (cs : List Char) :
    bindsFrom m n (c :: cs) =
      if m.binds c then n :: bindsFrom (m.next c) (n + 1) cs
      else bindsFrom (m.next c) (n + 1) cs := by
  unfold bindsFrom
  rw [piecesFrom]
  split
  · rfl
  · rw [offsetsFrom_prepend]

/-! ## One piece or several -/

theorem Mode.after_cons (m : Mode) (c : Char) (cs : List Char) :
    m.after (c :: cs) = (m.next c).after cs := rfl

theorem Mode.after_append (m : Mode) (xs ys : List Char) :
    m.after (xs ++ ys) = (m.after xs).after ys := by
  simp only [Mode.after, List.foldl_append]

/-- **A text reads the same in two pieces as in one**: the second is read in the
mode in which the first leaves off. -/
theorem bindsFrom_append (m : Mode) (n : Nat) (xs ys : List Char) :
    bindsFrom m n (xs ++ ys) = bindsFrom m n xs ++ bindsFrom (m.after xs) (n + xs.length) ys := by
  induction xs generalizing m n with
  | nil => rfl
  | cons c xs ih =>
    have hn : n + (c :: xs).length = n + 1 + xs.length := by simp only [List.length_cons]; omega
    rw [List.cons_append, bindsFrom_cons, bindsFrom_cons, ih, Mode.after_cons, hn]
    split <;> rfl

/-- Where a text starts only shifts its binds. -/
theorem bindsFrom_eq_map (m : Mode) (n : Nat) (cs : List Char) :
    bindsFrom m n cs = (bindsFrom m 0 cs).map (n + ·) := by
  induction cs generalizing m n with
  | nil => rfl
  | cons c cs ih =>
    have shift : bindsFrom (m.next c) (n + 1) cs = (bindsFrom (m.next c) (0 + 1) cs).map (n + ·) := by
      rw [ih (m.next c) (n + 1), ih (m.next c) (0 + 1), List.map_map]
      congr 1
      funext k
      simp only [Function.comp_apply]
      omega
    rw [bindsFrom_cons, bindsFrom_cons, shift]
    split <;> simp

theorem bindsFrom_eq_nil_iff {m : Mode} {n : Nat} {cs : List Char} :
    bindsFrom m n cs = [] ↔ bindsFrom m 0 cs = [] := by
  rw [bindsFrom_eq_map, List.map_eq_nil_iff]

/-! ## Texts that are safe to put together -/

/-- A text without binds that leaves the reader outside quotes and comments. -/
def SelfContained (text : String) : Prop :=
  count text = 0 ∧ (Mode.plain.after text.toList).isOutside = true

instance (text : String) : Decidable (SelfContained text) :=
  inferInstanceAs (Decidable (_ ∧ _))

theorem SelfContained.bindsFrom {text : String} (h : SelfContained text) (n : Nat) :
    bindsFrom .plain n text.toList = [] := by
  rw [bindsFrom_eq_nil_iff, ← offsets_eq]
  exact List.eq_nil_of_length_eq_zero ((length_offsets text).trans h.1)

/-- Read from plain text on, the text binds nothing and ends in plain text. -/
def Quiet (text : String) : Prop :=
  Mode.plain.after text.toList = .plain ∧ bindsFrom .plain 0 text.toList = []

instance (text : String) : Decidable (Quiet text) :=
  inferInstanceAs (Decidable (_ ∧ _))

/-- Read from anywhere outside quotes and comments on, the text binds nothing
and ends in plain text. -/
def Inert (text : String) : Prop :=
  ∀ m : Mode, m.isOutside = true → m.after text.toList = .plain ∧ bindsFrom m 0 text.toList = []

/-- The reader is outside quotes and comments in three modes only. -/
theorem inert_iff {text : String} :
    Inert text ↔ ∀ m ∈ [Mode.plain, .dash, .slash],
      m.after text.toList = .plain ∧ bindsFrom m 0 text.toList = [] := by
  constructor
  · intro h m hm
    simp only [List.mem_cons, List.not_mem_nil, or_false] at hm
    rcases hm with rfl | rfl | rfl <;> exact h _ rfl
  · intro h m hm
    cases m with
    | plain | dash | slash => exact h _ (by simp)
    | single | double | line | block | blockStar => exact absurd hm (by decide)

instance (text : String) : Decidable (Inert text) := decidable_of_iff _ inert_iff.symm

theorem quiet_empty : Quiet "" := by decide

theorem Quiet.append {s t : String} (hs : Quiet s) (ht : Quiet t) : Quiet (s ++ t) := by
  refine ⟨?_, ?_⟩
  · rw [String.toList_append, Mode.after_append, hs.1, ht.1]
  · rw [String.toList_append, bindsFrom_append, hs.1, hs.2, bindsFrom_eq_nil_iff.mpr ht.2]
    rfl

theorem Inert.append {s t : String} (hs : Inert s) (ht : Quiet t) : Inert (s ++ t) := by
  intro m hm
  obtain ⟨after, binds⟩ := hs m hm
  refine ⟨?_, ?_⟩
  · rw [String.toList_append, Mode.after_append, after, ht.1]
  · rw [String.toList_append, bindsFrom_append, after, binds, bindsFrom_eq_nil_iff.mpr ht.2]
    rfl

theorem Quiet.intercalate {separator : String} (hs : Quiet separator) {texts : List String}
    (h : ∀ text ∈ texts, Quiet text) : Quiet (separator.intercalate texts) := by
  induction texts with
  | nil => exact quiet_empty
  | cons text texts ih =>
    cases texts with
    | nil => simpa using h
    | cons next rest =>
      rw [String.intercalate_cons_cons]
      have first : Quiet text := h text (by simp)
      have others : Quiet (separator.intercalate (next :: rest)) := ih fun t ht => h t (by simp [ht])
      exact (first.append hs).append others

end SqlBind.Placeholder
