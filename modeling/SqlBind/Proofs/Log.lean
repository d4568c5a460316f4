/-
What the log keeps of a statement that is too long. Where the search backwards ends is the
greatest character boundary up to the limit (`boundaryBefore_eq`). The starts of a text end
at its character boundaries, and of two starts the one with fewer octets is a start of the
other (`exists_append_of_le`). So what stands before that boundary is the longest start that
fits, and every start that fits is a start of it.
-/
import SqlBind.Log
import SqlBind.Proofs.Placeholder.Cursor
import Mathlib.Data.Nat.Find

namespace SqlBind

namespace Text

/-! ## The search -/

theorem boundaryBefore_eq (text : String) (i : Nat) :
    boundaryBefore text i = Nat.findGreatest (fun i => String.Pos.Raw.IsValid text ⟨i⟩) i := by
  induction i with
  | zero => rfl
  | succ i ih => rw [boundaryBefore, Nat.findGreatest_succ, ih]

theorem boundaryBefore_le (text : String) (i : Nat) : boundaryBefore text i ≤ i := by
  rw [boundaryBefore_eq]
  exact Nat.findGreatest_le i

/-- The search passes over no character boundary. -/
theorem le_boundaryBefore {text : String} {i j : Nat} (before : j ≤ i)
    (boundary : String.Pos.Raw.IsValid text ⟨j⟩) : j ≤ boundaryBefore text i := by
  rw [boundaryBefore_eq]
  exact Nat.le_findGreatest before boundary

/-! ## Starts of a text -/

theorem isValid_start (start rest : String) :
    String.Pos.Raw.IsValid (start ++ rest) ⟨start.utf8ByteSize⟩ :=
  String.Pos.Raw.isValid_iff_exists_append.mpr ⟨start, rest, rfl, rfl⟩

/-- Of two starts of a text the one with fewer octets is a start of the other. -/
theorem exists_append_of_le {start rest other others : String}
    (same : other ++ others = start ++ rest) (le : other.utf8ByteSize ≤ start.utf8ByteSize) :
    ∃ more, start = other ++ more := by
  have chars : other.toList ++ others.toList = start.toList ++ rest.toList := by
    rw [← String.toList_append, same, String.toList_append]
  rcases List.append_eq_append_iff.mp chars with ⟨more, eq, -⟩ | ⟨more, eq, -⟩
  · exact ⟨.ofList more, String.toList_inj.mp (by simp [eq])⟩
  -- The other one goes on behind the start, but without an octet.
  · have longer : other = start ++ .ofList more := String.toList_inj.mp (by simp [eq])
    have empty : String.ofList more = "" := by
      rw [longer, String.utf8ByteSize_append] at le
      exact String.utf8ByteSize_eq_zero_iff.mp (by omega)
    exact ⟨"", by rw [longer, empty, String.append_empty, String.append_empty]⟩

theorem slice?_start (start rest : String) :
    Placeholder.Cursor.slice? (start ++ rest) 0 start.utf8ByteSize = some start := by
  have cut := Placeholder.Cursor.slice?_encoded [] start.toList rest.toList
  rw [List.nil_append, Placeholder.length_encoded start.toList, String.ofList_append,
    String.ofList_toList, String.ofList_toList] at cut
  exact cut

/-! ## What is kept -/

/-- The longest start of a text in at most `limit` octets. It is a text, and so ends at a
character boundary. -/
structure LongestStart (limit : Nat) (text start : String) : Prop where
  starts : ∃ rest, text = start ++ rest
  fits : start.utf8ByteSize ≤ limit
  /-- Every start that fits is a start of it. -/
  longest : ∀ other rest, text = other ++ rest → other.utf8ByteSize ≤ limit →
    ∃ more, start = other ++ more

/-- Where the text goes on, the next character does not fit, and has four octets at most. -/
theorem LongestStart.limit_le {limit : Nat} {text start : String}
    (h : LongestStart limit text start) (ne : start ≠ text) : limit ≤ start.utf8ByteSize + 3 := by
  obtain ⟨rest, rfl⟩ := h.starts
  cases chars : rest.toList with
  | nil =>
    have empty : rest = "" := String.toList_eq_nil_iff.mp chars
    exact absurd (by rw [empty, String.append_empty]) ne
  | cons c others =>
    have whole : start ++ rest = start ++ .singleton c ++ .ofList others :=
      String.toList_inj.mp (by simp [chars])
    have next : (start ++ .singleton c).utf8ByteSize = start.utf8ByteSize + c.utf8Size := by
      rw [String.utf8ByteSize_append, String.utf8ByteSize_singleton]
    have tooLong : ¬(start ++ .singleton c).utf8ByteSize ≤ limit := by
      intro fits
      obtain ⟨more, longer⟩ := h.longest _ _ whole fits
      have size := congrArg String.utf8ByteSize longer
      rw [String.utf8ByteSize_append, next] at size
      have pos := c.utf8Size_pos
      omega
    have four := c.utf8Size_le_four
    omega

/-- What stands before the boundary that the search comes to. -/
theorem longestStart_boundaryBefore {limit : Nat} {start rest : String}
    (stop : boundaryBefore (start ++ rest) limit = start.utf8ByteSize) :
    LongestStart limit (start ++ rest) start where
  starts := ⟨rest, rfl⟩
  fits := stop ▸ boundaryBefore_le _ limit
  longest other others whole fits := by
    -- Every other start ends at a boundary too, and the search passed over none.
    have boundary : String.Pos.Raw.IsValid (start ++ rest) ⟨other.utf8ByteSize⟩ :=
      whole ▸ isValid_start other others
    exact exists_append_of_le whole.symm (stop ▸ le_boundaryBefore fits boundary)

theorem longestStart_cut (limit : Nat) (text : String) :
    LongestStart limit text (cut limit text) := by
  have found := cut?_eq limit text
  rw [cut?] at found
  split at found
  · next fits =>
    rw [← Option.some.inj found]
    exact ⟨⟨"", by rw [String.append_empty]⟩, fits, fun other rest whole _ => ⟨rest, whole⟩⟩
  · obtain ⟨start, rest, rfl, here⟩ :=
      String.Pos.Raw.isValid_iff_exists_append.mp (isValid_boundaryBefore text limit)
    have stop : boundaryBefore (start ++ rest) limit = start.utf8ByteSize :=
      congrArg String.Pos.Raw.byteIdx here
    rw [stop, slice?_start] at found
    rw [← Option.some.inj found]
    exact longestStart_boundaryBefore stop

theorem cut_eq_self_iff {limit : Nat} {text : String} :
    cut limit text = text ↔ text.utf8ByteSize ≤ limit := by
  constructor
  · intro same
    have fits := (longestStart_cut limit text).fits
    rwa [same] at fits
  · intro fits
    have found := cut?_eq limit text
    rw [cut?, if_pos fits] at found
    exact (Option.some.inj found).symm

end Text

/-- **The log keeps as much of a statement as it may, and no part of a character.** To
every limit a statement is cut without fail: what is kept is its longest start in at most so
many octets, all of it just if it fits, and else at most three octets less than the limit.
That is what the log shows, with a mark behind it just if something was cut off; without a
limit it shows the statement. -/
theorem log_keeps_longest_start (sql : String) :
    (∀ limit, ∃ kept, Text.cut? limit sql = some kept ∧ Text.LongestStart limit sql kept ∧
      (kept = sql ↔ sql.utf8ByteSize ≤ limit) ∧
      (kept ≠ sql → limit ≤ kept.utf8ByteSize + 3) ∧
      ∀ config : Config, config.maxSqlLength = some limit →
        config.shownSql sql = if kept = sql then sql else kept ++ "...") ∧
    ∀ config : Config, config.maxSqlLength = none → config.shownSql sql = sql := by
  refine ⟨fun limit => ?_, fun config unlimited => by rw [Config.shownSql, unlimited]⟩
  have longest := Text.longestStart_cut limit sql
  refine ⟨Text.cut limit sql, Text.cut?_eq limit sql, longest, Text.cut_eq_self_iff,
    longest.limit_le, fun config limited => ?_⟩
  simp only [Config.shownSql, limited, Text.cut_eq_self_iff]

/-- The limit falls inside the second character. -/
theorem log_keeps_longest_start_inCharacter :
    Text.cut? 2 "héllo" = some "h" ∧ Text.LongestStart 2 "héllo" "h" ∧
      ({ maxSqlLength := some 2 } : Config).shownSql "héllo" = "h..." := by
  have found : Text.cut? 2 "héllo" = some "h" := by decide +kernel
  obtain ⟨kept, same, longest, -, -, shown⟩ := (log_keeps_longest_start "héllo").1 2
  obtain rfl : kept = "h" := Option.some.inj (same.symm.trans found)
  exact ⟨found, longest, (shown _ rfl).trans (by decide)⟩

end SqlBind
