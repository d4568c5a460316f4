/-
Paging puts a statement between two texts of its own. The binds of the statement
are read as before, and those of the page after them, just if the reader is
outside quotes and comments where the statement ends (`paged_aligned`). A statement
that ends in a comment to the end of its line takes the text after it into the
comment: the two arguments of the page then stand for no bind, and the check of the
statement before it is prepared refuses what paging made of it.
-/
import SqlBind.Postgres.Session
import SqlBind.Proofs.Effect
import SqlBind.Proofs.Placeholder.Reading

namespace SqlBind.Postgres

open Placeholder

variable {page : Page} {s : Statement}

/-- The arguments of a page, in the order of their binds. -/
def pageArgs (page : Page) : List Arg :=
  [.ofType .long (.int page.limit.toInt64), .ofType .long (.int page.start.toInt64)]

theorem paged_args : (paged page s).args = s.args ++ pageArgs page := rfl

theorem paged_toList : (paged page s).sql.toList =
    "SELECT * FROM (".toList ++ (s.sql.toList ++ ") _page LIMIT ? OFFSET ?".toList) := by
  have sql : (paged page s).sql = "SELECT * FROM (" ++ s.sql ++ ") _page LIMIT ? OFFSET ?" := rfl
  rw [sql, String.toList_append, String.toList_append, List.append_assoc]

/-! ## Where the binds of a page stand -/

theorem inert_opening : Inert "SELECT * FROM (" := by decide

/-- Read outside quotes and comments the text has its two binds, elsewhere none: no
character of it closes a quoted text or a comment. -/
theorem bindsFrom_closing (m : Mode) (n : Nat) :
    bindsFrom m n ") _page LIMIT ? OFFSET ?".toList =
      if m.isOutside then [n + 14, n + 23] else [] := by
  have fromStart : bindsFrom m 0 ") _page LIMIT ? OFFSET ?".toList =
      if m.isOutside then [14, 23] else [] := by
    cases m <;> decide
  rw [bindsFrom_eq_map, fromStart]
  split <;> rfl

/-- The binds of a paged statement are its own, moved by the text before it, and
those of the page, if they are read as binds. -/
theorem offsets_paged : offsets (paged page s).sql =
    (offsets s.sql).map (15 + ·) ++
      if (Mode.plain.after s.sql.toList).isOutside then
        [s.sql.length + 29, s.sql.length + 38]
      else [] := by
  obtain ⟨opened, silent⟩ := inert_opening .plain rfl
  rw [offsets_eq, paged_toList, bindsFrom_append, silent, opened, List.nil_append,
    bindsFrom_append, bindsFrom_eq_map, bindsFrom_closing, ← offsets_eq]
  congr 1
  have own : 0 + "SELECT * FROM (".toList.length = 15 := rfl
  have length : s.sql.toList.length = s.sql.length := String.length_toList
  have limit : 15 + s.sql.length + 14 = s.sql.length + 29 := by omega
  have offset : 15 + s.sql.length + 23 = s.sql.length + 38 := by omega
  rw [own, length, limit, offset]

theorem placeholderCount_paged : (paged page s).placeholderCount =
    s.placeholderCount + if (Mode.plain.after s.sql.toList).isOutside then 2 else 0 := by
  rw [Statement.placeholderCount, ← length_offsets, offsets_paged, List.length_append,
    List.length_map, length_offsets]
  split <;> rfl

/-! ## What the check says -/

/-- The arguments of a page are no literals. -/
theorem findSome_literal_paged :
    (paged page s).args.findSome? Arg.literal? = s.args.findSome? Arg.literal? := by
  rw [paged_args, List.findSome?_append]
  exact Option.or_none

theorem checkArgs_misaligned (h : s.placeholderCount ≠ s.args.length) :
    checkArgs s = .error (.validation (.misaligned s.placeholderCount s.args.length)) := if_pos h

/-- Paging keeps a statement aligned. -/
structure PagedInOrder (page : Page) (s : Statement) : Prop where
  /-- There is a bind for each argument, … -/
  aligned : (paged page s).placeholderCount = (paged page s).args.length
  /-- … two more than before. -/
  count : (paged page s).placeholderCount = s.placeholderCount + 2
  /-- The binds before keep their arguments, and after them come that of `LIMIT` and that
  of `OFFSET`, each at the end of the text before it. -/
  binds : (offsets (paged page s).sql).zip (paged page s).args =
    ((offsets s.sql).map ("SELECT * FROM (".length + ·)).zip s.args ++
      [(("SELECT * FROM (" ++ s.sql ++ ") _page LIMIT ").length,
          .ofType .long (.int page.limit.toInt64)),
        (("SELECT * FROM (" ++ s.sql ++ ") _page LIMIT ? OFFSET ").length,
          .ofType .long (.int page.start.toInt64))]
  /-- The check of a statement before it is prepared says what it said before. -/
  checked : checkArgs (paged page s) = checkArgs s

theorem pagedInOrder (aligned : s.placeholderCount = s.args.length)
    (outside : (Mode.plain.after s.sql.toList).isOutside = true) : PagedInOrder page s := by
  have count : (paged page s).placeholderCount = s.placeholderCount + 2 := by
    rw [placeholderCount_paged, if_pos outside]
  have length : (paged page s).args.length = s.args.length + 2 := by
    rw [paged_args, List.length_append]
    rfl
  have still : (paged page s).placeholderCount = (paged page s).args.length := by omega
  refine ⟨still, count, ?_, ?_⟩
  · have places : ((offsets s.sql).map (15 + ·)).length = s.args.length := by
      rw [List.length_map, length_offsets]
      exact aligned
    rw [offsets_paged, if_pos outside, paged_args, List.zip_append places]
    have limit : ("SELECT * FROM (" ++ s.sql ++ ") _page LIMIT ").length = s.sql.length + 29 := by
      rw [String.length_append, String.length_append, show "SELECT * FROM (".length = 15 from rfl,
        show ") _page LIMIT ".length = 14 from rfl]
      omega
    have offset :
        ("SELECT * FROM (" ++ s.sql ++ ") _page LIMIT ? OFFSET ").length = s.sql.length + 38 := by
      rw [String.length_append, String.length_append, show "SELECT * FROM (".length = 15 from rfl,
        show ") _page LIMIT ? OFFSET ".length = 23 from rfl]
      omega
    rw [limit, offset]
    rfl
  · rw [checkArgs, checkArgs, if_neg (not_not_intro still), if_neg (not_not_intro aligned),
      findSome_literal_paged]

theorem checkArgs_paged_inside (page : Page) (aligned : s.placeholderCount = s.args.length)
    (inside : (Mode.plain.after s.sql.toList).isOutside = false) :
    checkArgs (paged page s) =
      .error (.validation (.misaligned s.args.length (s.args.length + 2))) := by
  have count : (paged page s).placeholderCount = s.args.length := by
    rw [placeholderCount_paged, inside, ← aligned]
    rfl
  have length : (paged page s).args.length = s.args.length + 2 := by
    rw [paged_args, List.length_append]
    rfl
  rw [checkArgs_misaligned (by omega), count, length]

/-- What is refused by the check is not handed to a server. -/
theorem Server.query_refused {m : Type → Type} [Monad m] [LawfulMonad m] (server : Server m)
    {e : DbError} (refused : checkArgs s = .error e) : server.query s = throw e := by
  have prepared : server.prepared s = throw e := by
    rw [Server.prepared, refused]
    exact ExceptT.bind_error e _
  have executed : server.executed s = throw e := by
    rw [Server.executed, prepared]
    exact ExceptT.bind_error e _
  rw [Server.query, executed]
  exact ExceptT.bind_error e _

/-- **A page of an aligned statement is aligned just if the statement ends outside
quotes and comments.** Then it has the binds and arguments of the statement and after
them those of the page, and the check says of it what it says of the statement. A
statement that ends inside, be it in a comment to the end of the line, is refused by
the check when it is paged, before any server sees it. -/
theorem paged_aligned (page : Page) {s : Statement}
    (aligned : s.placeholderCount = s.args.length) :
    (PagedInOrder page s ↔ (Mode.plain.after s.sql.toList).isOutside = true) ∧
      ((Mode.plain.after s.sql.toList).isOutside = false →
        ∀ (m : Type → Type) [Monad m] [LawfulMonad m] (server : Server m),
          server.query (paged page s) =
            throw (.validation (.misaligned s.args.length (s.args.length + 2)))) := by
  have refused := checkArgs_paged_inside page aligned
  refine ⟨⟨fun order => ?_, pagedInOrder aligned⟩, fun inside m _ _ server =>
    server.query_refused (refused inside)⟩
  rcases Bool.eq_false_or_eq_true (Mode.plain.after s.sql.toList).isOutside with outside | inside
  · exact outside
  · have misaligned := refused inside
    rw [checkArgs, if_neg (not_not_intro order.aligned)] at misaligned
    split at misaligned <;> cases misaligned

/-- The page of a statement with binds, one of them in front of an operator. -/
theorem paged_aligned_query : PagedInOrder ⟨20, 10⟩
    ⟨"SELECT a FROM t WHERE b = ? AND c > ? - 1", [.raw (.int 1), .raw (.int 2)]⟩ :=
  (paged_aligned ⟨20, 10⟩ (by decide)).1.mpr (by decide)

/-- A comment at the end of a statement takes the binds of a page with it. -/
theorem paged_comment_misaligned :
    let s : Statement := ⟨"SELECT 1 -- all", []⟩
    s.placeholderCount = s.args.length ∧ Mode.plain.after s.sql.toList = .line ∧
      (paged ⟨0, 10⟩ s).placeholderCount = 0 ∧ (paged ⟨0, 10⟩ s).args.length = 2 ∧
      checkArgs (paged ⟨0, 10⟩ s) = .error (.validation (.misaligned 0 2)) := by
  refine ⟨by decide, by decide, ?_, by rfl, ?_⟩
  · rw [placeholderCount_paged]
    decide
  · exact checkArgs_paged_inside _ (by decide) (by decide)

end SqlBind.Postgres
