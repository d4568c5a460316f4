/-
Names that are spliced into a statement between quotes: that of a sequence, which
has passed the check, and that of a cursor, which a procedure has answered and which
may be any text. Every quote in the name is written twice, so the name is read as one
quoted text with plain text around it, and the statement has no bind
(`Placeholder.QuotedIn`). Such a statement is all that a call has prepared besides
its own (`Server.call_congr`).
-/
import SqlBind.Ordering
import SqlBind.Proofs.Placeholder.Cursor
import SqlBind.Proofs.Placeholder.Splitting
import SqlBind.Proofs.Postgres.Outputs

namespace SqlBind

/-! ## Quoted texts in plain text -/

theorem Text.toList_doubled (quote : Char) (s : String) :
    (doubled quote s).toList = twice (· = quote) s.toList := by
  simp [doubled, twice]

namespace Placeholder

/-- The tokens of a text in which every character is one. -/
def Token.plain (text : String) : List Token := text.toList.map .other

/-- A statement is plain text with one quoted text in it, and has no bind. -/
structure QuotedIn (sql before : String) (quote : Char) (content after : String) : Prop where
  reads : ReadsAs sql (Token.plain before ++ .quoted quote content.toList :: Token.plain after)
  /-- From the opening quote the cursor moves behind the quote that closes the text. -/
  passed : Cursor.next (Cursor.octets sql) (encoded before.toList).length quote.toUInt8 =
    (encoded (before.toList ++ (Token.quoted quote content.toList).chars)).length
  noBind : count sql = 0

/-- Characters outside quotes that start nothing and are no binds. -/
def Idle (text : String) : Prop := ∀ c ∈ text.toList, c ∉ ['\'', '"', '-', '/', '?']

instance (text : String) : Decidable (Idle text) := List.decidableBAll _ _

theorem Idle.countP_plain {text : String} (h : Idle text) :
    (Token.plain text).countP Token.isBind = 0 := by
  refine List.countP_eq_zero.mpr fun t mem => ?_
  obtain ⟨c, hc, rfl⟩ := List.mem_map.mp mem
  have noBind := h c hc
  simp only [List.mem_cons, not_or] at noBind
  simpa [Token.isBind] using noBind.2.2.2.2.1

theorem Idle.others {text : String} (h : Idle text) {rest : List Char} {tokens : List Token}
    (split : Splits rest tokens) : Splits (text.toList ++ rest) (Token.plain text ++ tokens) := by
  refine .others (fun c mem => ?_) split
  have alone := h c mem
  simp only [List.mem_cons, List.not_mem_nil, or_false, not_or] at alone ⊢
  exact ⟨alone.1, alone.2.1, alone.2.2.1, alone.2.2.2.1⟩

/-- **A text between quotes stays there**, whatever it holds, if its quotes are doubled. -/
theorem quotedIn_doubled {sql before after content : String} {quote : Char}
    (mem : quote ∈ ['\'', '"']) (hb : Idle before) (ha : Idle after)
    (eq : sql.toList =
      before.toList ++ quote :: ((Text.doubled quote content).toList ++ quote :: after.toList)) :
    QuotedIn sql before quote content after := by
  have apart : after.toList.head? ≠ some quote := by
    intro head
    refine ha quote (List.mem_of_mem_head? head) ?_
    simp only [List.mem_cons, List.not_mem_nil, or_false] at mem ⊢
    rcases mem with single | double
    · exact .inl single
    · exact .inr (.inl double)
  have rest : Splits after.toList (Token.plain after) := by
    have split := ha.others .nil
    rwa [List.append_nil, List.append_nil] at split
  have stands : (Token.quoted quote content.toList).Stands after.toList := ⟨mem, apart⟩
  have whole : sql.toList =
      before.toList ++ ((Token.quoted quote content.toList).chars ++ after.toList) := by
    rw [eq, Token.chars, ← Text.toList_doubled, List.cons_append, List.append_assoc]
    rfl
  have split : Splits sql.toList
      (Token.plain before ++ .quoted quote content.toList :: Token.plain after) := by
    rw [whole]
    exact hb.others (.cons stands rest)
  refine ⟨split.readsAs, ?_, ?_⟩
  · have there : (Cursor.octets sql).drop (encoded before.toList).length =
        encoded ((Token.quoted quote content.toList).chars ++ after.toList) := by
      rw [← String.ofList_toList (s := sql), octets_ofList, whole, encoded_append, List.drop_left]
    rw [Cursor.next_quoted stands there, encoded_append, List.length_append]
  · rw [split.count_eq, List.countP_append, hb.countP_plain,
      List.countP_cons_of_neg (by simp [Token.isBind]), ha.countP_plain]

theorem QuotedIn.toList_eq {sql before after content : String} {quote : Char}
    (h : QuotedIn sql before quote content after) :
    sql.toList = before.toList ++ ((Token.quoted quote content.toList).chars ++ after.toList) := by
  have split := (h.reads _).mpr rfl
  have plain (text : String) : (Token.plain text).flatMap Token.chars = text.toList := by
    rw [Token.plain, List.flatMap_map]
    exact List.flatMap_singleton' _
  rw [← split.flatMap_chars, List.flatMap_append, List.flatMap_cons, plain, plain]

end Placeholder

open Placeholder

theorem nextIdSql_postgres {sequence : String} (h : Identifier.check sequence = .ok ()) :
    nextIdSql .postgres sequence =
      .ok ("SELECT nextval('" ++ Text.doubled '\'' sequence ++ "') n") := by
  rw [nextIdSql, h]
  rfl

theorem quotedIn_nextId (sequence : String) :
    QuotedIn ("SELECT nextval('" ++ Text.doubled '\'' sequence ++ "') n") "SELECT nextval(" '\''
      sequence ") n" := by
  refine quotedIn_doubled (by simp) (by decide) (by decide) ?_
  have opening : "SELECT nextval('".toList = "SELECT nextval(".toList ++ ['\''] := by decide
  have closing : "') n".toList = '\'' :: ") n".toList := by decide
  rw [String.toList_append, String.toList_append, opening, closing, List.append_assoc,
    List.append_assoc, List.singleton_append]

namespace Postgres

theorem quotedIn_fetchAll (cursor : String) :
    QuotedIn (fetchAll cursor).sql "FETCH ALL FROM " '"' cursor "" := by
  refine quotedIn_doubled (by simp) (by decide) (by decide) ?_
  have opening : "FETCH ALL FROM \"".toList = "FETCH ALL FROM ".toList ++ ['"'] := by decide
  have closing : "\"".toList = '"' :: "".toList := by decide
  rw [fetchAll, Statement.bare, String.toList_append, String.toList_append, opening, closing,
    List.append_assoc, List.append_assoc, List.singleton_append]

/-- A statement without binds passes the check without arguments. -/
theorem checkArgs_bare {sql : String} (h : count sql = 0) : checkArgs (.bare sql) = .ok () := by
  rw [checkArgs, if_neg]
  · rfl
  · rw [Statement.placeholderCount, Statement.bare, h]
    simp

/-! ## What a call has prepared -/

namespace Server

variable {m : Type → Type} [Monad m] {server other : Server m}

/-- Two servers that prepare a statement alike run it alike. -/
theorem query_congr {s : Statement}
    (agree : server.prepare (render s.sql) (s.args.map parameterType) =
      other.prepare (render s.sql) (s.args.map parameterType)) :
    server.query s = other.query s := by
  rw [query, query, executed, executed, prepared, prepared, agree]

theorem sortOutputs_congr
    (agree : ∀ cursor, server.query (fetchAll cursor) = other.query (fetchAll cursor))
    (outcome : CallOutcome) (entries : List Judged) :
    server.sortOutputs outcome entries = other.sortOutputs outcome entries := by
  induction entries generalizing outcome with
  | nil => rw [sortOutputs, sortOutputs]
  | cons entry rest ih =>
    cases judged : cursorOf? entry with
    | none =>
      rw [sortOutputs_output server outcome judged, sortOutputs_output other outcome judged]
      exact ih _
    | some found =>
      rw [sortOutputs_cursor server outcome judged, sortOutputs_cursor other outcome judged, agree]
      exact bind_congr fun rows => ih _

/-- **A call has nothing prepared but its own statement and, without parameters, what
fetches from a cursor**: servers that agree on these answer it alike. -/
theorem call_congr {s : Statement}
    (own : ∀ types, server.prepare (render s.sql) types = other.prepare (render s.sql) types)
    (fetch : ∀ sql cursor, QuotedIn sql "FETCH ALL FROM " '"' cursor "" →
      server.prepare sql [] = other.prepare sql []) :
    server.call s = other.call s := by
  have fetched (cursor : String) :
      server.query (fetchAll cursor) = other.query (fetchAll cursor) := by
    have quoted := quotedIn_fetchAll cursor
    refine query_congr ?_
    rw [render_eq_self quoted.noBind]
    exact fetch _ cursor quoted
  rw [call, call, query_congr (own _)]
  refine bind_congr fun result => ?_
  split
  · rfl
  · exact sortOutputs_congr fetched .empty _

end Server

/-- **Names that are spliced between quotes cannot leave them.** The SQL that asks a
sequence for its next value, whose name has passed the check, is plain text with the
name as one quoted text in it; that which fetches from a cursor, whatever it is called,
is plain text and the name as one quoted text to the end. Neither has a bind, so both
pass the check without arguments. It is what a call asks for each cursor that the server
answered, in the order of the columns, and besides its own it has no other statement
prepared, whatever cursors the server answers. -/
theorem quoted_splices_stay_quoted :
    (∀ sequence, Identifier.check sequence = .ok () →
      ∃ sql, nextIdSql .postgres sequence = .ok sql ∧
        QuotedIn sql "SELECT nextval(" '\'' sequence ") n" ∧ checkArgs (.bare sql) = .ok ()) ∧
    (∀ cursor, QuotedIn (fetchAll cursor).sql "FETCH ALL FROM " '"' cursor "" ∧
      checkArgs (fetchAll cursor) = .ok ()) ∧
    (∀ {m : Type → Type} [Monad m] [LawfulMonad m] (server : Server m) (s : Statement),
      server.call s = server.query s >>= fun result =>
        match result.rows with
        | [] => pure .empty
        | row :: _ => do
          let entries := result.columns.zip row.toList
          let cursors := entries.filterMap cursorOf?
          let sets ← cursors.mapM fun cursor => server.query (fetchAll cursor.2)
          return ⟨.ofList (entries.filterMap outputOf?),
            .ofList ((cursors.map Prod.fst).zip sets)⟩) ∧
    ∀ {m : Type → Type} [Monad m] (server other : Server m) (s : Statement),
      (∀ types, server.prepare (render s.sql) types = other.prepare (render s.sql) types) →
      (∀ sql cursor, QuotedIn sql "FETCH ALL FROM " '"' cursor "" →
        server.prepare sql [] = other.prepare sql []) →
      server.call s = other.call s := by
  refine ⟨fun sequence checked => ?_, fun cursor => ?_, fun server s => server.call_eq_report s,
    fun server other s => Server.call_congr⟩
  · have quoted := quotedIn_nextId sequence
    exact ⟨_, nextIdSql_postgres checked, quoted, checkArgs_bare quoted.noBind⟩
  · have quoted := quotedIn_fetchAll cursor
    exact ⟨quoted, checkArgs_bare quoted.noBind⟩

/-- A server that refuses one statement. -/
def Server.refusing {m : Type → Type} [Monad m] (server : Server m) (sql : String) : Server m :=
  { server with
    prepare := fun asked types =>
      if asked = sql then return .error ⟨"42501", "refused", none⟩ else server.prepare asked types }

theorem Server.prepare_refusing {m : Type → Type} [Monad m] (server : Server m) {sql asked : String}
    (h : asked ≠ sql) (types : List PgType) :
    (server.refusing sql).prepare asked types = server.prepare asked types := if_neg h

/-- A server whose procedure answers a cursor that is called `";DROP TABLE t--`. -/
def hostileServer : Server (StateM (List String)) :=
  procedureServer [⟨"c", .scalar .refcursor⟩] [some "\";DROP TABLE t--".toUTF8.toList]

/-- A sequence whose name has quotes of both kinds, and a cursor whose name would end its
quotes and drop a table: it is fetched by that name, and the server that refuses to drop the
table answers the call all the same. -/
theorem quoted_splices_stay_quoted_hostile :
    (∃ sql, nextIdSql .postgres "\"order'?seq\"" = .ok sql ∧
      QuotedIn sql "SELECT nextval(" '\'' "\"order'?seq\"" ") n" ∧ checkArgs (.bare sql) = .ok ()) ∧
    QuotedIn (fetchAll "\";DROP TABLE t--").sql "FETCH ALL FROM " '"' "\";DROP TABLE t--" "" ∧
    (hostileServer.call (.bare "CALL p()") []).2 =
      ["CALL p()", "FETCH ALL FROM \"\"\";DROP TABLE t--\""] ∧
    hostileServer.call (.bare "CALL p()") =
      (hostileServer.refusing "DROP TABLE t--").call (.bare "CALL p()") := by
  obtain ⟨sequences, cursors, -, calls⟩ := quoted_splices_stay_quoted
  refine ⟨sequences _ rfl, (cursors _).1, by decide +kernel, calls _ _ _ (fun types => ?_)
    fun sql cursor quoted => ?_⟩
  · exact (Server.prepare_refusing _ (by decide) types).symm
  · refine (Server.prepare_refusing _ ?_ []).symm
    rintro rfl
    have first : some 'D' = some 'F' := congrArg List.head? quoted.toList_eq
    cases first

end Postgres
end SqlBind
