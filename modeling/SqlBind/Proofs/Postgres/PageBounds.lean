/-
The bounds of a page on their way to the server. A bound is a word without a sign and
is bound as one with a sign, of the same bits: below `2 ^ 63` the number stays, from
there on it becomes the negative number `2 ^ 64` less (`signedBound`). Nothing refuses
it on the way: the check of the paged statement does not look at the bounds, and as an
`INT8` every word with a sign can be written. So a page reaches the server as it is
just if both bounds are below `2 ^ 63` (`page_bounds_exact_iff`).
-/
import SqlBind.Proofs.Coercion.Integer
import SqlBind.Proofs.Postgres.Paging
import SqlBind.Proofs.Postgres.Scalar

namespace SqlBind

/-- The number that the bits of a word denote if the highest of them is its sign. -/
def signedBound (n : UInt64) : Int := if n.toNat < 2 ^ 63 then n.toNat else n.toNat - 2 ^ 64

theorem toInt_toInt64 (n : UInt64) : n.toInt64.toInt = signedBound n := by
  rw [← Int64.toInt_toBitVec, UInt64.toBitVec_toInt64, BitVec.toInt_eq_toNat_cond,
    UInt64.toNat_toBitVec, signedBound]
  split <;> split <;> omega

theorem signedBound_eq_iff {n : UInt64} : signedBound n = n.toNat ↔ n.toNat < 2 ^ 63 := by
  unfold signedBound
  split
  · rename_i below
    exact ⟨fun _ => below, fun _ => rfl⟩
  · omega

theorem signedBound_of_le {n : UInt64} (h : 2 ^ 63 ≤ n.toNat) :
    signedBound n = n.toNat - 2 ^ 64 ∧ signedBound n < 0 := by
  have bound := n.toNat_lt
  rw [signedBound, if_neg (by omega)]
  omega

namespace Postgres

/-! ## What is sent for a bound -/

/-- The octets of a number as an `INT8`. -/
def int8Octets (n : Int) : List UInt8 := BigEndian.encodeInt 8 n

/-- An argument carries a number and sends it: it is a `LONG`, its parameter is declared
as an `INT8`, and the octets that are written for it are read as that number. -/
structure SendsNumber (arg : Arg) (n : Int) : Prop where
  carries : ∃ w : Int64, arg = .ofType .long (.int w) ∧ w.toInt = n
  declared : parameterType arg = .scalar .int8
  written : encodeArg (.scalar .int8) arg = .ok (some (int8Octets n))
  read : ∃ w : Int64, decode? (.scalar .int8) (int8Octets n) = some (.int w) ∧ w.toInt = n

theorem sendsNumber (w : Int64) : SendsNumber (.ofType .long (.int w)) w.toInt := by
  have inRange : -2 ^ 63 ≤ w.toInt ∧ w.toInt ≤ 2 ^ 63 - 1 := by
    have low := w.le_toInt
    have high := w.toInt_lt
    omega
  have written := encodeArg_int8 (v := .int w) (n := w) rfl (.ofType .long (.int w)) (by simp)
  have least : -(256 ^ 8 : Nat) ≤ 2 * (-2 ^ 63 : Int) := by omega
  have read := (bounded_readsBack inRange least (by omega)).2
  exact ⟨⟨w, rfl, rfl⟩, rfl, written, ⟨w, read, rfl⟩⟩

theorem SendsNumber.unique {arg : Arg} {n m : Int} (h : SendsNumber arg n)
    (h' : SendsNumber arg m) : n = m := by
  obtain ⟨w, rfl, rfl⟩ := h.carries
  obtain ⟨w', same, rfl⟩ := h'.carries
  cases same
  rfl

/-! ## What is sent for a page -/

theorem writeArgs_append {types types' : List PgType} {args args' : List Arg} {cells cells' : List Cell}
    {index : Nat} (length : types.length = args.length)
    (first : writeArgs index types args = .ok cells)
    (later : writeArgs (index + args.length) types' args' = .ok cells') :
    writeArgs index (types ++ types') (args ++ args') = .ok (cells ++ cells') := by
  induction args generalizing types cells index with
  | nil =>
    obtain rfl : types = [] := List.length_eq_zero_iff.mp length
    cases first
    exact later
  | cons arg args ih =>
    obtain ⟨type, types, rfl⟩ : ∃ type rest, types = type :: rest :=
      List.exists_cons_of_length_eq_add_one length
    rw [List.cons_append, List.cons_append, writeArgs]
    rw [writeArgs] at first
    cases written : encodeArg type arg with
    | error e =>
      rw [written] at first
      cases first
    | ok cell =>
      rw [written] at first
      cases rest : writeArgs (index + 1) types args with
      | error e =>
        rw [rest] at first
        cases first
      | ok others =>
        rw [rest] at first
        cases first
        have shifted : index + (arg :: args).length = index + 1 + args.length := by
          rw [List.length_cons]
          omega
        rw [shifted] at later
        rw [ih (by simpa using length) rest later]
        rfl

/-- The page that a server is asked for. -/
structure SendsPage (page : Page) (s : Statement) (limit start : Int) : Prop where
  /-- The last two arguments of the paged statement send the bounds, … -/
  last : ∃ a b, (paged page s).args = s.args ++ [a, b] ∧ SendsNumber a limit ∧ SendsNumber b start
  /-- … as parameters that are declared behind those of the statement, … -/
  declared : (paged page s).args.map parameterType =
    s.args.map parameterType ++ [.scalar .int8, .scalar .int8]
  /-- … and behind the cells of the statement's arguments. -/
  bound : ∀ {types cells}, bindArgs types s.args = .ok cells →
    bindArgs (types ++ [.scalar .int8, .scalar .int8]) (paged page s).args =
      .ok (cells ++ [some (int8Octets limit), some (int8Octets start)])

theorem sendsPage (page : Page) (s : Statement) :
    SendsPage page s (signedBound page.limit) (signedBound page.start) := by
  have limit := sendsNumber page.limit.toInt64
  have start := sendsNumber page.start.toInt64
  rw [toInt_toInt64] at limit start
  refine ⟨⟨_, _, rfl, limit, start⟩, ?_, fun {types cells} own => ?_⟩
  · rw [paged_args, List.map_append]
    rfl
  · unfold bindArgs at own ⊢
    split at own
    · rename_i length
      have pair : writeArgs (0 + s.args.length) [.scalar .int8, .scalar .int8] (pageArgs page) =
          .ok [some (int8Octets (signedBound page.limit)),
            some (int8Octets (signedBound page.start))] := by
        rw [pageArgs, writeArgs, limit.written, writeArgs, start.written]
        rfl
      rw [if_pos (by simp [paged_args, pageArgs, length]), paged_args]
      exact writeArgs_append length own pair
    · cases own

theorem SendsPage.unique {page : Page} {s : Statement} {limit start limit' start' : Int}
    (h : SendsPage page s limit start) (h' : SendsPage page s limit' start') :
    limit = limit' ∧ start = start' := by
  obtain ⟨a, b, args, ofLimit, ofStart⟩ := h.last
  obtain ⟨a', b', args', ofLimit', ofStart'⟩ := h'.last
  have same := List.append_cancel_left (args.symm.trans args')
  cases same
  exact ⟨ofLimit.unique ofLimit', ofStart.unique ofStart'⟩

theorem sendsPage_iff {page : Page} {s : Statement} {limit start : Int} :
    SendsPage page s limit start ↔
      limit = signedBound page.limit ∧ start = signedBound page.start := by
  constructor
  · exact fun sent => sent.unique (sendsPage page s)
  · rintro ⟨rfl, rfl⟩
    exact sendsPage page s

/-- The check of a paged statement does not look at the bounds. -/
theorem checkArgs_paged_congr (page other : Page) (s : Statement) :
    checkArgs (paged page s) = checkArgs (paged other s) := by
  have count : (paged page s).placeholderCount = (paged other s).placeholderCount := by
    rw [placeholderCount_paged, placeholderCount_paged]
  have length : (paged page s).args.length = (paged other s).args.length := by
    rw [paged_args, paged_args, List.length_append, List.length_append]
    rfl
  rw [checkArgs, checkArgs, count, length, findSome_literal_paged, findSome_literal_paged]

/-- **A page reaches the server as it is just if both of its bounds are below `2 ^ 63`.**
What is sent behind the arguments of the statement are two `INT8`: the limit and the
start, or in the place of one from `2 ^ 63` on the negative number `2 ^ 64` less. No page
is refused for its bounds: what the check says of one page of a statement it says of
every other. -/
theorem page_bounds_exact_iff (page : Page) (s : Statement) :
    (SendsPage page s page.limit.toNat page.start.toNat ↔
      page.limit.toNat < 2 ^ 63 ∧ page.start.toNat < 2 ^ 63) ∧
    (∀ limit start, SendsPage page s limit start ↔
      limit = signedBound page.limit ∧ start = signedBound page.start) ∧
    (∀ n : UInt64, (signedBound n = n.toNat ↔ n.toNat < 2 ^ 63) ∧
      (2 ^ 63 ≤ n.toNat → signedBound n = n.toNat - 2 ^ 64 ∧ signedBound n < 0)) ∧
    ∀ other, checkArgs (paged other s) = checkArgs (paged page s) := by
  refine ⟨?_, fun _ _ => sendsPage_iff, fun n => ⟨signedBound_eq_iff, signedBound_of_le⟩,
    fun other => checkArgs_paged_congr other page s⟩
  rw [sendsPage_iff, ← signedBound_eq_iff, ← signedBound_eq_iff, eq_comm,
    eq_comm (a := (page.start.toNat : Int))]

/-- The greatest limit is not refused, and is sent as the limit minus one. -/
theorem greatest_limit_negative :
    let page : Page := ⟨0, 18446744073709551615⟩
    let s : Statement := .bare "SELECT a FROM t"
    checkArgs (paged page s) = .ok () ∧
      (paged page s).args = [.ofType .long (.int (-1)), .ofType .long (.int 0)] ∧
      SendsPage page s (-1) 0 ∧ ¬SendsPage page s 18446744073709551615 0 := by
  intro page s
  have order : PagedInOrder page s := pagedInOrder (by decide) (by decide)
  have limit : signedBound 18446744073709551615 = -1 := by decide
  have start : signedBound 0 = 0 := by decide
  have checked : checkArgs s = .ok () := by
    rw [checkArgs, if_neg (by decide)]
    rfl
  refine ⟨order.checked.trans checked, rfl, sendsPage_iff.mpr ⟨limit.symm, start.symm⟩, fun sent => ?_⟩
  have same := (sendsPage_iff.mp sent).1
  rw [limit] at same
  cases same

end Postgres
end SqlBind
