/-
Blank characters: the Unicode property White_Space. Names, lists and numerals in
text are trimmed of them.
-/
namespace SqlBind.Text

/-- Whether a character has the property White_Space. -/
def isBlank (c : Char) : Bool :=
  let n := c.toNat
  (0x09 ≤ n && n ≤ 0x0D) || n == 0x20 || n == 0x85 || n == 0xA0 || n == 0x1680
    || (0x2000 ≤ n && n ≤ 0x200A) || n == 0x2028 || n == 0x2029 || n == 0x202F
    || n == 0x205F || n == 0x3000

/-- A text without the blanks before it. -/
def trimStart (cs : List Char) : List Char := cs.dropWhile isBlank

/-- A text without the blanks before and after it. -/
def trim (cs : List Char) : List Char := (trimStart (trimStart cs).reverse).reverse

theorem trimStart_eq_self {cs : List Char} (first : ∀ c ∈ cs.head?, isBlank c = false) :
    trimStart cs = cs := by
  cases cs with
  | nil => rfl
  | cons c rest =>
    rw [trimStart, List.dropWhile_cons, first c rfl]
    rfl

/-- What neither starts nor ends with a blank stays as it is. -/
theorem trim_eq_self {cs : List Char} (first : ∀ c ∈ cs.head?, isBlank c = false)
    (last : ∀ c ∈ cs.getLast?, isBlank c = false) : trim cs = cs := by
  have reversed : ∀ c ∈ cs.reverse.head?, isBlank c = false := by
    rw [List.head?_reverse]
    exact last
  rw [trim, trimStart_eq_self first, trimStart_eq_self reversed, List.reverse_reverse]

theorem trim_of_forall {cs : List Char} (h : ∀ c ∈ cs, isBlank c = false) : trim cs = cs :=
  trim_eq_self (fun c mem => h c (List.mem_of_mem_head? mem))
    fun c mem => h c (List.mem_of_getLast? mem)

/-- Blanks in the midst of a text stay. -/
theorem trim_between {xs ys : List Char} (mid : List Char) (hx : xs ≠ []) (hy : ys ≠ [])
    (before : ∀ c ∈ xs, isBlank c = false) (after : ∀ c ∈ ys, isBlank c = false) :
    trim (xs ++ mid ++ ys) = xs ++ mid ++ ys := by
  refine trim_eq_self (fun c mem => ?_) fun c mem => ?_
  · cases xs with
    | nil => exact absurd rfl hx
    | cons first rest =>
      cases mem
      exact before c List.mem_cons_self
  · rcases List.eq_nil_or_concat ys with rfl | ⟨front, last, rfl⟩
    · exact absurd rfl hy
    · rw [List.concat_eq_append, ← List.append_assoc, List.getLast?_concat] at mem
      cases mem
      exact after c (by simp)

/-- A string without the blanks around it. -/
def trimmed (s : String) : String := .ofList (trim s.toList)

/-- The pieces of a text between the separators; a text without one is a single piece. -/
def split (separator : Char) : List Char → List (List Char)
  | [] => [[]]
  | c :: rest =>
    if c = separator then [] :: split separator rest
    else match split separator rest with
      | [] => [[c]]
      | piece :: pieces => (c :: piece) :: pieces

/-- A text cut at the first separator, which belongs to neither part. -/
def splitOnce? (separator : Char) : List Char → Option (List Char × List Char)
  | [] => none
  | c :: rest =>
    if c = separator then some ([], rest)
    else (splitOnce? separator rest).map fun (before, after) => (c :: before, after)

end SqlBind.Text
