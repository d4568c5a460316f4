/-
Quoted text in SQL, where a quote inside the quotes is written twice.
-/
namespace SqlBind.Text

/-- A text with every quote of a kind doubled. -/
def doubled (quote : Char) (s : String) : String :=
  .ofList (s.toList.flatMap fun c => if c = quote then [c, c] else [c])

/-- Characters, with those of a class doubled. -/
def twice (p : Char → Bool) (text : List Char) : List Char :=
  text.flatMap fun c => if p c then [c, c] else [c]

theorem twice_cons_pos {p : Char → Bool} {c : Char} (h : p c = true) (text : List Char) :
    twice p (c :: text) = c :: c :: twice p text := by
  simp [twice, h]

theorem twice_cons_neg {p : Char → Bool} {c : Char} (h : p c = false) (text : List Char) :
    twice p (c :: text) = c :: twice p text := by
  simp [twice, h]

theorem head?_twice_append (p : Char → Bool) (text rest : List Char) :
    (twice p text ++ rest).head? = text.head?.or rest.head? := by
  cases text with
  | nil => rfl
  | cons c text =>
    cases h : p c with
    | true => rw [twice_cons_pos h]; rfl
    | false => rw [twice_cons_neg h]; rfl

end SqlBind.Text
