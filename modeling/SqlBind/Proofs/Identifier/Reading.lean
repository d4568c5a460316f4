/-
A name is quiet for the reader of binds. The check of names and the reader take
one character at a time, and their states correspond: the reader is between
double quotes exactly where the check is (`Place.mode`). So a name that passes
the check, whatever stands between its quotes, binds nothing and leaves the
reader in plain text.
-/
import SqlBind.Identifier
import SqlBind.Proofs.Placeholder.Reading

namespace SqlBind.Identifier

open Placeholder

/-- The reader's mode where the check is at a place. After a quote between
quotes the reader takes the part for closed. -/
def Place.mode : Place → Mode
  | .start | .bare | .afterQuote _ => .plain
  | .quoted _ => .double

theorem opened_of_isFollow {c : Char} (h : isFollow c = true) : Mode.opened c = .plain ∧ c ≠ '?' := by
  have hc : c ≠ '\'' ∧ c ≠ '"' ∧ c ≠ '-' ∧ c ≠ '/' ∧ c ≠ '?' := by
    refine ⟨?_, ?_, ?_, ?_, ?_⟩ <;> rintro rfl <;> exact absurd h (by decide)
  obtain ⟨h1, h2, h3, h4, h5⟩ := hc
  exact ⟨by simp [Mode.opened, h1, h2, h3, h4], h5⟩

theorem isFollow_of_isStart {c : Char} (h : isStart c = true) : isFollow c = true := by
  simp only [isStart, Bool.or_eq_true, decide_eq_true_eq] at h
  rcases h with h | h
  · simp [isFollow, Char.isAlphanum, h]
  · simp [isFollow, h]

/-- What is left of a name reads as a name does, from every place the check can be at. -/
theorem reads_of_faultFrom {name : String} {cs : List Char} :
    ∀ {p : Place} {n : Nat}, faultFrom name p cs = none →
      p.mode.after cs = .plain ∧ bindsFrom p.mode n cs = [] := by
  -- Each step hands what is left to the place and the mode that follow it.
  induction cs with
  | nil =>
    intro place n h
    cases place with
    | start | quoted => simp [faultFrom] at h
    | bare | afterQuote => exact ⟨rfl, rfl⟩
  | cons c rest ih =>
    have step {p q : Place} {n : Nat} (next : p.mode.next c = q.mode)
        (noBind : p.mode.binds c = false) (h : faultFrom name q rest = none) :
        p.mode.after (c :: rest) = .plain ∧ bindsFrom p.mode n (c :: rest) = [] := by
      rw [Mode.after_cons, bindsFrom_cons, if_neg (by simp [noBind]), next]
      exact ih h
    intro place n h
    cases place with
    | start =>
      simp only [faultFrom] at h
      split at h
      next hq => subst hq; exact step (q := .quoted true) rfl rfl h
      next hq =>
        split at h
        next hs =>
          obtain ⟨opened, ne⟩ := opened_of_isFollow (isFollow_of_isStart hs)
          exact step (q := .bare) opened (by simp [Mode.binds, ne]) h
        next => cases h
    | bare =>
      simp only [faultFrom] at h
      split at h
      next hd => subst hd; exact step (q := .start) rfl rfl h
      next hd =>
        split at h
        next hf =>
          obtain ⟨opened, ne⟩ := opened_of_isFollow hf
          exact step (q := .bare) opened (by simp [Mode.binds, ne]) h
        next => cases h
    | quoted empty =>
      simp only [faultFrom] at h
      split at h
      next hq => subst hq; exact step (q := .afterQuote empty) rfl rfl h
      next hq =>
        split at h
        next => cases h
        next => exact step (q := .quoted false) (by simp [Place.mode, Mode.next, hq]) rfl h
    | afterQuote empty =>
      simp only [faultFrom] at h
      split at h
      next hq => subst hq; exact step (q := .quoted false) rfl rfl h
      next hq =>
        split at h
        next => cases h
        next =>
          split at h
          next hd => subst hd; exact step (q := .start) rfl rfl h
          next => cases h

/-- **A name that passes the check is quiet**: it binds nothing and leaves the
reader in plain text, however it is quoted. -/
theorem quiet_of_check {name : String} (h : check name = .ok ()) : Quiet name := by
  have fault : fault? name = none := by
    unfold check at h
    split at h
    · assumption
    · cases h
  unfold fault? at fault
  split at fault
  · cases fault
  · exact reads_of_faultFrom (p := .start) fault

theorem check_of_checkAll {names : List String} (h : checkAll names = .ok ()) :
    ∀ name ∈ names, check name = .ok () := by
  induction names with
  | nil => simp
  | cons first rest ih =>
    simp only [checkAll] at h
    cases checked : check first with
    | error e => rw [checked] at h; cases h
    | ok u =>
      rw [checked] at h
      intro name mem
      rcases List.mem_cons.mp mem with rfl | mem
      · exact checked
      · exact ih h name mem

end SqlBind.Identifier
