/-
Arguments and the groups that they are. An option and its value are written as two
arguments or as one with an equals sign between them; a flag and any other word are
one argument each. No spelling of an option or a flag has an equals sign, so the first
one in an argument ends the spelling, and arguments that are whole groups are read as
these groups, whatever follows them (`Divides.groups_append`). Conversely all arguments
are whole groups but for requests for help and a last option without its value
(`divides_groups`).
-/
import Mathlib.Data.List.Nodup
import SqlBind.CommandLine.Group

namespace SqlBind.CommandLine

variable {ο φ : Type}

/-- A group that is neither a request for help nor an option without its value. -/
def Group.IsWhole : Group ο φ → Prop
  | .help | .incomplete _ => False
  | _ => True

namespace Grammar

/-! ## Options in an argument -/

/-- What an argument says of the options in a list. -/
inductive Names (options : List (String × ο)) : String → Named ο → Prop
  | alone {spelling : String} {name : ο} (known : (spelling, name) ∈ options) :
      Names options spelling (.alone spelling name)
  | valued {spelling : String} {name : ο} (known : (spelling, name) ∈ options) (value : String) :
      Names options (spelling ++ "=" ++ value) (.valued name value)

theorem Names.cons {options : List (String × ο)} {arg : String} {named : Named ο}
    (option : String × ο) (h : Names options arg named) : Names (option :: options) arg named := by
  cases h with
  | alone known => exact .alone (List.mem_cons_of_mem _ known)
  | valued known value => exact .valued (List.mem_cons_of_mem _ known) value

theorem isPrefixOf?_joined {spelling arg : String} {value : List Char} :
    (spelling ++ "=").toList.isPrefixOf? arg.toList = some value ↔
      arg = spelling ++ "=" ++ .ofList value := by
  have chars : (spelling ++ "=" ++ .ofList value).toList = (spelling ++ "=").toList ++ value := by
    rw [String.toList_append, String.toList_ofList]
  rw [List.isPrefixOf?_eq_some_iff_append_eq, ← String.toList_inj, chars]
  exact eq_comm

theorem names_of_named? {options : List (String × ο)} {arg : String} {named : Named ο}
    (h : named? options arg = some named) : Names options arg named := by
  induction options with
  | nil => cases h
  | cons option options ih =>
    obtain ⟨spelling, name⟩ := option
    rw [named?] at h
    split at h
    · next same =>
      cases h
      cases same
      exact .alone List.mem_cons_self
    · split at h
      · next value begins =>
        cases h
        rw [isPrefixOf?_joined.mp begins]
        exact .valued List.mem_cons_self _
      · exact (ih h).cons _

theorem not_names_of_named? {options : List (String × ο)} {arg : String}
    (h : named? options arg = none) (named : Named ο) : ¬ Names options arg named := by
  induction options with
  | nil => rintro (known | known) <;> cases known
  | cons option options ih =>
    obtain ⟨spelling, name⟩ := option
    rw [named?] at h
    split at h
    · cases h
    next other =>
    split at h
    · cases h
    next none =>
    rintro (known | ⟨known, value⟩)
    · obtain same | later := List.mem_cons.mp known
      · cases same
        exact other rfl
      · exact ih h (.alone later)
    · obtain same | later := List.mem_cons.mp known
      · cases same
        have begins : (spelling ++ "=").toList.isPrefixOf? (spelling ++ "=" ++ value).toList =
            some value.toList := isPrefixOf?_joined.mpr (by rw [String.ofList_toList])
        rw [begins] at none
        cases none
      · exact ih h (.valued later value)

/-- Up to the first equals sign, an argument is one spelling. -/
theorem takeWhile_joined {spelling : String} (free : '=' ∉ spelling.toList) (value : String) :
    (spelling ++ "=" ++ value).toList.takeWhile (· ≠ '=') = spelling.toList := by
  have chars : (spelling ++ "=" ++ value).toList = spelling.toList ++ '=' :: value.toList := by simp
  have before : ∀ c ∈ spelling.toList, decide (c ≠ '=') = true := by
    intro c mem
    exact decide_eq_true fun equals => free (equals ▸ mem)
  rw [chars, List.takeWhile_append_of_pos before]
  simp

theorem joined_inj {spelling spelling' value value' : String} (free : '=' ∉ spelling.toList)
    (free' : '=' ∉ spelling'.toList) (same : spelling ++ "=" ++ value = spelling' ++ "=" ++ value') :
    spelling = spelling' ∧ value = value' := by
  obtain rfl : spelling = spelling' := by
    rw [← String.toList_inj, ← takeWhile_joined free value, same, takeWhile_joined free']
  have chars := congrArg String.toList same
  simp only [String.toList_append] at chars
  exact ⟨rfl, String.toList_inj.mp (List.append_cancel_left chars)⟩

theorem mem_joined (spelling value : String) : '=' ∈ (spelling ++ "=" ++ value).toList := by
  simp

theorem not_mem_of_isHelp {arg : String} (h : isHelp arg = true) : '=' ∉ arg.toList := by
  rw [isHelp, Bool.or_eq_true, decide_eq_true_iff, decide_eq_true_iff] at h
  rcases h with rfl | rfl <;> decide

/-! ## Groups in arguments -/

/-- The spellings of a grammar. -/
def spellings (g : Grammar ο φ) : List String := g.flags.map Prod.fst ++ g.options.map Prod.fst

/-- No spelling asks for help, has an equals sign or is that of something else too. -/
structure Unambiguous (g : Grammar ο φ) : Prop where
  distinct : g.spellings.Nodup
  noHelp : ∀ spelling ∈ g.spellings, isHelp spelling = false
  noEquals : ∀ spelling ∈ g.spellings, '=' ∉ spelling.toList

/-- How a group is written. -/
inductive Spells (g : Grammar ο φ) : Group ο φ → List String → Prop
  | flag {spelling : String} {name : φ} (known : (spelling, name) ∈ g.flags) :
      Spells g (.flag name) [spelling]
  | apart {spelling : String} {name : ο} (known : (spelling, name) ∈ g.options) (value : String) :
      Spells g (.option name value) [spelling, value]
  | joined {spelling : String} {name : ο} (known : (spelling, name) ∈ g.options) (value : String) :
      Spells g (.option name value) [spelling ++ "=" ++ value]
  | word {arg : String} (noHelp : isHelp arg = false) (noFlag : arg ∉ g.flags.map Prod.fst)
      (noOption : ∀ named, ¬ Names g.options arg named) : Spells g (.word arg) [arg]

/-- Arguments that are whole groups. -/
inductive Divides (g : Grammar ο φ) : List String → List (Group ο φ) → Prop
  | nil : Divides g [] []
  | cons {group : Group ο φ} {args rest : List String} {groups : List (Group ο φ)}
      (first : Spells g group args) (others : Divides g rest groups) :
      Divides g (args ++ rest) (group :: groups)

variable {g : Grammar ο φ}

theorem mem_spellings_of_flag {spelling : String} {name : φ} (known : (spelling, name) ∈ g.flags) :
    spelling ∈ g.spellings :=
  List.mem_append_left _ (List.mem_map.mpr ⟨_, known, rfl⟩)

theorem mem_spellings_of_option {spelling : String} {name : ο}
    (known : (spelling, name) ∈ g.options) : spelling ∈ g.spellings :=
  List.mem_append_right _ (List.mem_map.mpr ⟨_, known, rfl⟩)

theorem lookup_eq_none {α : Type} {entries : List (String × α)} {arg : String} :
    entries.lookup arg = none ↔ arg ∉ entries.map Prod.fst := by
  simp only [List.lookup_eq_none_iff, bne_iff_ne, List.mem_map, not_exists, not_and]
  exact ⟨fun h entry mem same => h entry mem same.symm, fun h entry mem same => h entry mem same.symm⟩

theorem mem_of_lookup {α : Type} {entries : List (String × α)} {arg : String} {a : α}
    (h : entries.lookup arg = some a) : (arg, a) ∈ entries := by
  obtain ⟨before, after, rfl, -⟩ := List.lookup_eq_some_iff.mp h
  exact List.mem_append_right _ List.mem_cons_self

namespace Unambiguous

variable (u : g.Unambiguous)

include u

theorem lookup_flag {spelling : String} {name : φ} (known : (spelling, name) ∈ g.flags) :
    g.flags.lookup spelling = some name := by
  cases found : g.flags.lookup spelling with
  | none => exact absurd (List.mem_map.mpr ⟨_, known, rfl⟩) (lookup_eq_none.mp found)
  | some name' =>
    have same := List.inj_on_of_nodup_map (List.nodup_append.mp u.distinct).1
      (mem_of_lookup found) known rfl
    cases same
    rfl

theorem names_inj {arg : String} {named named' : Named ο} (h : Names g.options arg named)
    (h' : Names g.options arg named') : named = named' := by
  have one {spelling : String} {name name' : ο} (known : (spelling, name) ∈ g.options)
      (known' : (spelling, name') ∈ g.options) : name = name' := by
    have same := List.inj_on_of_nodup_map (List.nodup_append.mp u.distinct).2.1 known known' rfl
    cases same
    rfl
  have free {spelling : String} {name : ο} (known : (spelling, name) ∈ g.options) :=
    u.noEquals spelling (mem_spellings_of_option known)
  generalize eq : arg = arg' at h'
  cases h with
  | alone known =>
    cases h' with
    | alone known' =>
      cases eq
      rw [one known known']
    | valued known' value =>
      cases eq
      exact absurd (mem_joined _ _) (free known)
  | valued known value =>
    cases h' with
    | alone known' =>
      cases eq
      exact absurd (mem_joined _ _) (free known')
    | valued known' value' =>
      obtain ⟨rfl, rfl⟩ := joined_inj (free known) (free known') eq
      rw [one known known']

theorem named?_eq_some_iff {arg : String} {named : Named ο} :
    named? g.options arg = some named ↔ Names g.options arg named := by
  refine ⟨names_of_named?, fun h => ?_⟩
  cases found : named? g.options arg with
  | none => exact absurd h (not_names_of_named? found named)
  | some named' => rw [u.names_inj (names_of_named? found) h]

/-- What names an option is neither a request for help nor a flag. -/
theorem lookup_of_names {arg : String} {named : Named ο} (h : Names g.options arg named) :
    isHelp arg = false ∧ g.flags.lookup arg = none := by
  cases h with
  | alone known =>
    refine ⟨u.noHelp _ (mem_spellings_of_option known), lookup_eq_none.mpr fun mem => ?_⟩
    exact (List.nodup_append.mp u.distinct).2.2 _ mem _ (List.mem_map.mpr ⟨_, known, rfl⟩) rfl
  | @valued spelling _ known value =>
    have equals := mem_joined spelling value
    refine ⟨Bool.eq_false_iff.mpr fun help => not_mem_of_isHelp help equals, ?_⟩
    exact lookup_eq_none.mpr fun mem => u.noEquals _ (List.mem_append_left _ mem) equals

end Unambiguous

theorem Spells.groups_append {group : Group ο φ} {args : List String} (h : g.Spells group args)
    (u : g.Unambiguous) (rest : List String) : g.groups (args ++ rest) = group :: g.groups rest := by
  cases h with
  | flag known =>
    have noHelp := u.noHelp _ (mem_spellings_of_flag known)
    simp [groups, noHelp, u.lookup_flag known]
  | apart known value =>
    have names := Names.alone known
    obtain ⟨noHelp, noFlag⟩ := u.lookup_of_names names
    simp [groups, noHelp, noFlag, u.named?_eq_some_iff.mpr names]
  | joined known value =>
    have names := Names.valued known value
    obtain ⟨noHelp, noFlag⟩ := u.lookup_of_names names
    simp [groups, noHelp, noFlag, u.named?_eq_some_iff.mpr names]
  | @word arg noHelp noFlag noOption =>
    have none : named? g.options arg = none := by
      cases found : named? g.options arg with
      | none => rfl
      | some named => exact absurd (names_of_named? found) (noOption named)
    simp [groups, noHelp, lookup_eq_none.mpr noFlag, none]

/-- Whole groups are read as what they are, whatever follows. -/
theorem Divides.groups_append {args : List String} {groups : List (Group ο φ)}
    (h : g.Divides args groups) (u : g.Unambiguous) (rest : List String) :
    g.groups (args ++ rest) = groups ++ g.groups rest := by
  induction h with
  | nil => rfl
  | cons first _ ih =>
    rw [List.append_assoc, first.groups_append u, ih, List.cons_append]

theorem Divides.groups_eq {args : List String} {groups : List (Group ο φ)}
    (h : g.Divides args groups) (u : g.Unambiguous) : g.groups args = groups := by
  simpa [Grammar.groups] using h.groups_append u []

/-- Arguments in which only whole groups are read are these. -/
theorem divides_groups {args : List String} (whole : ∀ group ∈ g.groups args, group.IsWhole) :
    g.Divides args (g.groups args) := by
  induction args using Grammar.groups.induct g with
  | case1 => exact .nil
  | case2 arg rest asksHelp =>
    have read : g.groups (arg :: rest) = .help :: g.groups rest := by simp [groups, asksHelp]
    exact (whole .help (read ▸ List.mem_cons_self)).elim
  | case3 arg rest noHelp name found ih =>
    have read : g.groups (arg :: rest) = .flag name :: g.groups rest := by
      simp [groups, noHelp, found]
    rw [read] at whole ⊢
    exact .cons (.flag (mem_of_lookup found)) (ih fun group mem => whole group (.tail _ mem))
  | case4 arg rest noHelp noFlag name value found ih =>
    have read : g.groups (arg :: rest) = .option name value :: g.groups rest := by
      simp [groups, noHelp, noFlag, found]
    rw [read] at whole ⊢
    have others := ih fun group mem => whole group (.tail _ mem)
    cases names_of_named? found with
    | valued known => exact .cons (.joined known value) others
  | case5 arg noHelp noFlag spelling name found =>
    have read : g.groups [arg] = [.incomplete spelling] := by simp [groups, noHelp, noFlag, found]
    exact (whole (.incomplete spelling) (read ▸ List.mem_cons_self)).elim
  | case6 arg noHelp noFlag spelling name found value rest ih =>
    have read : g.groups (arg :: value :: rest) = .option name value :: g.groups rest := by
      simp [groups, noHelp, noFlag, found]
    rw [read] at whole ⊢
    have others := ih fun group mem => whole group (.tail _ mem)
    cases names_of_named? found with
    | alone known => exact .cons (.apart known value) others
  | case7 arg rest noHelp noFlag noOption ih =>
    have read : g.groups (arg :: rest) = .word arg :: g.groups rest := by
      simp [groups, noHelp, noFlag, noOption]
    rw [read] at whole ⊢
    have word : g.Spells (.word arg) [arg] :=
      .word (Bool.eq_false_iff.mpr noHelp) (lookup_eq_none.mp noFlag) (not_names_of_named? noOption)
    exact .cons word (ih fun group mem => whole group (.tail _ mem))

end Grammar
end SqlBind.CommandLine
