/-
Command lines that ask for the same. A group changes one part of a draft and looks at no
other, so that groups about different parts may come in either order and of two groups
about the same part the first has no effect (`Settles`). What is known after a whole list
of groups is then the same whichever way it is written (`Rearranged.run`), and so is the
command.
-/
import Mathlib.Logic.ExistsUnique
import Mathlib.Logic.Relation
import SqlBind.CommandLine.Command
import SqlBind.Proofs.CommandLine.Groups
import SqlBind.Proofs.Effect

namespace SqlBind.CommandLine

variable {ο φ δ : Type}

/-! ## Groups on a draft -/

/-- The option or the flag that a group is about. The kind of a statement is about neither. -/
def Group.subject : Group ο φ → Option (ο ⊕ φ)
  | .option name _ => some (.inl name)
  | .flag name => some (.inr name)
  | _ => none

/-- What groups about different parts of a draft do to it does not depend on their order,
and what a group does is lost to a later one about the same option or flag. -/
structure Settles (add : δ → Group ο φ → Except Stop δ) : Prop where
  whole {group : Group ο φ} {draft after : δ} (h : add draft group = .ok after) : group.IsWhole
  comm {first second : Group ο φ} {draft between after : δ} (differ : first.subject ≠ second.subject)
    (h : add draft first = .ok between) (h' : add between second = .ok after) :
    ∃ between, add draft second = .ok between ∧ add between first = .ok after
  last {first second : Group ο φ} {subject : ο ⊕ φ} {draft between after : δ}
    (about : first.subject = some subject) (same : second.subject = some subject)
    (h : add draft first = .ok between) (h' : add between second = .ok after) :
    add draft second = .ok after

namespace Settles

variable {add : δ → Group ο φ → Except Stop δ} (s : Settles add) {first second : Group ο φ}
  {draft final : δ}

include s

theorem all_whole {groups : List (Group ο φ)} (ran : groups.foldlM add draft = .ok final) :
    ∀ group ∈ groups, group.IsWhole := by
  induction groups generalizing draft with
  | nil => exact fun group mem => by cases mem
  | cons group groups ih =>
    rw [List.foldlM_cons, Except.bind_ok_iff] at ran
    obtain ⟨between, h, ran⟩ := ran
    rintro other (_ | ⟨_, mem⟩)
    · exact s.whole h
    · exact ih ran other mem

theorem exchange {later : List (Group ο φ)} (differ : first.subject ≠ second.subject)
    (ran : (first :: second :: later).foldlM add draft = .ok final) :
    (second :: first :: later).foldlM add draft = .ok final := by
  simp only [List.foldlM_cons, Except.bind_ok_iff] at ran ⊢
  obtain ⟨between, h, after, h', ran⟩ := ran
  obtain ⟨between', h₁, h₂⟩ := s.comm differ h h'
  exact ⟨between', h₁, after, h₂, ran⟩

/-- Up to the group that repeats it, a group moves behind each of the others. -/
theorem drop {between later : List (Group ο φ)} {subject : ο ⊕ φ}
    (about : first.subject = some subject) (same : second.subject = some subject)
    (ran : (first :: (between ++ second :: later)).foldlM add draft = .ok final) :
    (between ++ second :: later).foldlM add draft = .ok final := by
  induction between generalizing draft with
  | nil =>
    simp only [List.nil_append, List.foldlM_cons, Except.bind_ok_iff] at ran ⊢
    obtain ⟨between, h, after, h', ran⟩ := ran
    exact ⟨after, s.last about same h h', ran⟩
  | cons group groups ih =>
    by_cases repeats : group.subject = some subject
    · simp only [List.cons_append, List.foldlM_cons, Except.bind_ok_iff] at ran ⊢
      obtain ⟨between, h, after, h', ran⟩ := ran
      exact ⟨after, s.last about repeats h h', ran⟩
    · have behind := s.exchange (about ▸ Ne.symm repeats) ran
      rw [List.foldlM_cons, Except.bind_ok_iff] at behind
      obtain ⟨between, h, ran⟩ := behind
      rw [List.cons_append, List.foldlM_cons, Except.bind_ok_iff]
      exact ⟨between, h, ih ran⟩

end Settles

/-! ## Other ways to write arguments -/

namespace Grammar

/-- One step to another way of writing the same arguments. What comes before is whole groups,
so that the step is at the beginning of a group. -/
inductive Rearranged (g : Grammar ο φ) : List String → List String → Prop
  | joined {before : List String} {groups : List (Group ο φ)} {spelling : String} {name : ο}
      (begins : g.Divides before groups) (known : (spelling, name) ∈ g.options) (value : String)
      (after : List String) :
      Rearranged g (before ++ [spelling, value] ++ after)
        (before ++ [spelling ++ "=" ++ value] ++ after)
  | parted {before : List String} {groups : List (Group ο φ)} {spelling : String} {name : ο}
      (begins : g.Divides before groups) (known : (spelling, name) ∈ g.options) (value : String)
      (after : List String) :
      Rearranged g (before ++ [spelling ++ "=" ++ value] ++ after)
        (before ++ [spelling, value] ++ after)
  | exchanged {before args args' : List String} {groups : List (Group ο φ)}
      {group group' : Group ο φ} (begins : g.Divides before groups) (first : g.Spells group args)
      (second : g.Spells group' args') (differ : group.subject ≠ group'.subject)
      (after : List String) :
      Rearranged g (before ++ args ++ args' ++ after) (before ++ args' ++ args ++ after)
  | dropped {before args between args' : List String} {groups groups' : List (Group ο φ)}
      {group group' : Group ο φ} {subject : ο ⊕ φ} (begins : g.Divides before groups)
      (first : g.Spells group args) (others : g.Divides between groups')
      (second : g.Spells group' args') (about : group.subject = some subject)
      (same : group'.subject = some subject) (after : List String) :
      Rearranged g (before ++ args ++ between ++ args' ++ after) (before ++ between ++ args' ++ after)

theorem Rearranged.run {g : Grammar ο φ} {args args' : List String} (h : g.Rearranged args args')
    (u : g.Unambiguous) {add : δ → Group ο φ → Except Stop δ} (s : Settles add) {draft final : δ}
    (ran : (g.groups args).foldlM add draft = .ok final) :
    (g.groups args').foldlM add draft = .ok final := by
  cases h with
  | joined begins known value after =>
    rw [List.append_assoc, begins.groups_append u, (Spells.apart known value).groups_append u] at ran
    rwa [List.append_assoc, begins.groups_append u, (Spells.joined known value).groups_append u]
  | parted begins known value after =>
    rw [List.append_assoc, begins.groups_append u, (Spells.joined known value).groups_append u] at ran
    rwa [List.append_assoc, begins.groups_append u, (Spells.apart known value).groups_append u]
  | exchanged begins first second differ after =>
    simp only [List.append_assoc, begins.groups_append u, first.groups_append u,
      second.groups_append u, List.foldlM_append, Except.bind_ok_iff] at ran ⊢
    obtain ⟨between, h, ran⟩ := ran
    exact ⟨between, h, s.exchange differ ran⟩
  | dropped begins first others second about same after =>
    simp only [List.append_assoc, begins.groups_append u, first.groups_append u,
      others.groups_append u, second.groups_append u] at ran ⊢
    rw [List.foldlM_append, Except.bind_ok_iff] at ran ⊢
    obtain ⟨between, h, ran⟩ := ran
    exact ⟨between, h, s.drop about same ran⟩

end Grammar

/-! ## Templates -/

namespace Render

theorem unambiguous : grammar.Unambiguous where
  distinct := by decide
  noHelp := by decide
  noEquals := by decide

/-- What a group changes. -/
inductive Draft.Sets : Group Setting Switch → (Draft → Draft) → Prop
  | sql (value : String) : Sets (.option .sql value) fun draft => { draft with sql := some value }
  | args (value : String) : Sets (.option .args value) fun draft => { draft with args := some value }
  | numbered : Sets (.flag .numbered) fun draft => { draft with numbered := true }

theorem Draft.add_eq_ok_iff {draft after : Draft} {group : Group Setting Switch} :
    draft.add group = .ok after ↔ ∃ change, Sets group change ∧ after = change draft := by
  constructor
  · intro h
    match group, h with
    | .option .sql value, rfl => exact ⟨_, .sql value, rfl⟩
    | .option .args value, rfl => exact ⟨_, .args value, rfl⟩
    | .flag .numbered, rfl => exact ⟨_, .numbered, rfl⟩
  · rintro ⟨change, sets, rfl⟩
    cases sets <;> rfl

theorem Draft.Sets.comm {first second : Group Setting Switch} {change change' : Draft → Draft}
    (h : Sets first change) (h' : Sets second change') (differ : first.subject ≠ second.subject)
    (draft : Draft) : change' (change draft) = change (change' draft) := by
  cases h <;> cases h' <;> first | rfl | exact absurd rfl differ

theorem Draft.Sets.last {first second : Group Setting Switch} {change change' : Draft → Draft}
    (h : Sets first change) (h' : Sets second change') (same : first.subject = second.subject)
    (draft : Draft) : change' (change draft) = change' draft := by
  cases h <;> cases h' <;> first | rfl | cases same

theorem settles : Settles Draft.add where
  whole h := by
    obtain ⟨_, sets, -⟩ := Draft.add_eq_ok_iff.mp h
    cases sets <;> trivial
  comm differ h h' := by
    obtain ⟨change, sets, rfl⟩ := Draft.add_eq_ok_iff.mp h
    obtain ⟨change', sets', rfl⟩ := Draft.add_eq_ok_iff.mp h'
    exact ⟨_, Draft.add_eq_ok_iff.mpr ⟨change', sets', rfl⟩,
      Draft.add_eq_ok_iff.mpr ⟨change, sets, sets.comm sets' differ _⟩⟩
  last about same h h' := by
    obtain ⟨change, sets, rfl⟩ := Draft.add_eq_ok_iff.mp h
    obtain ⟨change', sets', rfl⟩ := Draft.add_eq_ok_iff.mp h'
    exact Draft.add_eq_ok_iff.mpr ⟨change', sets', sets.last sets' (about.trans same.symm) _⟩

end Render

/-! ## Rows -/

namespace Build

theorem unambiguous : grammar.Unambiguous where
  distinct := by decide
  noHelp := by decide
  noEquals := by decide

/-- What a group changes. -/
inductive Draft.Sets : Group Setting Empty → (Draft → Draft) → Prop
  | table (value : String) : Sets (.option .table value) fun draft => { draft with table := some value }
  | row (value : String) : Sets (.option .row value) fun draft => { draft with row := some value }
  | dialect {value : String} {dialect : Dialect} (known : Dialect.ofName? value = some dialect) :
      Sets (.option .dialect value) fun draft => { draft with dialect }
  | columns (value : String) :
      Sets (.option .columns value) fun draft => { draft with columns := some value }
  | key (value : String) : Sets (.option .key value) fun draft => { draft with key := some value }
  | unique (value : String) :
      Sets (.option .unique value) fun draft => { draft with unique := names value }
  | kind {arg : String} {kind : BuildKind} (undashed : arg.toList.head? ≠ some '-')
      (known : BuildKind.ofWord? arg = some kind) :
      Sets (.word arg) fun draft => { draft with kind := some kind }

theorem Draft.put_eq_ok_iff {draft after : Draft} {setting : Setting} {value : String} :
    draft.put setting value = .ok after ↔
      ∃ change, Sets (.option setting value) change ∧ after = change draft := by
  constructor
  · intro h
    cases setting with
    | table => exact ⟨_, .table value, (Except.ok.inj h).symm⟩
    | row => exact ⟨_, .row value, (Except.ok.inj h).symm⟩
    | columns => exact ⟨_, .columns value, (Except.ok.inj h).symm⟩
    | key => exact ⟨_, .key value, (Except.ok.inj h).symm⟩
    | unique => exact ⟨_, .unique value, (Except.ok.inj h).symm⟩
    | dialect =>
      rw [put] at h
      split at h
      · next known => exact ⟨_, .dialect known, (Except.ok.inj h).symm⟩
      · cases h
  · rintro ⟨change, sets, rfl⟩
    cases sets with
    | dialect known => simp only [put, known]
    | _ => rfl

/-- The kind of the statement is said once. -/
theorem Draft.add_eq_ok_iff {draft after : Draft} {group : Group Setting Empty} :
    draft.add group = .ok after ↔ ∃ change, Sets group change ∧
      (group.subject = none → draft.kind = none) ∧ after = change draft := by
  constructor
  · intro h
    match group, h with
    | .option setting value, h =>
      obtain ⟨change, sets, eq⟩ := put_eq_ok_iff.mp h
      exact ⟨change, sets, nofun, eq⟩
    | .word arg, h =>
      rw [add] at h
      split at h
      · cases h
      next free =>
      split at h
      · next known =>
        rw [Bool.or_eq_true, not_or, decide_eq_true_iff, Bool.not_eq_true, Option.isSome_eq_false_iff,
          Option.isNone_iff_eq_none] at free
        exact ⟨_, .kind free.2 known, fun _ => free.1, (Except.ok.inj h).symm⟩
      · cases h
  · rintro ⟨change, sets, unset, rfl⟩
    cases sets with
    | kind undashed known => simp [add, unset rfl, undashed, known]
    | dialect known => exact put_eq_ok_iff.mpr ⟨_, .dialect known, rfl⟩
    | _ => rfl

theorem Draft.Sets.comm {first second : Group Setting Empty} {change change' : Draft → Draft}
    (h : Sets first change) (h' : Sets second change') (differ : first.subject ≠ second.subject)
    (draft : Draft) : change' (change draft) = change (change' draft) := by
  cases h <;> cases h' <;> first | rfl | exact absurd rfl differ

theorem Draft.Sets.last {first second : Group Setting Empty} {change change' : Draft → Draft}
    (h : Sets first change) (h' : Sets second change') (same : first.subject = second.subject)
    (draft : Draft) : change' (change draft) = change' draft := by
  cases h <;> cases h' <;> first | rfl | cases same

theorem Draft.Sets.kind_eq {group : Group Setting Empty} {change : Draft → Draft}
    (h : Sets group change) (about : group.subject ≠ none) (draft : Draft) :
    (change draft).kind = draft.kind := by
  cases h <;> first | rfl | exact absurd rfl about

theorem settles : Settles Draft.add where
  whole h := by
    obtain ⟨_, sets, -⟩ := Draft.add_eq_ok_iff.mp h
    cases sets <;> trivial
  comm differ h h' := by
    obtain ⟨change, sets, unset, rfl⟩ := Draft.add_eq_ok_iff.mp h
    obtain ⟨change', sets', unset', rfl⟩ := Draft.add_eq_ok_iff.mp h'
    refine ⟨_, Draft.add_eq_ok_iff.mpr ⟨change', sets', fun kind => ?_, rfl⟩,
      Draft.add_eq_ok_iff.mpr ⟨change, sets, fun kind => ?_, sets.comm sets' differ _⟩⟩
    · exact (sets.kind_eq (kind ▸ differ) _).symm.trans (unset' kind)
    · exact (sets'.kind_eq (kind ▸ differ.symm) _).trans (unset kind)
  last about same h h' := by
    obtain ⟨change, sets, -, rfl⟩ := Draft.add_eq_ok_iff.mp h
    obtain ⟨change', sets', -, rfl⟩ := Draft.add_eq_ok_iff.mp h'
    refine Draft.add_eq_ok_iff.mpr ⟨change', sets', fun kind => ?_,
      sets.last sets' (about.trans same.symm) _⟩
    rw [same] at kind
    cases kind

end Build

/-! ## Commands -/

section
variable {α : Type} {g : Grammar ο φ} {add : δ → Group ο φ → Except Stop δ} {args args' : List String}
  {draft : δ} {complete : δ → Except Stop α} {a : α}

/-- Arguments of which something is made are whole groups in one way. -/
theorem Settles.divides (s : Settles add) (u : g.Unambiguous)
    (made : (g.groups args).foldlM add draft >>= complete = .ok a) :
    ∃! groups, g.Divides args groups := by
  obtain ⟨final, ran, -⟩ := Except.bind_ok_iff.mp made
  exact ⟨g.groups args, Grammar.divides_groups (s.all_whole ran),
    fun _ other => (other.groups_eq u).symm⟩

theorem Grammar.Rearranged.made (h : g.Rearranged args args') (u : g.Unambiguous) (s : Settles add)
    (made : (g.groups args).foldlM add draft >>= complete = .ok a) :
    (g.groups args').foldlM add draft >>= complete = .ok a := by
  obtain ⟨final, ran, completed⟩ := Except.bind_ok_iff.mp made
  exact Except.bind_ok_iff.mpr ⟨final, h.run u s ran, completed⟩

end

namespace Command

theorem orHelp_eq_ok {α : Type} {topic : HelpTopic} {command : α → Command} {x : Except Stop α}
    {result : Command} (h : orHelp topic command x = .ok result) (asked : result ≠ .help topic) :
    ∃ a, x = .ok a ∧ result = command a := by
  match x, h with
  | .ok a, h => exact ⟨a, rfl, (Except.ok.inj h).symm⟩
  | .error .help, h => exact absurd (Except.ok.inj h).symm asked

theorem ofArgs_render (args : List String) :
    ofArgs ("render" :: args) = orHelp .render .render (Render.ofArgs args) := rfl

theorem ofArgs_build (args : List String) :
    ofArgs ("build" :: args) = orHelp .build .build (Build.ofArgs args) := rfl

/-- A command that is not for help is one of two. -/
theorem ofArgs_eq_ok {args : List String} {command : Command} (accepted : ofArgs args = .ok command)
    (asked : ∀ topic, command ≠ .help topic) :
    (∃ rest render, args = "render" :: rest ∧ Render.ofArgs rest = .ok render ∧
        command = .render render) ∨
      ∃ rest build, args = "build" :: rest ∧ Build.ofArgs rest = .ok build ∧
        command = .build build := by
  cases args with
  | nil => exact absurd (Except.ok.inj accepted).symm (asked .root)
  | cons first rest =>
    rw [ofArgs] at accepted
    split at accepted
    · exact absurd (Except.ok.inj accepted).symm (asked .root)
    split at accepted
    · next isRender =>
      obtain ⟨render, h, eq⟩ := orHelp_eq_ok accepted (asked _)
      exact .inl ⟨rest, render, by rw [isRender], h, eq⟩
    split at accepted
    · next isBuild =>
      obtain ⟨build, h, eq⟩ := orHelp_eq_ok accepted (asked _)
      exact .inr ⟨rest, build, by rw [isBuild], h, eq⟩
    · cases accepted

/-- One step to another way of writing a command line. -/
inductive Rearranged : List String → List String → Prop
  | render {args args' : List String} (h : Render.grammar.Rearranged args args') :
      Rearranged ("render" :: args) ("render" :: args')
  | build {args args' : List String} (h : Build.grammar.Rearranged args args') :
      Rearranged ("build" :: args) ("build" :: args')

theorem Rearranged.ofArgs {args args' : List String} {command : Command} (h : Rearranged args args')
    (accepted : ofArgs args = .ok command) (asked : ∀ topic, command ≠ .help topic) :
    Command.ofArgs args' = .ok command := by
  cases h with
  | render h =>
    obtain ⟨render, made, rfl⟩ := orHelp_eq_ok (ofArgs_render _ ▸ accepted) (asked _)
    have again : Render.ofArgs _ = .ok render := h.made Render.unambiguous Render.settles made
    rw [ofArgs_render, again]
    rfl
  | build h =>
    obtain ⟨build, made, rfl⟩ := orHelp_eq_ok (ofArgs_build _ ▸ accepted) (asked _)
    have again : Build.ofArgs _ = .ok build := h.made Build.unambiguous Build.settles made
    rw [ofArgs_build, again]
    rfl

end Command

/-- Options may come in any order and spelling. The arguments of an accepted command are whole
groups in one way, and at any of them an option may be written as one argument or as two,
change places with a neighbour about something else, or go if it is said again later. -/
theorem options_free_of_order_and_spelling {args : List String} {command : Command}
    (accepted : Command.ofArgs args = .ok command) (asked : ∀ topic, command ≠ .help topic) :
    ((∃ rest, args = "render" :: rest ∧ ∃! groups, Render.grammar.Divides rest groups) ∨
      ∃ rest, args = "build" :: rest ∧ ∃! groups, Build.grammar.Divides rest groups) ∧
      ∀ args', Relation.ReflTransGen Command.Rearranged args args' →
        Command.ofArgs args' = .ok command := by
  constructor
  · obtain ⟨rest, render, eq, made, -⟩ | ⟨rest, build, eq, made, -⟩ :=
      Command.ofArgs_eq_ok accepted asked
    · exact .inl ⟨rest, eq, Render.settles.divides Render.unambiguous made⟩
    · exact .inr ⟨rest, eq, Build.settles.divides Build.unambiguous made⟩
  · intro args' steps
    induction steps with
    | refl => exact accepted
    | tail _ step ih => exact step.ofArgs ih asked

/-- Values may look like options, have equals signs and be empty. -/
theorem options_free_of_order_and_spelling_build : ∃ command, (∀ topic, command ≠ .help topic) ∧
    Command.ofArgs ["build", "--table", "--row", "--dialect=oracle", "insert", "--row=x=y",
      "--dialect", "postgres", "--unique="] = .ok command ∧
    Command.ofArgs ["build", "--table=--row", "--row=x=y", "insert", "--dialect", "postgres",
      "--unique", ""] = .ok command := by
  have accepted : Command.ofArgs ["build", "--table", "--row", "--dialect=oracle", "insert",
      "--row=x=y", "--dialect", "postgres", "--unique="] =
      .ok (.build { kind := .insert, table := "--row", row := "x=y", dialect := .postgres,
                    columns := none, key := none, unique := [] }) := rfl
  have known : ("--table", .table) ∈ Build.grammar.options := by simp [Build.grammar]
  have known' : ("--unique", .unique) ∈ Build.grammar.options := by simp [Build.grammar]
  have oracle : Build.grammar.Spells (.option .dialect "oracle") ["--dialect" ++ "=" ++ "oracle"] :=
    .joined (by simp [Build.grammar]) "oracle"
  have row : Build.grammar.Spells (.option .row "x=y") ["--row" ++ "=" ++ "x=y"] :=
    .joined (by simp [Build.grammar]) "x=y"
  have insert : Build.grammar.Spells (.word "insert") ["insert"] :=
    .word rfl (by simp [Build.grammar]) (Grammar.not_names_of_named? rfl)
  have postgres : Build.grammar.Spells (.option .dialect "postgres") ["--dialect", "postgres"] :=
    .apart (by simp [Build.grammar]) "postgres"
  have table := Grammar.Spells.joined known "--row"
  have joined := Command.Rearranged.build (.joined .nil known "--row"
    ["--dialect=oracle", "insert", "--row=x=y", "--dialect", "postgres", "--unique="])
  have exchanged := Command.Rearranged.build (.exchanged (.cons table (.cons oracle .nil)) insert row
    nofun ["--dialect", "postgres", "--unique="])
  have dropped := Command.Rearranged.build (.dropped (.cons table .nil) oracle
    (.cons row (.cons insert .nil)) postgres rfl rfl ["--unique="])
  have parted := Command.Rearranged.build (.parted
    (.cons table (.cons row (.cons insert (.cons postgres .nil)))) known' "" [])
  refine ⟨_, ?_, accepted, (options_free_of_order_and_spelling accepted nofun).2 _
    (.tail (.tail (.tail (.tail .refl joined) exchanged) dropped) parted)⟩
  exact nofun

end SqlBind.CommandLine
