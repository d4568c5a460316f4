/-
The value of a path. What a segment names in a document is said by two relations:
there is a part under it (`Child`), or there is none, for one of four reasons
(`NoChild`). A path then reaches a part of a document or stops on the way, and its
value in a scope follows from that (`Evaluates`). A document matters only along the
path: two scopes that agree there give the path the same value (`eval_congr`).
-/
import Mathlib.Data.List.Forall2
import SqlBind.Proofs.Effect
import SqlBind.Proofs.Number.Digits
import SqlBind.Proofs.Text.Pieces
import SqlBind.Scope

namespace SqlBind

open Text

/-! ## Entries under a name -/

namespace OrderedMap

variable {α : Type} {entries : List (String × α)} {name : String} {value : α}

/-- The first entry under a name counts. -/
theorem lookup_eq_some_iff : lookup entries name = some value ↔
    ∃ before after, entries = before ++ (name, value) :: after ∧ name ∉ before.map Prod.fst := by
  induction entries with
  | nil => simp [lookup]
  | cons entry entries ih =>
    obtain ⟨k, v⟩ := entry
    rw [lookup]
    constructor
    · intro h
      split at h
      · next same =>
        cases h
        exact ⟨[], entries, by rw [same, List.nil_append], by simp⟩
      · next other =>
        obtain ⟨before, after, rfl, absent⟩ := ih.mp h
        exact ⟨(k, v) :: before, after, rfl, by simpa [Ne.symm other] using absent⟩
    · rintro ⟨_ | ⟨entry, before⟩, after, eq, absent⟩
      · cases eq
        rw [if_pos rfl]
      · cases eq
        obtain ⟨other, absent⟩ : name ≠ k ∧ name ∉ before.map Prod.fst := by simpa using absent
        rw [if_neg (Ne.symm other)]
        exact ih.mpr ⟨before, after, rfl, absent⟩

theorem lookup_eq_none_iff : lookup entries name = none ↔ name ∉ entries.map Prod.fst := by
  induction entries with
  | nil => simp [lookup]
  | cons entry entries ih =>
    obtain ⟨k, v⟩ := entry
    rw [lookup, List.map_cons, List.mem_cons, not_or]
    by_cases same : k = name
    · simp [same]
    · rw [if_neg same, ih]
      exact ⟨fun absent => ⟨Ne.symm same, absent⟩, And.right⟩

/-- In a map, a name has one entry. -/
theorem get?_eq_some_iff {m : OrderedMap α} : m.get? name = some value ↔ (name, value) ∈ m.toList := by
  rw [get?, lookup_eq_some_iff]
  constructor
  · rintro ⟨before, after, eq, -⟩
    rw [eq]
    simp
  · intro mem
    obtain ⟨before, after, eq⟩ := List.append_of_mem mem
    refine ⟨before, after, eq, fun earlier => ?_⟩
    have distinct := m.nodup
    rw [eq, List.map_append, List.nodup_append] at distinct
    exact distinct.2.2 _ earlier _ (by simp) rfl

theorem get?_eq_none_iff {m : OrderedMap α} : m.get? name = none ↔ name ∉ m.keys :=
  lookup_eq_none_iff

end OrderedMap

/-! ## Values of arguments -/

/-- An argument carries a value, as it is, under a tag or as the input of an output. -/
inductive Arg.Carries : Arg → Value → Prop
  | raw (v : Value) : Carries (.raw v) v
  | typed (tag : SqlType) (v : Value) (elementType : Option String) :
      Carries (.typed tag v elementType) v
  | input {tag : SqlType} {input : Arg} {v : Value} (h : Carries input v) :
      Carries (.inOut tag input) v

/-- An argument carries no value: it is a literal, or an output whose input, if it has one,
carries none. -/
inductive Arg.CarriesNone : Arg → Prop
  | literal (fragment : String) : CarriesNone (.literal fragment)
  | out (tag : SqlType) : CarriesNone (.out tag)
  | input {tag : SqlType} {input : Arg} (h : CarriesNone input) : CarriesNone (.inOut tag input)

theorem Arg.value?_eq_some_iff {arg : Arg} {v : Value} : arg.value? = some v ↔ arg.Carries v := by
  constructor
  · intro h
    induction arg with
    | raw =>
      cases h
      exact .raw v
    | typed tag _ elementType =>
      cases h
      exact .typed tag v elementType
    | inOut tag input ih => exact .input (ih h)
    | literal | out => cases h
  · intro h
    induction h with
    | raw | typed => rfl
    | input _ ih => exact ih

theorem Arg.value?_eq_none_iff {arg : Arg} : arg.value? = none ↔ arg.CarriesNone := by
  constructor
  · intro h
    induction arg with
    | literal fragment => exact .literal fragment
    | out tag => exact .out tag
    | inOut tag input ih => exact .input (ih h)
    | raw | typed => cases h
  · intro h
    induction h with
    | literal | out => rfl
    | input _ ih => exact ih

namespace Scope

/-! ## Segments -/

/-- An expression is a path, with blanks around it, of segments with blanks around them and
dots between them. -/
structure Spells (expression path : String) (segments : List String) : Prop where
  trims : Trims expression.toList path.toList
  dotted : ∃ pieces, Pieces '.' path.toList pieces ∧
    List.Forall₂ (fun piece segment => Trims piece segment.toList) pieces segments

theorem forall₂_trims_iff {pieces : List (List Char)} {segments : List String} :
    List.Forall₂ (fun piece (segment : String) => Trims piece segment.toList) pieces segments ↔
      segments = pieces.map fun piece => .ofList (trim piece) := by
  induction pieces generalizing segments with
  | nil => simp
  | cons piece pieces ih =>
    cases segments with
    | nil => simp
    | cons segment segments =>
      rw [List.forall₂_cons, ih, List.map_cons, List.cons.injEq, ← trim_eq_iff,
        ← String.toList_inj, String.toList_ofList, eq_comm]

theorem spells_iff {expression path : String} {names : List String} :
    Spells expression path names ↔ path = Text.trimmed expression ∧ names = segments path := by
  have trimmed : Trims expression.toList path.toList ↔ path = Text.trimmed expression := by
    rw [← trim_eq_iff, Text.trimmed, ← String.toList_inj, String.toList_ofList, eq_comm]
  constructor
  · rintro ⟨trims, pieces, cut, named⟩
    refine ⟨trimmed.mp trims, ?_⟩
    rw [segments, split_eq_iff.mpr cut]
    exact forall₂_trims_iff.mp named
  · rintro ⟨path, names⟩
    exact ⟨trimmed.mpr path, _, split_eq_iff.mp rfl, forall₂_trims_iff.mpr names⟩

theorem segments_ne_nil (path : String) : segments path ≠ [] := by
  rw [segments, Ne, List.map_eq_nil_iff]
  exact (split_eq_iff.mp rfl).some

/-- A segment counts a position: digits, with a plus sign before them at most, that fit a
word of sixty-four bits. -/
def Counts (segment : String) (i : Nat) : Prop :=
  ∃ digits, (segment.toList = digits ∨ segment.toList = '+' :: digits) ∧ digits ≠ [] ∧
    (∀ c ∈ digits, Numeral.isDigit c = true) ∧ Numeral.value digits = i ∧ i < 2 ^ 64

theorem index?_eq_some_iff {segment : String} {i : Nat} :
    index? segment = some i ↔ Counts segment i := by
  rw [index?]
  constructor
  · intro h
    obtain ⟨read, fits⟩ := Option.filter_eq_some_iff.mp h
    obtain ⟨some, digits, value⟩ := Numeral.read?_eq_some_iff.mp read
    refine ⟨_, ?_, some, List.all_eq_true.mp digits, value, by simpa using fits⟩
    split
    · next rest eq => exact .inr eq
    · exact .inl rfl
  · rintro ⟨digits, written, some, all, value, fits⟩
    have read : Numeral.read? digits = Option.some i :=
      Numeral.read?_eq_some_iff.mpr ⟨some, List.all_eq_true.mpr all, value⟩
    refine Option.filter_eq_some_iff.mpr ⟨?_, by simpa using fits⟩
    split
    · next rest eq =>
      rcases written with bare | signed
      · have sign : Numeral.isDigit '+' = true := all '+' (by rw [← bare, eq]; simp)
        cases sign
      · rw [eq] at signed
        cases signed
        exact read
    · next unsigned =>
      rcases written with bare | signed
      · rw [bare]
        exact read
      · exact absurd signed (unsigned digits)

/-! ## Parts of documents -/

/-- A document that is neither an object nor an array. -/
def IsScalar : Json → Prop
  | .obj _ | .arr _ => False
  | _ => True

/-- The part of a document under a segment: the first member of that name, or the item at
the position that it counts, which is inside the array. -/
inductive Child : Json → String → Json → Prop
  | member {before after : List (String × Json)} {field : String} {j : Json}
      (first : field ∉ before.map Prod.fst) : Child (.obj (before ++ (field, j) :: after)) field j
  | item {items : List Json} {field : String} {i : Nat} (counts : Counts field i)
      (inside : i < items.length) : Child (.arr items) field items[i]

/-- Why there is no part of a document under a segment. -/
inductive NoChild : Json → String → EvalFault → Prop
  | missing {members : List (String × Json)} {field : String}
      (absent : field ∉ members.map Prod.fst) : NoChild (.obj members) field (.missingField field)
  | notAnIndex {items : List Json} {field : String} (none : ∀ i, ¬Counts field i) :
      NoChild (.arr items) field (.notAnIndex field)
  | outOfRange {items : List Json} {field : String} {i : Nat} (counts : Counts field i)
      (outside : items.length ≤ i) : NoChild (.arr items) field (.outOfRange i)
  | unreadable {j : Json} {field : String} (scalar : IsScalar j) :
      NoChild j field (.unreadable field)

theorem child_eq_ok_iff {field : String} {j k : Json} :
    child field j = .ok k ↔ Child j field k := by
  constructor
  · intro h
    unfold child at h
    split at h
    · next members =>
      split at h
      · next found =>
        cases h
        obtain ⟨before, after, rfl, first⟩ := OrderedMap.lookup_eq_some_iff.mp found
        exact .member first
      · cases h
    · next items =>
      split at h
      · cases h
      · next i counted =>
        split at h
        · next found =>
          cases h
          obtain ⟨inside, rfl⟩ := List.getElem?_eq_some_iff.mp found
          exact .item (index?_eq_some_iff.mp counted) inside
        · cases h
    · cases h
  · intro h
    cases h with
    | @member before after field j first =>
      rw [child, OrderedMap.lookup_eq_some_iff.mpr ⟨before, after, rfl, first⟩]
    | item counts inside =>
      rw [child, index?_eq_some_iff.mpr counts]
      simp [inside]

theorem child_eq_error_iff {field : String} {j : Json} {fault : EvalFault} :
    child field j = .error fault ↔ NoChild j field fault := by
  constructor
  · intro h
    unfold child at h
    split at h
    · next members =>
      split at h
      · cases h
      · next missing =>
        cases h
        exact .missing (OrderedMap.lookup_eq_none_iff.mp missing)
    · next items =>
      split at h
      · next uncounted =>
        cases h
        refine .notAnIndex fun i counts => ?_
        rw [index?_eq_some_iff.mpr counts] at uncounted
        cases uncounted
      · next i counted =>
        split at h
        · cases h
        · next missing =>
          cases h
          exact .outOfRange (index?_eq_some_iff.mp counted) (List.getElem?_eq_none_iff.mp missing)
    · next noObject noArray =>
      cases h
      refine .unreadable ?_
      cases j with
      | obj members => exact noObject members rfl
      | arr items => exact noArray items rfl
      | null | bool | int | float | str => trivial
  · intro h
    cases h with
    | missing absent => rw [child, OrderedMap.lookup_eq_none_iff.mpr absent]
    | notAnIndex none =>
      have uncounted : index? field = Option.none :=
        Option.eq_none_iff_forall_ne_some.mpr fun i counted => none i (index?_eq_some_iff.mp counted)
      rw [child, uncounted]
    | outOfRange counts outside =>
      rw [child, index?_eq_some_iff.mpr counts]
      simp [outside]
    | unreadable scalar =>
      cases j with
      | obj | arr => exact scalar.elim
      | null | bool | int | float | str => rfl

/-! ## Paths through documents -/

/-- The part of a document at the end of a path. -/
inductive Reaches : Json → List String → Json → Prop
  | here (j : Json) : Reaches j [] j
  | down {j k l : Json} {field : String} {rest : List String} (first : Child j field k)
      (later : Reaches k rest l) : Reaches j (field :: rest) l

/-- A path has no end in a document: on the way to a segment all is well, and there is
no part under that. -/
inductive Stops : Json → List String → EvalFault → Prop
  | here {j : Json} {field : String} {rest : List String} {fault : EvalFault}
      (none : NoChild j field fault) : Stops j (field :: rest) fault
  | down {j k : Json} {field : String} {rest : List String} {fault : EvalFault}
      (first : Child j field k) (later : Stops k rest fault) : Stops j (field :: rest) fault

theorem descend_eq_ok_iff {j k : Json} {path : List String} :
    descend j path = .ok k ↔ Reaches j path k := by
  induction path generalizing j with
  | nil =>
    constructor
    · intro h
      cases h
      exact .here _
    · intro h
      cases h
      rfl
  | cons field rest ih =>
    rw [descend, Except.bind_ok_iff]
    constructor
    · rintro ⟨part, first, later⟩
      exact .down (child_eq_ok_iff.mp first) (ih.mp later)
    · intro h
      cases h with
      | down first later => exact ⟨_, child_eq_ok_iff.mpr first, ih.mpr later⟩

theorem descend_eq_error_iff {j : Json} {path : List String} {fault : EvalFault} :
    descend j path = .error fault ↔ Stops j path fault := by
  induction path generalizing j with
  | nil =>
    constructor
    · intro h
      cases h
    · intro h
      cases h
  | cons field rest ih =>
    constructor
    · intro h
      rw [descend] at h
      cases found : child field j with
      | error e =>
        rw [found] at h
        cases h
        exact .here (child_eq_error_iff.mp found)
      | ok part =>
        rw [found] at h
        exact .down (child_eq_ok_iff.mp found) (ih.mp h)
    · intro h
      cases h with
      | here none =>
        rw [descend, child_eq_error_iff.mpr none]
        rfl
      | down first later =>
        rw [descend, child_eq_ok_iff.mpr first]
        exact ih.mpr later

/-! ## The value of a path -/

/-- What the path of some segments, the first of them a name, comes to in a scope. -/
inductive Evaluates (scope : NamedArgs) (path : String) : List String → Except DbError Arg → Prop
  | unbound {head : String} {fields : List String} (absent : head ∉ scope.keys) :
      Evaluates scope path (head :: fields) (.error (.eval path (.unbound head)))
  | whole {head : String} {arg : Arg} (bound : (head, arg) ∈ scope.toList) :
      Evaluates scope path [head] (.ok arg)
  | valueless {head : String} {fields : List String} {arg : Arg}
      (bound : (head, arg) ∈ scope.toList) (some : fields ≠ []) (none : arg.CarriesNone) :
      Evaluates scope path (head :: fields) (.error (.eval path (.noFields head)))
  | reached {head : String} {fields : List String} {arg : Arg} {v : Value} {j : Json}
      (bound : (head, arg) ∈ scope.toList) (some : fields ≠ []) (carries : arg.Carries v)
      (reaches : Reaches v.toJson fields j) : Evaluates scope path (head :: fields) (Arg.ofJson j)
  | stopped {head : String} {fields : List String} {arg : Arg} {v : Value} {fault : EvalFault}
      (bound : (head, arg) ∈ scope.toList) (carries : arg.Carries v)
      (stops : Stops v.toJson fields fault) :
      Evaluates scope path (head :: fields) (.error (.eval path fault))

section
variable {scope other : NamedArgs} {expression path head : String} {fields : List String}

theorem eval_unbound (spells : Spells expression path (head :: fields))
    (absent : head ∉ scope.keys) : eval scope expression = .error (.eval path (.unbound head)) := by
  obtain ⟨rfl, names⟩ := spells_iff.mp spells
  simp only [eval, ← names, OrderedMap.get?_eq_none_iff.mpr absent]

theorem eval_whole {arg : Arg} (spells : Spells expression path [head])
    (bound : (head, arg) ∈ scope.toList) : eval scope expression = .ok arg := by
  obtain ⟨rfl, names⟩ := spells_iff.mp spells
  simp only [eval, ← names, OrderedMap.get?_eq_some_iff.mpr bound, List.isEmpty_nil, if_true]

theorem eval_valueless {arg : Arg} (spells : Spells expression path (head :: fields))
    (bound : (head, arg) ∈ scope.toList) (some : fields ≠ []) (none : arg.CarriesNone) :
    eval scope expression = .error (.eval path (.noFields head)) := by
  obtain ⟨rfl, names⟩ := spells_iff.mp spells
  simp only [eval, ← names, OrderedMap.get?_eq_some_iff.mpr bound, List.isEmpty_iff, if_neg some,
    Arg.value?_eq_none_iff.mpr none]

/-- Below an argument with a value, the document of the value decides. -/
theorem eval_below {arg : Arg} {v : Value} (spells : Spells expression path (head :: fields))
    (bound : (head, arg) ∈ scope.toList) (some : fields ≠ []) (carries : arg.Carries v) :
    eval scope expression =
      match descend v.toJson fields with
      | .error fault => .error (.eval path fault)
      | .ok j => Arg.ofJson j := by
  obtain ⟨rfl, names⟩ := spells_iff.mp spells
  cases reached : descend v.toJson fields <;>
    simp only [eval, ← names, OrderedMap.get?_eq_some_iff.mpr bound, List.isEmpty_iff, if_neg some,
      Arg.value?_eq_some_iff.mpr carries, reached]

theorem evaluates_eval (scope : NamedArgs) (spells : Spells expression path (head :: fields)) :
    Evaluates scope path (head :: fields) (eval scope expression) := by
  cases found : scope.get? head with
  | none =>
    have absent := OrderedMap.get?_eq_none_iff.mp found
    rw [eval_unbound spells absent]
    exact .unbound absent
  | some arg =>
    have bound := OrderedMap.get?_eq_some_iff.mp found
    cases fields with
    | nil =>
      rw [eval_whole spells bound]
      exact .whole bound
    | cons field rest =>
      have below : field :: rest ≠ [] := List.cons_ne_nil field rest
      cases carried : arg.value? with
      | none =>
        have none := Arg.value?_eq_none_iff.mp carried
        rw [eval_valueless spells bound below none]
        exact .valueless bound below none
      | some v =>
        have carries := Arg.value?_eq_some_iff.mp carried
        rw [eval_below spells bound below carries]
        cases part : descend v.toJson (field :: rest) with
        | error fault => exact .stopped bound carries (descend_eq_error_iff.mp part)
        | ok j => exact .reached bound below carries (descend_eq_ok_iff.mp part)

theorem Evaluates.eval_eq {r : Except DbError Arg} (h : Evaluates scope path (head :: fields) r)
    (spells : Spells expression path (head :: fields)) : eval scope expression = r := by
  cases h with
  | unbound absent => exact eval_unbound spells absent
  | whole bound => exact eval_whole spells bound
  | valueless bound some none => exact eval_valueless spells bound some none
  | reached bound some carries reaches =>
    rw [eval_below spells bound some carries, descend_eq_ok_iff.mpr reaches]
  | stopped bound carries stops =>
    have some : fields ≠ [] := by
      rintro rfl
      cases stops
    rw [eval_below spells bound some carries, descend_eq_error_iff.mpr stops]

end

/-! ## What the value does not depend on -/

/-- Two documents agree along a path: they have the same part at its end, or on the way a
segment under which both have none, for the same reason. -/
inductive AgreeAlong : List String → Json → Json → Prop
  | here (j : Json) : AgreeAlong [] j j
  | down {field : String} {rest : List String} {j j' k k' : Json} (first : Child j field k)
      (first' : Child j' field k') (later : AgreeAlong rest k k') : AgreeAlong (field :: rest) j j'
  | stop {field : String} {rest : List String} {j j' : Json} {fault : EvalFault}
      (none : NoChild j field fault) (none' : NoChild j' field fault) :
      AgreeAlong (field :: rest) j j'

theorem AgreeAlong.descend_eq {path : List String} {j j' : Json} (h : AgreeAlong path j j') :
    descend j path = descend j' path := by
  induction h with
  | here => rfl
  | down first first' later ih =>
    rw [descend, descend, child_eq_ok_iff.mpr first, child_eq_ok_iff.mpr first']
    exact ih
  | stop none none' =>
    rw [descend, descend, child_eq_error_iff.mpr none, child_eq_error_iff.mpr none']

/-- Two scopes agree at a path: neither binds its first segment, or both bind it to one
argument, or to two without a value or with documents that agree along the others. -/
inductive Agree (scope other : NamedArgs) : List String → Prop
  | unbound {head : String} {fields : List String} (absent : head ∉ scope.keys)
      (absent' : head ∉ other.keys) : Agree scope other (head :: fields)
  | same {head : String} {arg : Arg} (bound : (head, arg) ∈ scope.toList)
      (bound' : (head, arg) ∈ other.toList) : Agree scope other [head]
  | valueless {head : String} {fields : List String} {arg arg' : Arg}
      (bound : (head, arg) ∈ scope.toList) (bound' : (head, arg') ∈ other.toList)
      (some : fields ≠ []) (none : arg.CarriesNone) (none' : arg'.CarriesNone) :
      Agree scope other (head :: fields)
  | along {head : String} {fields : List String} {arg arg' : Arg} {v v' : Value}
      (bound : (head, arg) ∈ scope.toList) (bound' : (head, arg') ∈ other.toList)
      (some : fields ≠ []) (carries : arg.Carries v) (carries' : arg'.Carries v')
      (agree : AgreeAlong fields v.toJson v'.toJson) : Agree scope other (head :: fields)

/-- **What lies off the path does not matter.** -/
theorem eval_congr {scope other : NamedArgs} {expression path : String} {names : List String}
    (spells : Spells expression path names) (agree : Agree scope other names) :
    eval other expression = eval scope expression := by
  cases agree with
  | unbound absent absent' => rw [eval_unbound spells absent, eval_unbound spells absent']
  | same bound bound' => rw [eval_whole spells bound, eval_whole spells bound']
  | valueless bound bound' some none none' =>
    rw [eval_valueless spells bound some none, eval_valueless spells bound' some none']
  | along bound bound' some carries carries' agree =>
    rw [eval_below spells bound some carries, eval_below spells bound' some carries',
      agree.descend_eq]

/-- **Evaluation is nested lookup.** An expression is a path of segments in one way; the
value of the path is the argument under its first segment if that is the only one, and
else the argument of the document that the others reach in the document of that
argument's value. Whatever keeps a segment from naming anything is the fault that is
answered, an index outside its array included; and scopes that agree along the path
answer the same. -/
theorem scope_evaluation_is_nested_lookup (scope : NamedArgs) (expression : String) :
    ∃ path head fields,
      (∀ p names, Spells expression p names ↔ p = path ∧ names = head :: fields) ∧
      (∀ r, eval scope expression = r ↔ Evaluates scope path (head :: fields) r) ∧
      ∀ other, Agree scope other (head :: fields) → eval other expression = eval scope expression := by
  obtain ⟨head, fields, names⟩ :=
    List.exists_cons_of_ne_nil (segments_ne_nil (Text.trimmed expression))
  have spells : Spells expression (Text.trimmed expression) (head :: fields) :=
    spells_iff.mpr ⟨rfl, names.symm⟩
  refine ⟨_, head, fields, fun p others => ?_, fun r => ⟨?_, (·.eval_eq spells)⟩, fun other =>
    eval_congr spells⟩
  · rw [spells_iff]
    exact and_congr_right fun same => by rw [same, names]
  · rintro rfl
    exact evaluates_eval scope spells

/-- An item of a list in a row, with blanks in the path and a sign before the index: another
row with other members and items gives it the same value, tag included. -/
theorem scope_evaluation_is_nested_lookup_item :
    let tagged : Json := .obj [("INT", .str "2")]
    let scope : NamedArgs := .ofList [("row", .raw (.json
      (.obj [("id", .int 9), ("tags", .arr [.str "a", tagged])])))]
    let other : NamedArgs := .ofList [("id", .null), ("row", .raw (.json
      (.obj [("tags", .arr [.null, tagged, .int 3]), ("id", .null)])))]
    Agree scope other ["row", "tags", "+1"] ∧
      eval scope " row . tags.+1 " = .ok (.typed .int (.int 2) none) ∧
      eval other " row . tags.+1 " = .ok (.typed .int (.int 2) none) := by
  intro tagged scope other
  have first : Counts "+1" 1 := index?_eq_some_iff.mp rfl
  have tags : Child (.obj [("id", .int 9), ("tags", .arr [.str "a", tagged])]) "tags"
      (.arr [.str "a", tagged]) := child_eq_ok_iff.mp rfl
  have item : Child (.arr [.str "a", tagged]) "+1" tagged := .item first (by decide)
  have tags' : Child (.obj [("tags", .arr [.null, tagged, .int 3]), ("id", .null)]) "tags"
      (.arr [.null, tagged, .int 3]) := child_eq_ok_iff.mp rfl
  have item' : Child (.arr [.null, tagged, .int 3]) "+1" tagged := .item first (by decide)
  have bound : ("row", Arg.raw (.json (.obj [("id", .int 9), ("tags", .arr [.str "a", tagged])]))) ∈
      scope.toList := OrderedMap.get?_eq_some_iff.mp rfl
  have agree : Agree scope other ["row", "tags", "+1"] :=
    .along bound (OrderedMap.get?_eq_some_iff.mp rfl) (by simp) (.raw _) (.raw _)
      (.down tags tags' (.down item item' (.here tagged)))
  obtain ⟨path, head, fields, spells, value, congr⟩ :=
    scope_evaluation_is_nested_lookup scope " row . tags.+1 "
  obtain ⟨-, names⟩ := (spells "row . tags.+1" ["row", "tags", "+1"]).mp
    (spells_iff.mpr ⟨by decide, by decide⟩)
  rw [← names] at value congr
  have reached : Evaluates scope path ["row", "tags", "+1"] (.ok (.typed .int (.int 2) none)) :=
    .reached bound (by simp) (.raw _) (.down tags (.down item (.here tagged)))
  have answer := (value _).mpr reached
  exact ⟨agree, answer, (congr other agree).trans answer⟩

end Scope
end SqlBind
