/-
Maps from names to values that remember the order in which the names came. A
name that is inserted again keeps its place and gets the new value. Rows, named
arguments and result records are such maps.
-/
namespace SqlBind

/-- Entries in order, no two under one name. -/
structure OrderedMap (α : Type) where
  toList : List (String × α)
  nodup : (toList.map Prod.fst).Nodup

namespace OrderedMap

variable {α β : Type}

/-- The entries after `name` is given `value`: in its place, or at the end. -/
def put (entries : List (String × α)) (name : String) (value : α) : List (String × α) :=
  match entries with
  | [] => [(name, value)]
  | (k, v) :: rest =>
    if k = name then (name, value) :: rest else (k, v) :: put rest name value

/-- The value under a name. -/
def lookup (entries : List (String × α)) (name : String) : Option α :=
  match entries with
  | [] => none
  | (k, v) :: rest => if k = name then some v else lookup rest name

/-- A name that is there keeps its place, a new one comes last. -/
theorem keys_put (entries : List (String × α)) (name : String) (value : α) :
    (put entries name value).map Prod.fst =
      if name ∈ entries.map Prod.fst then entries.map Prod.fst
      else entries.map Prod.fst ++ [name] := by
  induction entries with
  | nil => simp [put]
  | cons entry rest ih =>
    obtain ⟨k, v⟩ := entry
    by_cases h : k = name
    · simp [put, h]
    · have h' : name ≠ k := fun e => h e.symm
      by_cases m : name ∈ rest.map Prod.fst <;> simp_all [put]

theorem nodup_put {entries : List (String × α)} (h : (entries.map Prod.fst).Nodup)
    (name : String) (value : α) : ((put entries name value).map Prod.fst).Nodup := by
  rw [keys_put]
  split
  · exact h
  · next absent =>
    rw [List.nodup_append]
    refine ⟨h, by simp, ?_⟩
    intro a ha b hb
    simp only [List.mem_singleton] at hb
    subst hb
    exact fun e => absent (e ▸ ha)

/-- The map without entries. -/
def empty : OrderedMap α := ⟨[], by simp⟩

instance : Inhabited (OrderedMap α) := ⟨empty⟩

/-- The map with `value` under `name`. -/
def insert (m : OrderedMap α) (name : String) (value : α) : OrderedMap α :=
  ⟨put m.toList name value, nodup_put m.nodup name value⟩

/-- The value under a name, if the name is there. -/
def get? (m : OrderedMap α) (name : String) : Option α := lookup m.toList name

/-- Whether a name is there. -/
def contains (m : OrderedMap α) (name : String) : Bool := (m.get? name).isSome

/-- The names in order. -/
def keys (m : OrderedMap α) : List String := m.toList.map Prod.fst

/-- The values in order. -/
def values (m : OrderedMap α) : List α := m.toList.map Prod.snd

def size (m : OrderedMap α) : Nat := m.toList.length

def isEmpty (m : OrderedMap α) : Bool := m.toList.isEmpty

/-- The entries inserted one after the other. -/
def ofList (entries : List (String × α)) : OrderedMap α :=
  entries.foldl (fun m entry => m.insert entry.1 entry.2) empty

theorem put_of_notMem {entries : List (String × α)} {name : String}
    (absent : name ∉ entries.map Prod.fst) (value : α) :
    put entries name value = entries ++ [(name, value)] := by
  induction entries with
  | nil => rfl
  | cons entry rest ih =>
    obtain ⟨k, v⟩ := entry
    rw [List.map_cons, List.mem_cons, not_or] at absent
    rw [put, if_neg fun same => absent.1 same.symm, ih absent.2, List.cons_append]

/-- New names come last, in their own order. -/
theorem toList_foldl_insert (m : OrderedMap α) (entries : List (String × α))
    (distinct : ((m.toList ++ entries).map Prod.fst).Nodup) :
    (entries.foldl (fun m entry => m.insert entry.1 entry.2) m).toList = m.toList ++ entries := by
  induction entries generalizing m with
  | nil => rw [List.append_nil]; rfl
  | cons entry rest ih =>
    have absent : entry.1 ∉ m.toList.map Prod.fst := by
      rw [List.map_append, List.nodup_append] at distinct
      exact fun mem => distinct.2.2 _ mem _ (by simp) rfl
    have last : (m.insert entry.1 entry.2).toList = m.toList ++ [entry] := put_of_notMem absent entry.2
    rw [List.foldl_cons, ih _ (by rw [last, List.append_assoc]; exact distinct), last,
      List.append_assoc]
    rfl

/-- Entries of distinct names are kept as they are. -/
theorem toList_ofList {entries : List (String × α)} (distinct : (entries.map Prod.fst).Nodup) :
    (ofList entries).toList = entries := toList_foldl_insert empty entries distinct

/-- The same names with other values. -/
def map (f : α → β) (m : OrderedMap α) : OrderedMap β where
  toList := m.toList.map fun entry => (entry.1, f entry.2)
  nodup := by
    have h := m.nodup
    simpa [List.map_map, Function.comp_def] using h

end OrderedMap
end SqlBind
