/-!
# Ordered maps

A map from names to values that keeps the order in which its names came. A new
value for a name that is present takes the place of the old one, and erasing
keeps the order of the rest.
-/

namespace Cypher

/-- Sets the value of a name in a list of entries: in place, or at the end when the name is new. -/
def setEntry {α : Type u} (name : String) (value : α) : List (String × α) → List (String × α)
  | [] => [(name, value)]
  | entry :: rest =>
      if entry.1 = name then (name, value) :: rest else entry :: setEntry name value rest

/-- The value of the first entry of that name. -/
def findNamed? {α : Type u} (name : String) : List (String × α) → Option α
  | [] => none
  | entry :: rest => if entry.1 = name then some entry.2 else findNamed? name rest

theorem map_fst_setEntry {α : Type u} (name : String) (value : α) (entries : List (String × α)) :
    (setEntry name value entries).map Prod.fst =
      if name ∈ entries.map Prod.fst then entries.map Prod.fst
      else entries.map Prod.fst ++ [name] := by
  induction entries with
  | nil => simp [setEntry]
  | cons entry rest ih =>
    by_cases same : entry.1 = name
    · simp [setEntry, same]
    · have other : ¬ name = entry.1 := fun equal => same equal.symm
      simp only [setEntry, same, if_false, List.map_cons, ih, List.mem_cons, other, false_or]
      split <;> simp

theorem nodup_setEntry {α : Type u} (name : String) (value : α) {entries : List (String × α)}
    (distinct : (entries.map Prod.fst).Nodup) :
    ((setEntry name value entries).map Prod.fst).Nodup := by
  rw [map_fst_setEntry]
  split
  · exact distinct
  · next absent =>
    rw [List.nodup_append]
    refine ⟨distinct, by simp, ?_⟩
    rintro a member b last rfl
    simp only [List.mem_singleton] at last
    exact absent (last ▸ member)

theorem setEntry_of_not_mem {α : Type u} {name : String} (value : α) {entries : List (String × α)}
    (absent : name ∉ entries.map Prod.fst) :
    setEntry name value entries = entries ++ [(name, value)] := by
  induction entries with
  | nil => rfl
  | cons entry rest ih =>
    simp only [List.map_cons, List.mem_cons, not_or] at absent
    rw [setEntry, if_neg (Ne.symm absent.1), ih absent.2]
    rfl

/-- Entries in order, no name twice. -/
structure OrderedMap (α : Type u) where
  entries : List (String × α)
  distinct : (entries.map Prod.fst).Nodup

namespace OrderedMap

variable {α β : Type u}

@[ext] theorem ext {first second : OrderedMap α} (same : first.entries = second.entries) :
    first = second := by
  cases first; cases second; simp_all

def empty : OrderedMap α := ⟨[], List.nodup_nil⟩

instance : Inhabited (OrderedMap α) := ⟨empty⟩
instance : EmptyCollection (OrderedMap α) := ⟨empty⟩

def names (map : OrderedMap α) : List String := map.entries.map Prod.fst

def size (map : OrderedMap α) : Nat := map.entries.length

def isEmpty (map : OrderedMap α) : Bool := map.entries.isEmpty

def get? (map : OrderedMap α) (name : String) : Option α := findNamed? name map.entries

def contains (map : OrderedMap α) (name : String) : Bool := (map.get? name).isSome

/-- A present name keeps its place and takes the new value; a new name comes last. -/
def insert (map : OrderedMap α) (name : String) (value : α) : OrderedMap α :=
  ⟨setEntry name value map.entries, nodup_setEntry name value map.distinct⟩

/-- The rest keeps its order. -/
def erase (map : OrderedMap α) (name : String) : OrderedMap α :=
  ⟨map.entries.filter (fun entry => entry.1 != name),
    map.distinct.sublist (List.Sublist.map _ List.filter_sublist)⟩

/-- Every entry inserted in turn. -/
def insertAll (map : OrderedMap α) (entries : List (String × α)) : OrderedMap α :=
  entries.foldl (fun done entry => done.insert entry.1 entry.2) map

def ofList (entries : List (String × α)) : OrderedMap α := empty.insertAll entries

/-- The entries that get a new value, in their order. -/
def filterMap (select : α → Option β) (map : OrderedMap α) : OrderedMap β where
  entries := map.entries.filterMap fun entry => (select entry.2).map fun value => (entry.1, value)
  distinct := by
    refine map.distinct.sublist ?_
    induction map.entries with
    | nil => simp
    | cons entry rest ih =>
      cases kept : select entry.2 with
      | none => simpa [List.filterMap_cons, kept] using ih.cons entry.1
      | some value => simpa [List.filterMap_cons, kept] using ih.cons_cons entry.1

@[simp] theorem entries_empty : (empty : OrderedMap α).entries = [] := rfl

@[simp] theorem entries_insert (map : OrderedMap α) (name : String) (value : α) :
    (map.insert name value).entries = setEntry name value map.entries := rfl

@[simp] theorem entries_erase (map : OrderedMap α) (name : String) :
    (map.erase name).entries = map.entries.filter (fun entry => entry.1 != name) := rfl

@[simp] theorem names_insert (map : OrderedMap α) (name : String) (value : α) :
    (map.insert name value).names =
      if name ∈ map.names then map.names else map.names ++ [name] :=
  map_fst_setEntry name value map.entries

theorem findNamed?_isSome (name : String) (entries : List (String × α)) :
    (findNamed? name entries).isSome = true ↔ name ∈ entries.map Prod.fst := by
  induction entries with
  | nil => simp [findNamed?]
  | cons entry rest ih =>
    by_cases same : entry.1 = name
    · simp [findNamed?, same]
    · have other : ¬ name = entry.1 := fun equal => same equal.symm
      simp only [findNamed?, same, if_false, ih, List.map_cons, List.mem_cons, other, false_or]

theorem contains_iff (map : OrderedMap α) (name : String) :
    map.contains name = true ↔ name ∈ map.names :=
  findNamed?_isSome name map.entries

end OrderedMap
end Cypher
