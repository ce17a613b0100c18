import Cypher.Value.Basic

/-!
# Name allocation

An allocator hands out names, for parameters and for identifiers, no name
twice. A name that is taken is tried again with a suffix until it is free.
Reserved names are never parameters, and are never handed out again.
-/

namespace Cypher

/-- The parameters in the order in which they were bound, and the reserved names. -/
structure Allocator where
  parameters : OrderedMap Value
  reserved : List String

/-- What is appended to a name that is taken. -/
def takenSuffix : String := "__aaaa"

/-- What an allocator is asked for. -/
inductive Request
  /-- A parameter for a value, named as the text says if that is free. -/
  | parameter (name : String) (value : Value)
  /-- A name that stands for no parameter. -/
  | identifier (name : String)

namespace Allocator

def empty : Allocator := ⟨.empty, []⟩

instance : Inhabited Allocator := ⟨empty⟩

/-- Every name that may not be handed out. -/
def taken (allocator : Allocator) : List String :=
  allocator.parameters.names ++ allocator.reserved

/-- How many of the names are at least as long as a name. -/
def longer (names : List String) (name : String) : Nat :=
  names.countP fun other => name.length ≤ other.length

theorem longer_append_lt {names : List String} {name : String} (present : name ∈ names) :
    longer names (name ++ takenSuffix) < longer names name := by
  have size : (name ++ takenSuffix).length = name.length + 6 := by
    rw [String.length_append]; rfl
  have fewer : ∀ others : List String,
      longer others (name ++ takenSuffix) ≤ longer others name := by
    intro others
    refine List.countP_mono_left fun other _ long => ?_
    simp only [size, decide_eq_true_eq] at long ⊢
    omega
  induction names with
  | nil => cases present
  | cons other rest ih =>
    have tail := fewer rest
    simp only [longer, List.countP_cons, size, decide_eq_true_eq] at *
    cases present with
    | head =>
      -- the name itself is not as long as the suffixed one, and this makes the count smaller
      have short : ¬ name.length + 6 ≤ name.length := by omega
      simp only [short, if_false, Nat.le_refl, if_true]
      omega
    | tail _ inside =>
      have step := ih inside
      split <;> split <;> omega

/-- The name with as many suffixes as it takes to be none of the names. -/
def freshAmong (names : List String) (name : String) : String :=
  if name ∈ names then freshAmong names (name ++ takenSuffix) else name
termination_by longer names name
decreasing_by exact longer_append_lt ‹_›

/-- The name that a request for `name` would be granted. -/
def freshName (allocator : Allocator) (name : String) : String :=
  freshAmong allocator.taken name

/-- Binds a value under a fresh name. -/
def bind (allocator : Allocator) (name : String) (value : Value) : String × Allocator :=
  let fresh := allocator.freshName name
  (fresh, { allocator with parameters := allocator.parameters.insert fresh value })

/-- Reserves a fresh name. -/
def reserve (allocator : Allocator) (name : String) : String × Allocator :=
  let fresh := allocator.freshName name
  (fresh, { allocator with reserved := allocator.reserved ++ [fresh] })

/-- Grants one request. -/
def grant (allocator : Allocator) : Request → String × Allocator
  | .parameter name value => allocator.bind name value
  | .identifier name => allocator.reserve name

/-- Grants requests in turn; the names come in the order of the requests. -/
def grantAll (allocator : Allocator) : List Request → List String × Allocator
  | [] => ([], allocator)
  | request :: rest =>
      let (name, after) := allocator.grant request
      let (names, last) := after.grantAll rest
      (name :: names, last)

/-- Gives up parameters; their names may be handed out again. -/
def remove (allocator : Allocator) (names : List String) : Allocator :=
  { allocator with parameters := names.foldl OrderedMap.erase allocator.parameters }

/-- The allocator after binding the values under their names in turn. -/
def ofValues (values : List (String × Value)) : Allocator :=
  values.foldl (fun allocator entry => (allocator.bind entry.1 entry.2).2) empty

theorem freshAmong_not_mem (names : List String) (name : String) :
    freshAmong names name ∉ names := by
  fun_induction freshAmong names name with
  | case1 _ _ ih => exact ih
  | case2 _ absent => exact absent

theorem freshName_not_taken (allocator : Allocator) (name : String) :
    allocator.freshName name ∉ allocator.taken :=
  freshAmong_not_mem _ _

example : (ofValues [("a", .null), ("a", .null), ("a", .null)]).parameters.names =
    ["a", "a__aaaa", "a__aaaa__aaaa"] := by decide +kernel

end Allocator
end Cypher
