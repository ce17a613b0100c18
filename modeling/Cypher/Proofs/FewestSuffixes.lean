import Cypher.Proofs.AllocatorRuns
import Mathlib.Data.Finset.Card

/-!
# The fewest suffixes

The loop that looks for a free name adds one suffix after the other. It ends,
whatever is taken: the names that it tries are all different, so that it adds
no more suffixes than there are names taken. It stops at the first free name,
the one with the fewest suffixes, also where names were given up and longer
ones are still taken. The bound cannot be lowered: a name that is bound again
and again is tried with as many suffixes as there are parameters.
-/

namespace Cypher.Allocator

/-! ## The names that are tried -/

theorem append_suffixes_zero (name : String) : name ++ suffixes 0 = name := String.append_empty

theorem append_suffixes_succ (name : String) (count : Nat) :
    name ++ suffixes (count + 1) = name ++ takenSuffix ++ suffixes count := by
  rw [suffixes, String.append_assoc]

theorem length_suffixes (count : Nat) : (suffixes count).length = 6 * count := by
  induction count with
  | zero => rfl
  | succ count ih =>
    rw [suffixes, String.length_append, ih, show takenSuffix.length = 6 from rfl]
    omega

/-- No name is tried twice. -/
theorem append_suffixes_injective (name : String) :
    Function.Injective fun count => name ++ suffixes count := by
  intro first second same
  have lengths : (name ++ suffixes first).length = (name ++ suffixes second).length :=
    congrArg String.length same
  simp only [String.length_append, length_suffixes] at lengths
  omega

/-- So many suffixes make a name free, and fewer do not. -/
structure Fewest (names : List String) (name : String) (count : Nat) : Prop where
  free : name ++ suffixes count ∉ names
  taken : ∀ fewer < count, name ++ suffixes fewer ∈ names

variable {names : List String} {name : String} {count : Nat}

theorem fewest_zero_iff : Fewest names name 0 ↔ name ∉ names := by
  constructor
  · intro fewest
    rw [← append_suffixes_zero name]
    exact fewest.free
  · intro free
    exact ⟨by rwa [append_suffixes_zero], nofun⟩

/-- A name that is taken needs one suffix more than the name that is tried after it. -/
theorem fewest_succ_iff :
    Fewest names name (count + 1) ↔ name ∈ names ∧ Fewest names (name ++ takenSuffix) count := by
  constructor
  · intro ⟨free, taken⟩
    refine ⟨?_, ?_, ?_⟩
    · rw [← append_suffixes_zero name]
      exact taken 0 (Nat.succ_pos count)
    · rwa [← append_suffixes_succ]
    · intro fewer inside
      rw [← append_suffixes_succ]
      exact taken (fewer + 1) (Nat.succ_lt_succ inside)
  · intro ⟨present, free, taken⟩
    refine ⟨by rwa [append_suffixes_succ], ?_⟩
    rintro (_ | fewer) inside
    · rwa [append_suffixes_zero]
    · rw [append_suffixes_succ]
      exact taken fewer (Nat.lt_of_succ_lt_succ inside)

/-- There are no more suffixes than different names that are taken. -/
theorem Fewest.le_card (fewest : Fewest names name count) : count ≤ names.toFinset.card := by
  have among : ∀ fewer ∈ Finset.range count, name ++ suffixes fewer ∈ names.toFinset := by
    intro fewer inside
    exact List.mem_toFinset.mpr (fewest.taken fewer (Finset.mem_range.mp inside))
  rw [← Finset.card_range count]
  exact Finset.card_le_card_of_injOn _ among (append_suffixes_injective name).injOn

/-! ## The loop -/

/-- The first free name, looked for with at most so many suffixes. -/
def seek? (names : List String) : Nat → String → Option String
  | 0, name => if name ∈ names then none else some name
  | limit + 1, name => if name ∈ names then seek? names limit (name ++ takenSuffix) else some name

/-- The loop ends just when it may add the fewest suffixes that make the name free. -/
theorem Fewest.seek?_eq (fewest : Fewest names name count) (limit : Nat) :
    seek? names limit name = if count ≤ limit then some (name ++ suffixes count) else none := by
  induction count generalizing name limit with
  | zero =>
    have free := fewest_zero_iff.mp fewest
    rw [if_pos (Nat.zero_le limit), append_suffixes_zero]
    cases limit <;> exact if_neg free
  | succ count ih =>
    obtain ⟨present, rest⟩ := fewest_succ_iff.mp fewest
    cases limit with
    | zero => exact if_pos present
    | succ limit =>
      rw [seek?, if_pos present, ih rest, append_suffixes_succ]
      simp only [Nat.add_le_add_iff_right]

theorem exists_fewest (names : List String) (name : String) :
    ∃ count, Fewest names name count ∧ freshAmong names name = name ++ suffixes count := by
  fun_induction freshAmong names name with
  | case1 name present ih =>
    obtain ⟨count, fewest, same⟩ := ih
    exact ⟨count + 1, fewest_succ_iff.mpr ⟨present, fewest⟩, by rw [same, append_suffixes_succ]⟩
  | case2 name free => exact ⟨0, fewest_zero_iff.mpr free, (append_suffixes_zero name).symm⟩

theorem card_taken_le (allocator : Allocator) :
    allocator.taken.toFinset.card ≤
      allocator.parameters.size + allocator.reserved.toFinset.card := by
  have registered : allocator.parameters.names.toFinset.card ≤ allocator.parameters.size := by
    rw [OrderedMap.size, ← List.length_map Prod.fst]
    exact List.toFinset_card_le _
  rw [taken, List.toFinset_append]
  exact (Finset.card_union_le _ _).trans (Nat.add_le_add_right registered _)

/-- A fresh name is the first of the names that are tried which is neither a parameter nor
reserved. It has at most one suffix for each parameter and for each reserved name; the loop finds it
if it may add that many suffixes, and does not if it may add fewer. -/
theorem freshName_fewest (allocator : Allocator) (name : String) :
    ∃ count, count ≤ allocator.parameters.size + allocator.reserved.toFinset.card ∧
      allocator.freshName name = name ++ suffixes count ∧
      (name ++ suffixes count ∉ allocator.parameters.names ∧
        name ++ suffixes count ∉ allocator.reserved) ∧
      (∀ fewer < count, name ++ suffixes fewer ∈ allocator.parameters.names ∨
        name ++ suffixes fewer ∈ allocator.reserved) ∧
      ∀ limit, seek? allocator.taken limit name =
        if count ≤ limit then some (allocator.freshName name) else none := by
  obtain ⟨count, fewest, same⟩ := exists_fewest allocator.taken name
  refine ⟨count, fewest.le_card.trans allocator.card_taken_le, same, ?_, ?_, ?_⟩
  · exact not_or.mp fun present => fewest.free (List.mem_append.mpr present)
  · intro fewer inside
    exact List.mem_append.mp (fewest.taken fewer inside)
  · intro limit
    rw [fewest.seek?_eq limit, freshName, same]

/-- The loop stops at a name that was given up, although a longer one is taken. -/
example :
    ((ofValues [("a", .null), ("a", .null), ("a", .null)]).remove ["a__aaaa"]).freshName "a" =
      "a__aaaa" := by decide +kernel

/-! ## As many suffixes as names -/

namespace Fewest

theorem of_perm {names' : List String} (fewest : Fewest names name count)
    (same : names.Perm names') : Fewest names' name count where
  free present := fewest.free (same.mem_iff.mpr present)
  taken fewer inside := same.mem_iff.mp (fewest.taken fewer inside)

theorem freshAmong_eq (fewest : Fewest names name count) :
    freshAmong names name = name ++ suffixes count := by
  obtain ⟨other, fewest', same⟩ := exists_fewest names name
  rcases Nat.lt_trichotomy count other with before | rfl | behind
  · exact absurd (fewest'.taken count before) fewest.free
  · exact same
  · exact absurd (fewest.taken other behind) fewest'.free

end Fewest

/-- The first names that are tried. -/
def tried (name : String) (count : Nat) : List String :=
  (List.range count).map fun fewer => name ++ suffixes fewer

theorem fewest_tried (name : String) (count : Nat) : Fewest (tried name count) name count where
  free := by
    intro present
    obtain ⟨fewer, inside, same⟩ := List.mem_map.mp present
    obtain rfl : fewer = count := append_suffixes_injective name same
    exact absurd (List.mem_range.mp inside) (Nat.lt_irrefl fewer)
  taken fewer inside := List.mem_map.mpr ⟨fewer, List.mem_range.mpr inside, rfl⟩

/-- Values that are all bound under one name take the first names that are tried. -/
theorem taken_ofValues_replicate (name : String) (value : Value) (count : Nat) :
    (ofValues (List.replicate count (name, value))).taken.Perm (tried name count) := by
  induction count with
  | zero => exact .rfl
  | succ count ih =>
    have fresh : (ofValues (List.replicate count (name, value))).freshName name =
        name ++ suffixes count := ((fewest_tried name count).of_perm ih.symm).freshAmong_eq
    have last : ofValues (List.replicate (count + 1) (name, value)) =
        ((ofValues (List.replicate count (name, value))).bind name value).2 := by
      rw [ofValues, List.replicate_succ', List.foldl_append]
      rfl
    have more : tried name (count + 1) = tried name count ++ [name ++ suffixes count] := by
      rw [tried, List.range_succ, List.map_append]
      rfl
    rw [last, more]
    refine (taken_bind _ name value).trans ?_
    rw [fresh]
    exact (ih.cons _).trans (List.perm_append_singleton _ _).symm

/-- A name that was bound so often gets one suffix for each name that is taken. -/
theorem freshName_ofValues_replicate (name : String) (value : Value) (count : Nat) :
    let allocator := ofValues (List.replicate count (name, value))
    allocator.taken.length = count ∧ allocator.freshName name = name ++ suffixes count := by
  have same := taken_ofValues_replicate name value count
  refine ⟨?_, ((fewest_tried name count).of_perm same.symm).freshAmong_eq⟩
  rw [same.length_eq, tried, List.length_map, List.length_range]

end Cypher.Allocator
