import Cypher.Allocator
import Mathlib.Data.List.Nodup

/-!
# Runs of an allocator

An allocator is seeded and then called in any order, for parameters, for
reserved names, for a look at the next name and to give parameters up. However
it is called, no name is handed out while it is taken, and what is bound stays
where it is, with its value, until it is given up.
-/

namespace Cypher.Allocator

/-! ## Names and their suffixes -/

/-- So many suffixes in a row. -/
def suffixes : Nat → String
  | 0 => ""
  | count + 1 => takenSuffix ++ suffixes count

/-- What is granted is the name that is asked for, with suffixes behind it. -/
theorem exists_freshAmong_eq (names : List String) (name : String) :
    ∃ count, freshAmong names name = name ++ suffixes count := by
  fun_induction freshAmong names name with
  | case1 name _ ih =>
    obtain ⟨count, same⟩ := ih
    refine ⟨count + 1, ?_⟩
    rw [same, suffixes, String.append_assoc]
  | case2 name _ => exact ⟨0, (String.append_empty).symm⟩

theorem exists_freshName_eq (allocator : Allocator) (name : String) :
    ∃ count, allocator.freshName name = name ++ suffixes count :=
  exists_freshAmong_eq allocator.taken name

/-! ## Calls -/

/-- What an allocator is called for. -/
inductive Call
  /-- Bind a value. Its name is one of the caller, or one that stands for a clause. -/
  | bind (name : String) (value : Value)
  /-- Reserve a name. -/
  | reserve (name : String)
  /-- Ask for a name and leave it free. -/
  | propose (name : String)
  /-- Give up parameters. -/
  | remove (names : List String)

namespace Call

/-- The name that is asked for. -/
def wanted? : Call → Option String
  | bind name _ => some name
  | reserve name => some name
  | propose name => some name
  | remove _ => none

/-- The value that is bound. -/
def value? : Call → Option Value
  | bind _ value => some value
  | _ => none

/-- Whether the name that is answered is taken from then on. -/
def takes : Call → Bool
  | bind _ _ => true
  | reserve _ => true
  | _ => false

/-- The parameters that are given up. -/
def removed : Call → List String
  | remove names => names
  | _ => []

end Call

/-- The answer to a call, which is a name if one is asked for, and the allocator after it. -/
def call (allocator : Allocator) : Call → Option String × Allocator
  | .bind name value => (some (allocator.bind name value).1, (allocator.bind name value).2)
  | .reserve name => (some (allocator.reserve name).1, (allocator.reserve name).2)
  | .propose name => (some (allocator.freshName name), allocator)
  | .remove names => (none, allocator.remove names)

/-- Calls in turn, each with its answer, and the allocator after them. -/
def run (allocator : Allocator) : List Call → List (Call × Option String) × Allocator
  | [] => ([], allocator)
  | first :: rest =>
      let (answer, after) := allocator.call first
      let (history, last) := after.run rest
      ((first, answer) :: history, last)

/-- The names that the calls have taken. -/
def namesTaken (history : List (Call × Option String)) : List String :=
  history.filterMap fun entry => if entry.1.takes then entry.2 else none

/-- The values that the calls have bound, under the names that were the answers. -/
def valuesBound (history : List (Call × Option String)) : List (String × Value) :=
  history.filterMap fun entry =>
    entry.2.bind fun name => entry.1.value?.map fun value => (name, value)

/-- The calls that seed an allocator. -/
def seeding (values : List (String × Value)) : List Call :=
  values.map fun entry => .bind entry.1 entry.2

theorem run_append (allocator : Allocator) (first second : List Call) :
    allocator.run (first ++ second) =
      ((allocator.run first).1 ++ ((allocator.run first).2.run second).1,
        ((allocator.run first).2.run second).2) := by
  induction first generalizing allocator with
  | nil => rfl
  | cons call rest ih => simp [run, ih]

theorem run_seeding (allocator : Allocator) (values : List (String × Value)) :
    (allocator.run (seeding values)).2 =
      values.foldl (fun allocator entry => (allocator.bind entry.1 entry.2).2) allocator := by
  induction values generalizing allocator with
  | nil => rfl
  | cons entry rest ih => exact ih _

/-! ## What one call does -/

theorem freshName_not_registered (allocator : Allocator) (name : String) :
    allocator.freshName name ∉ allocator.parameters.names := by
  intro present
  exact allocator.freshName_not_taken name (List.mem_append_left _ present)

theorem entries_bind (allocator : Allocator) (name : String) (value : Value) :
    (allocator.bind name value).2.parameters.entries =
      allocator.parameters.entries ++ [(allocator.freshName name, value)] :=
  setEntry_of_not_mem value (allocator.freshName_not_registered name)

theorem entries_remove (allocator : Allocator) (names : List String) :
    (allocator.remove names).parameters.entries =
      allocator.parameters.entries.filter fun entry => decide (entry.1 ∉ names) := by
  unfold remove
  generalize allocator.parameters = parameters
  induction names generalizing parameters with
  | nil => simp
  | cons name rest ih =>
    rw [List.foldl_cons, ih, OrderedMap.entries_erase, List.filter_filter]
    refine List.filter_congr fun entry _ => ?_
    simp [bne, Bool.and_comm]
    rfl

/-- Binding takes the name that it answers with. -/
theorem taken_bind (allocator : Allocator) (name : String) (value : Value) :
    (allocator.bind name value).2.taken.Perm (allocator.freshName name :: allocator.taken) := by
  have names : (allocator.bind name value).2.parameters.names =
      allocator.parameters.names ++ [allocator.freshName name] := by
    rw [OrderedMap.names, entries_bind, List.map_append]
    rfl
  show ((allocator.bind name value).2.parameters.names ++ allocator.reserved).Perm _
  rw [names, List.append_assoc]
  exact List.perm_middle

/-- So does reserving. -/
theorem taken_reserve (allocator : Allocator) (name : String) :
    (allocator.reserve name).2.taken.Perm (allocator.freshName name :: allocator.taken) := by
  show (allocator.parameters.names ++ (allocator.reserved ++ [allocator.freshName name])).Perm _
  rw [← List.append_assoc]
  exact List.perm_append_singleton _ _

/-- A call takes the name that it answers with, unless it only proposes it or gives names up. -/
theorem taken_call (allocator : Allocator) {call : Call} (keeps : call.removed = []) :
    (allocator.call call).2.taken.Perm
      (namesTaken [(call, (allocator.call call).1)] ++ allocator.taken) := by
  cases call with
  | bind name value => exact allocator.taken_bind name value
  | reserve name => exact allocator.taken_reserve name
  | propose name => exact .rfl
  | remove names =>
    obtain rfl : names = [] := keeps
    exact .rfl

/-- No name is taken twice, neither by parameters nor by reserved names. -/
theorem nodup_taken_call {allocator : Allocator} (distinct : allocator.taken.Nodup) (call : Call) :
    (allocator.call call).2.taken.Nodup := by
  have fresh (name : String) : (allocator.freshName name :: allocator.taken).Nodup :=
    List.nodup_cons.mpr ⟨allocator.freshName_not_taken name, distinct⟩
  cases call with
  | bind name value => exact (allocator.taken_bind name value).nodup_iff.mpr (fresh name)
  | reserve name => exact (allocator.taken_reserve name).nodup_iff.mpr (fresh name)
  | propose name => exact distinct
  | remove names =>
    refine distinct.sublist (List.Sublist.append_right ?_ _)
    rw [OrderedMap.names, OrderedMap.names]
    refine List.Sublist.map _ ?_
    show (allocator.remove names).parameters.entries.Sublist _
    rw [entries_remove]
    exact List.filter_sublist

/-- The answer to a call that asks for a name. -/
theorem call_answer (allocator : Allocator) {call : Call} {wanted : String}
    (asks : call.wanted? = some wanted) :
    (allocator.call call).1 = some (allocator.freshName wanted) := by
  cases call with
  | remove names => cases asks
  | _ =>
    obtain rfl := Option.some.inj asks
    rfl

/-- Parameters that a call does not give up stay in their order, with their values. -/
theorem sublist_entries_call (allocator : Allocator) (call : Call) :
    (allocator.parameters.entries.filter fun entry => decide (entry.1 ∉ call.removed)).Sublist
      (allocator.call call).2.parameters.entries := by
  cases call with
  | bind name value =>
    show List.Sublist _ (allocator.bind name value).2.parameters.entries
    rw [entries_bind]
    exact List.filter_sublist.trans (List.sublist_append_left _ _)
  | reserve name => exact List.filter_sublist
  | propose name => exact List.filter_sublist
  | remove names =>
    show List.Sublist _ (allocator.remove names).parameters.entries
    rw [entries_remove]
    exact .refl _

/-- What a call binds comes last, under the name that is the answer. -/
theorem entries_call (allocator : Allocator) {call : Call} (keeps : call.removed = []) :
    (allocator.call call).2.parameters.entries =
      allocator.parameters.entries ++ valuesBound [(call, (allocator.call call).1)] := by
  cases call with
  | bind name value => exact allocator.entries_bind name value
  | reserve name => exact (List.append_nil _).symm
  | propose name => exact (List.append_nil _).symm
  | remove names =>
    obtain rfl : names = [] := keeps
    exact (List.append_nil _).symm

/-! ## What a run does -/

theorem nodup_taken_run {allocator : Allocator} (distinct : allocator.taken.Nodup)
    (calls : List Call) : (allocator.run calls).2.taken.Nodup := by
  induction calls generalizing allocator with
  | nil => exact distinct
  | cons call rest ih => exact ih (nodup_taken_call distinct call)

theorem sublist_entries_run (allocator : Allocator) (calls : List Call) :
    (allocator.parameters.entries.filter fun entry =>
        decide (entry.1 ∉ calls.flatMap Call.removed)).Sublist
      (allocator.run calls).2.parameters.entries := by
  induction calls generalizing allocator with
  | nil => exact List.filter_sublist
  | cons call rest ih =>
    -- what the first call leaves is not given up by the others either
    have both : (allocator.parameters.entries.filter fun entry =>
          decide (entry.1 ∉ (call :: rest).flatMap Call.removed)) =
        (allocator.parameters.entries.filter fun entry => decide (entry.1 ∉ call.removed)).filter
          fun entry => decide (entry.1 ∉ rest.flatMap Call.removed) := by
      rw [List.filter_filter]
      refine List.filter_congr fun entry _ => ?_
      simp [Bool.and_comm]
    rw [both]
    exact ((allocator.sublist_entries_call call).filter _).trans (ih _)

theorem namesTaken_append (first second : List (Call × Option String)) :
    namesTaken (first ++ second) = namesTaken first ++ namesTaken second :=
  List.filterMap_append

theorem valuesBound_append (first second : List (Call × Option String)) :
    valuesBound (first ++ second) = valuesBound first ++ valuesBound second :=
  List.filterMap_append

theorem run_cons (allocator : Allocator) (call : Call) (rest : List Call) :
    allocator.run (call :: rest) =
      ([(call, (allocator.call call).1)] ++ ((allocator.call call).2.run rest).1,
        ((allocator.call call).2.run rest).2) :=
  rfl

theorem taken_run (allocator : Allocator) {calls : List Call}
    (keep : ∀ call ∈ calls, call.removed = []) :
    (allocator.run calls).2.taken.Perm
      (namesTaken (allocator.run calls).1 ++ allocator.taken) := by
  induction calls generalizing allocator with
  | nil => exact .rfl
  | cons call rest ih =>
    simp only [List.forall_mem_cons] at keep
    rw [run_cons, namesTaken_append]
    calc ((allocator.call call).2.run rest).2.taken.Perm _ := ih _ keep.2
      _ |>.Perm _ := (allocator.taken_call keep.1).append_left _
      _ |>.Perm _ := by
        rw [← List.append_assoc]
        exact List.perm_append_comm.append_right _

theorem entries_run (allocator : Allocator) {calls : List Call}
    (keep : ∀ call ∈ calls, call.removed = []) :
    (allocator.run calls).2.parameters.entries =
      allocator.parameters.entries ++ valuesBound (allocator.run calls).1 := by
  induction calls generalizing allocator with
  | nil => exact (List.append_nil _).symm
  | cons call rest ih =>
    simp only [List.forall_mem_cons] at keep
    rw [run_cons, valuesBound_append, ih _ keep.2, allocator.entries_call keep.1, List.append_assoc]

/-- The values that are bound are those that the calls give, in order. -/
theorem map_snd_valuesBound_run (allocator : Allocator) (calls : List Call) :
    (valuesBound (allocator.run calls).1).map Prod.snd = calls.filterMap Call.value? := by
  induction calls generalizing allocator with
  | nil => rfl
  | cons call rest ih =>
    rw [run_cons, valuesBound_append, List.map_append, ih]
    cases call <;> rfl

theorem seeding_keeps (values : List (String × Value)) :
    ∀ call ∈ seeding values, call.removed = [] := by
  intro call member
  obtain ⟨entry, _, rfl⟩ := List.mem_map.mp member
  rfl

theorem values_seeding (values : List (String × Value)) :
    (seeding values).filterMap Call.value? = values.map Prod.snd := by
  induction values with
  | nil => rfl
  | cons entry rest ih => exact congrArg (entry.2 :: ·) ih

/-- An allocator that was seeded and called. No name in it is taken twice. What another call is
granted is the name that it asks for with suffixes, and was free. Whatever is called later, what is
not given up keeps its value and its order. If nothing was given up, then all names that were taken
are different, and the parameters are the values that were given, in order, each under the name that
was the answer. -/
theorem run_laws (seeds : List (String × Value)) (calls : List Call) :
    let history := (empty.run (seeding seeds ++ calls)).1
    let allocator := (empty.run (seeding seeds ++ calls)).2
    allocator = ((ofValues seeds).run calls).2 ∧
      allocator.taken.Nodup ∧
      (∀ call wanted, Call.wanted? call = some wanted → ∃ count,
        (allocator.call call).1 = some (wanted ++ suffixes count) ∧
          wanted ++ suffixes count ∉ allocator.taken) ∧
      (∀ later : List Call, (allocator.parameters.entries.filter fun entry =>
          decide (entry.1 ∉ later.flatMap Call.removed)).Sublist
        (allocator.run later).2.parameters.entries) ∧
      ((∀ names, Call.remove names ∉ calls) →
        (namesTaken history).Nodup ∧
          allocator.parameters.entries = valuesBound history ∧
          allocator.parameters.entries.map Prod.snd =
            seeds.map Prod.snd ++ calls.filterMap Call.value? ∧
          allocator.parameters.size = seeds.length + (calls.filterMap Call.value?).length) := by
  intro history allocator
  have nothing : empty.taken.Nodup := List.nodup_nil
  have distinct : allocator.taken.Nodup := nodup_taken_run nothing _
  refine ⟨?_, distinct, ?_, allocator.sublist_entries_run, ?_⟩
  · show (empty.run _).2 = _
    rw [run_append, run_seeding]
    rfl
  · intro call wanted asks
    obtain ⟨count, same⟩ := allocator.exists_freshName_eq wanted
    refine ⟨count, ?_, ?_⟩
    · rw [call_answer allocator asks, same]
    · rw [← same]
      exact allocator.freshName_not_taken wanted
  · intro none
    have keep : ∀ call ∈ seeding seeds ++ calls, call.removed = [] := by
      intro call member
      rcases List.mem_append.mp member with seed | called
      · exact seeding_keeps seeds call seed
      · cases call with
        | remove names => exact absurd called (none names)
        | _ => rfl
    have entries : allocator.parameters.entries = valuesBound history := empty.entries_run keep
    have values : allocator.parameters.entries.map Prod.snd =
        seeds.map Prod.snd ++ calls.filterMap Call.value? := by
      rw [entries, map_snd_valuesBound_run, List.filterMap_append, values_seeding]
    refine ⟨?_, entries, values, ?_⟩
    · have taken := (empty.taken_run keep).nodup_iff.mp distinct
      exact (List.nodup_append.mp taken).1
    · rw [OrderedMap.size, ← List.length_map, values, List.length_append, List.length_map]

/-- A seed that has a suffix already, and calls for the names of both seeds. -/
theorem run_laws_suffixedSeed :
    let seeds : List (String × Value) := [("id", .int 1), ("id__aaaa", .int 2)]
    let calls : List Call := [.bind "id" (.int 3), .reserve "id__aaaa", .propose "id", .bind "x" .null]
    (namesTaken (empty.run (seeding seeds ++ calls)).1).Nodup ∧
      ((ofValues seeds).run calls).2.parameters.entries.map Prod.snd =
        [.int 1, .int 2, .int 3, .null] := by
  intro seeds calls
  have keeps : ∀ names, Call.remove names ∉ calls := by
    intro names
    simp [calls]
  obtain ⟨same, _, _, _, kept⟩ := run_laws seeds calls
  obtain ⟨distinct, _, values, _⟩ := kept keeps
  refine ⟨distinct, ?_⟩
  rw [← same]
  exact values

end Cypher.Allocator
