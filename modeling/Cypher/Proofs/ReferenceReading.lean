import Cypher.Proofs.AllocatorRuns
import Cypher.Proofs.CompiledReferences

/-!
# What a reference denotes

A parameter is kept under its name, and referred to by the name as it is
written. Written names are read back to the names that they stand for, so a
reference denotes its own parameter unless the name of the parameter has the
quoted form already. Such a name comes from the caller as it is: no suffix makes
one.
-/

namespace Cypher

open Fragment (reference)

namespace Name

/-- A name stands for itself unless it has the quoted form. -/
theorem read_eq_self_iff (name : List Char) : read name = name ↔ isQuoted name = false := by
  constructor
  · intro same
    rw [Bool.eq_false_iff]
    intro quoted
    obtain ⟨content, rfl⟩ := isQuoted_iff.mp quoted
    rw [read_quoted] at same
    -- what is quoted is shorter than the name
    have shorter := length_doubled content
    have long := congrArg List.length same
    simp only [Name.quoted, List.length_append, List.length_cons] at long
    omega
  · intro plain
    rw [isQuoted, Option.isSome_eq_false_iff, Option.isNone_iff_eq_none] at plain
    rw [read, plain]
    rfl

/-- A name in the quoted form ends with a backtick. -/
theorem getLast?_of_isQuoted {name : List Char} (quoted : isQuoted name = true) :
    name.getLast? = some backtick := by
  obtain ⟨content, rfl⟩ := isQuoted_iff.mp quoted
  exact List.getLast?_concat

end Name

/-! ## Names that are granted -/

namespace Allocator

theorem getLast?_suffixes (count : Nat) : (suffixes (count + 1)).toList.getLast? = some 'a' := by
  induction count with
  | zero => rfl
  | succ count ih =>
    rw [suffixes, String.toList_append, List.getLast?_append, ih]
    rfl

/-- A suffix leaves no name in the quoted form. -/
theorem not_isQuoted_suffixes (name : String) (count : Nat) :
    Name.isQuoted (name ++ suffixes (count + 1)).toList = false := by
  rw [Bool.eq_false_iff]
  intro quoted
  have last := Name.getLast?_of_isQuoted quoted
  rw [String.toList_append, List.getLast?_append, getLast?_suffixes, Option.some_or] at last
  exact absurd last (by decide)

/-- A parameter that is there after requests was there before them, or was asked for. -/
theorem mem_names_grantAll {allocator : Allocator} {requests : List Request} {name : String}
    (member : name ∈ (allocator.grantAll requests).2.parameters.names) :
    name ∈ allocator.parameters.names ∨
      ∃ wanted value count, Request.parameter wanted value ∈ requests ∧
        name = wanted ++ suffixes count := by
  induction requests generalizing allocator with
  | nil => exact .inl member
  | cons request rest ih =>
    rcases ih member with before | ⟨wanted, value, count, asked, same⟩
    · cases request with
      | identifier given => exact .inl before
      | parameter given value =>
        have names : (allocator.bind given value).2.parameters.names =
            allocator.parameters.names ++ [allocator.freshName given] := by
          rw [OrderedMap.names, entries_bind, List.map_append]
          rfl
        replace before : name ∈ (allocator.bind given value).2.parameters.names := before
        rw [names, List.mem_append, List.mem_singleton] at before
        rcases before with old | rfl
        · exact .inl old
        · obtain ⟨count, same⟩ := allocator.exists_freshName_eq given
          exact .inr ⟨given, value, count, List.mem_cons_self, same⟩
    · exact .inr ⟨wanted, value, count, List.mem_cons_of_mem _ asked, same⟩

end Allocator

/-- The names that clauses ask parameters for. -/
def Clause.wanted (clauses : List Clause) : List String :=
  ((Clause.askAll clauses).run []).2.filterMap fun
    | .parameter name _ => some name
    | .identifier _ => none

theorem Clause.mem_wanted {clauses : List Clause} {name : String} {value : Value}
    (asked : .parameter name value ∈ ((Clause.askAll clauses).run []).2) :
    name ∈ Clause.wanted clauses :=
  List.mem_filterMap.mpr ⟨_, asked, rfl⟩

/-! ## References -/

/-- The name that a reference denotes. -/
def denoted (reference : List Char) : List Char := Name.read reference.tail

theorem denoted_reference (name : String) : denoted (reference name) = Name.read name.toList :=
  Lexing.read_written name.toList

/-- The parameters of a compiled payload are those of its clauses. -/
theorem parameters_compile {payload : Json} {clauses : List Clause} {compiled : Compiled}
    (read : Payload.readClauses soleAllocator payload = .ok clauses)
    (done : compile payload = .ok compiled) :
    compiled.parameters =
      (Allocator.empty.grantAll ((Clause.askAll clauses).run []).2).2.parameters := by
  obtain ⟨query, after, written, rfl⟩ := exists_write_of_compile read done
  obtain ⟨_, _, same⟩ := Query.write_eq_ok written
  exact congrArg Allocator.parameters same

/-- The reference to a parameter of a compiled payload denotes that parameter just when its name
has not the quoted form. A name of the quoted form is one that a clause asked for. When no clause
asks for such a name, then all references denote their own parameters, each another one. -/
theorem compile_denotes {payload : Json} {clauses : List Clause} {compiled : Compiled}
    (read : Payload.readClauses soleAllocator payload = .ok clauses)
    (done : compile payload = .ok compiled) :
    (∀ name ∈ compiled.parameters.names,
      (denoted (reference name) = name.toList ↔ Name.isQuoted name.toList = false) ∧
        (Name.isQuoted name.toList = true → name ∈ Clause.wanted clauses)) ∧
    ((∀ name ∈ Clause.wanted clauses, Name.isQuoted name.toList = false) →
      compiled.parameters.names.map (fun name => denoted (reference name)) =
          compiled.parameters.names.map String.toList ∧
        (compiled.parameters.names.map fun name => denoted (reference name)).Nodup) := by
  have own (name : String) :
      denoted (reference name) = name.toList ↔ Name.isQuoted name.toList = false := by
    rw [denoted_reference, Name.read_eq_self_iff]
  have asked : ∀ name ∈ compiled.parameters.names,
      Name.isQuoted name.toList = true → name ∈ Clause.wanted clauses := by
    intro name member quoted
    rw [parameters_compile read done] at member
    rcases Allocator.mem_names_grantAll member with nothing | ⟨wanted, value, count, request, rfl⟩
    · cases nothing
    · cases count with
      | zero =>
        rw [Allocator.suffixes, String.append_empty]
        exact Clause.mem_wanted request
      | succ count =>
        rw [Allocator.not_isQuoted_suffixes] at quoted
        cases quoted
  refine ⟨fun name member => ⟨own name, asked name member⟩, fun calm => ?_⟩
  have same : compiled.parameters.names.map (fun name => denoted (reference name)) =
      compiled.parameters.names.map String.toList := by
    refine List.map_congr_left fun name member => (own name).mpr ?_
    rw [Bool.eq_false_iff]
    intro quoted
    exact Bool.eq_false_iff.mp (calm name (asked name member quoted)) quoted
  refine ⟨same, ?_⟩
  rw [same]
  exact compiled.parameters.distinct.map fun _ _ => String.toList_inj.mp

/-- Properties with backticks that do not quote them. -/
def halfQuoted : Json :=
  .object [("match", .object [("identifier", .string "n"),
    ("where", .object [("`a", .object [("eq", .string "x"), ("gt", .string "y")]),
      ("a b", .string "z")])])]

theorem compile_denotes_halfQuoted :
    ∃ compiled, compile halfQuoted = .ok compiled ∧
      compiled.parameters.names.map (fun name => denoted (reference name)) =
        ["`a", "a b", "`a__aaaa"].map String.toList := by
  have named : (compile halfQuoted).toOption.map (fun done => done.parameters.names) =
      some ["`a", "a b", "`a__aaaa"] := by decide +kernel
  have read : Payload.readClauses soleAllocator halfQuoted =
      .ok ((Payload.readClauses soleAllocator halfQuoted).toOption.getD []) := rfl
  cases done : compile halfQuoted with
  | error error =>
    rw [done] at named
    cases named
  | ok compiled =>
    rw [done] at named
    rw [← Option.some.inj named]
    exact ⟨compiled, rfl, ((compile_denotes read done).2 (by decide +kernel)).1⟩

/-- A property, and the same property with its quotes. -/
def spelledTwice : Json :=
  .object [("match", .object [("identifier", .string "n"),
    ("where", .object [("`a b`", .string "x"), ("a b", .string "y")])])]

/-- Two parameters with one reference, which denotes only one of them. -/
theorem compile_spelledTwice :
    (compile spelledTwice).toOption.map (fun done => done.parameters.names) =
        some ["`a b`", "a b"] ∧
      reference "`a b`" = reference "a b" ∧
      denoted (reference "`a b`") ≠ "`a b`".toList := by
  decide +kernel

end Cypher
