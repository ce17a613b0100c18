import Cypher.Compile
import Cypher.Proofs.FreshPayload
import Cypher.Proofs.TidyDrafts

/-!
# The parameters of compiled payloads

A compiled statement refers to every one of its parameters exactly once and to
nothing else, however the clauses are nested and whatever the names are.
-/

namespace Cypher

open Lexing (lexemes references)
open Fragment (Keyed reference)

theorem Clause.Fresh.genuine {clause : Clause} (fresh : clause.Fresh) : clause.Genuine := by
  induction clause using Clause.induction with
  | plain clause noBody => exact .plain noBody
  | nested clause body nested ih =>
    obtain ⟨unwritten, clauses⟩ := fresh.inside nested
    have pending : Query.clauses body = body.pending := by simp [Query.clauses, unwritten]
    refine .nested nested (by simp [unwritten]) fun inner member => ih inner member ?_
    rw [pending] at member
    exact clauses inner member

theorem allParameters_fillAll (names : List String) (fragments : List (Fragment Ref)) :
    Fragment.allParameters (Query.fillAll names fragments) =
      (fragments.flatMap Fragment.parameters).map (Ref.resolve names) := by
  rw [Fragment.allParameters_eq, Query.fillAll, List.flatMap_map, List.map_flatMap]
  simp [Fragment.fill, Fragment.parameters_map]

/-- The names of the parameters that clauses bind are those that their fragments refer to. -/
theorem allParameters_settle {clauses : List Clause} (fresh : ∀ clause ∈ clauses, clause.Fresh) :
    (Fragment.allParameters (settle Query.fillAll (Clause.askAll clauses) .empty).1).Perm
      (settle Query.fillAll (Clause.askAll clauses) .empty).2.parameters.names := by
  have covers := Asking.covers_askAll fun clause member => Clause.covers_ask (fresh clause member)
  rw [← Clause.askAll_eq] at covers
  obtain ⟨new, grown, covered⟩ := covers []
  have names := Asking.names_grantAll .empty new []
  rw [List.nil_append] at grown
  rw [settle_eq, grown, names, allParameters_fillAll]
  exact covered.map _

/-- A query of fresh clauses, written for the first time. -/
theorem Query.references_write {clauses : List Clause} {home : AllocatorId} {done : Query}
    {after : Allocator} (fresh : ∀ clause ∈ clauses, clause.Fresh)
    (raw : ∀ clause ∈ clauses, ∀ text ∈ clause.rawTexts, Keyed text)
    (written : Query.write ⟨[], clauses, home⟩ .empty = .ok (done, after)) :
    (references (lexemes done.text.toList)).Perm (after.parameters.names.map reference) := by
  have genuine : Query.Genuine ⟨[], clauses, home⟩ :=
    ⟨nofun, fun clause member => (fresh clause member).genuine⟩
  have texts : ∀ text ∈ Clause.rawTextsBody done, Keyed text := by
    rw [Clause.rawTextsBody_eq, Query.clauses_write written, List.forall_mem_flatMap]
    exact raw
  have tidy := (genuine.write written).tidy texts
  obtain ⟨_, rfl, rfl⟩ := Query.write_eq_ok written
  rw [Query.fragments_settled] at tidy
  rw [Query.text, String.toList_ofList, Query.fragments_settled, Fragment.references_joined tidy]
  exact (allParameters_settle fresh).map reference

/-- A compiled payload is what is written of its clauses. -/
theorem exists_write_of_compile {payload : Json} {clauses : List Clause} {compiled : Compiled}
    (read : Payload.readClauses soleAllocator payload = .ok clauses)
    (done : compile payload = .ok compiled) :
    ∃ query after, Query.write ⟨[], clauses, soleAllocator⟩ .empty = .ok (query, after) ∧
      compiled = ⟨query.text, after.parameters⟩ := by
  rw [compile_eq_compiled, read] at done
  obtain ⟨result, finished, rfl⟩ := map_eq_ok (show Query.compiled _ = .ok compiled from done)
  obtain ⟨⟨query, after⟩, written, same⟩ := bind_eq_ok finished
  cases same
  exact ⟨query, after, written, rfl⟩

/-- A compiled payload whose texts have no quotes and no dollar sign refers to each of its
parameters exactly once, and to nothing else. -/
theorem compile_references {payload : Json} {clauses : List Clause} {compiled : Compiled}
    (read : Payload.readClauses soleAllocator payload = .ok clauses)
    (raw : ∀ clause ∈ clauses, ∀ text ∈ clause.rawTexts, Keyed text)
    (done : compile payload = .ok compiled) :
    (references (lexemes compiled.statement.toList)).Perm
      (compiled.parameters.names.map reference) := by
  obtain ⟨query, after, written, rfl⟩ := exists_write_of_compile read done
  have fresh := Payload.returns_readClauses soleAllocator payload clauses read
  exact Query.references_write fresh raw written

/-- Two comparisons of one property, and a value in a call. -/
def comparedAndCalled : Json :=
  .array [
    .object [("match", .object [("identifier", .string "n"),
      ("where", .object [("a b", .object [("eq", .string "x"), ("gt", .string "y")])])])],
    .object [("call", .array [
      .object [("unwind", .object [("values", .array [.string "z"]), ("as", .string "w")])],
      .object [("raw", .string "RETURN w")]])]]

theorem compile_references_comparedAndCalled :
    ∃ compiled, compile comparedAndCalled = .ok compiled ∧
      (references (lexemes compiled.statement.toList)).Perm
        (["a b", "a b__aaaa", "unwind"].map reference) := by
  have named : (compile comparedAndCalled).toOption.map (fun done => done.parameters.names) =
      some ["a b", "a b__aaaa", "unwind"] := by decide +kernel
  have read : Payload.readClauses soleAllocator comparedAndCalled =
      .ok ((Payload.readClauses soleAllocator comparedAndCalled).toOption.getD []) := rfl
  cases done : compile comparedAndCalled with
  | error error =>
    rw [done] at named
    cases named
  | ok compiled =>
    rw [done] at named
    rw [← Option.some.inj named]
    exact ⟨compiled, rfl, compile_references read (by decide +kernel) done⟩

end Cypher
