import Cypher.Proofs.Asking
import Cypher.Query

/-!
# Nested clauses

Induction over clauses whose bodies have clauses again, written ones and pending
ones, and what it means that the fragments of written clauses are theirs.
-/

namespace Cypher

/-- The body of a clause that has one. -/
def Clause.body? : Clause → Option (Body Clause)
  | .forEach _ _ body => some body
  | .call body => some body
  | _ => none

mutual

theorem Clause.induction {motive : Clause → Prop}
    (plain : ∀ clause : Clause, clause.body? = none → motive clause)
    (nested : ∀ (clause : Clause) (body : Body Clause), clause.body? = some body →
      (∀ inner ∈ Query.clauses body, motive inner) → motive clause)
    (clause : Clause) : motive clause := by
  cases clause with
  | forEach item list body => exact nested _ body rfl (Clause.induction_body plain nested body)
  | call body => exact nested _ body rfl (Clause.induction_body plain nested body)
  | _ => exact plain _ rfl

theorem Clause.induction_body {motive : Clause → Prop}
    (plain : ∀ clause : Clause, clause.body? = none → motive clause)
    (nested : ∀ (clause : Clause) (body : Body Clause), clause.body? = some body →
      (∀ inner ∈ Query.clauses body, motive inner) → motive clause)
    (body : Body Clause) : ∀ inner ∈ Query.clauses body, motive inner := by
  obtain ⟨written, pending, allocator⟩ := body
  intro inner member
  rcases List.mem_append.mp member with first | last
  · obtain ⟨entry, there, rfl⟩ := List.mem_map.mp first
    exact Clause.induction_written plain nested written entry there
  · exact Clause.induction_pending plain nested pending inner last

theorem Clause.induction_written {motive : Clause → Prop}
    (plain : ∀ clause : Clause, clause.body? = none → motive clause)
    (nested : ∀ (clause : Clause) (body : Body Clause), clause.body? = some body →
      (∀ inner ∈ Query.clauses body, motive inner) → motive clause)
    (written : List (Clause × Fragment String)) : ∀ entry ∈ written, motive entry.1 := by
  cases written with
  | nil => exact fun _ none => nomatch none
  | cons entry rest =>
    obtain ⟨clause, fragment⟩ := entry
    simp only [List.forall_mem_cons]
    exact ⟨Clause.induction plain nested clause, Clause.induction_written plain nested rest⟩

theorem Clause.induction_pending {motive : Clause → Prop}
    (plain : ∀ clause : Clause, clause.body? = none → motive clause)
    (nested : ∀ (clause : Clause) (body : Body Clause), clause.body? = some body →
      (∀ inner ∈ Query.clauses body, motive inner) → motive clause)
    (pending : List Clause) : ∀ clause ∈ pending, motive clause := by
  cases pending with
  | nil => exact fun _ none => nomatch none
  | cons clause rest =>
    simp only [List.forall_mem_cons]
    exact ⟨Clause.induction plain nested clause, Clause.induction_pending plain nested rest⟩

end

/-- The drafts of clauses are drafted in order. -/
theorem Clause.askAll_eq (clauses : List Clause) :
    Clause.askAll clauses = Cypher.askAll Clause.ask clauses := by
  induction clauses with
  | nil => simp [Clause.askAll, Cypher.askAll]
  | cons clause rest ih => simp [Clause.askAll, Cypher.askAll, ih]

/-- Clauses are checked in order. -/
theorem Clause.checkAll_eq (home : AllocatorId) (clauses : List Clause) :
    Clause.checkAll home clauses = checkEach (Clause.check home) clauses := by
  induction clauses with
  | nil => rw [Clause.checkAll, checkEach]
  | cons clause rest ih => rw [Clause.checkAll, checkEach, ih]

/-! ## Fragments and their clauses -/

/-- The fragment is what the clause becomes with some names for what it asks for. -/
def Rendered (entry : Clause × Fragment String) : Prop :=
  ∃ asked names, entry.2 = Fragment.fill names (entry.1.ask.run asked).1

/-- The fragments of what is written in the clause, at any depth, are those of their clauses. -/
inductive Clause.Genuine : Clause → Prop
  | plain {clause : Clause} : clause.body? = none → Genuine clause
  | nested {clause : Clause} {body : Body Clause} : clause.body? = some body →
      (∀ entry ∈ body.written, Rendered entry) →
      (∀ inner ∈ Query.clauses body, Genuine inner) → Genuine clause

theorem Clause.Genuine.inside {clause : Clause} {body : Body Clause} (genuine : clause.Genuine)
    (nested : clause.body? = some body) :
    (∀ entry ∈ body.written, Rendered entry) ∧ ∀ inner ∈ Query.clauses body, inner.Genuine := by
  cases genuine with
  | plain noBody => simp [nested] at noBody
  | nested nested' written clauses =>
    obtain rfl := Option.some.inj (nested.symm.trans nested')
    exact ⟨written, clauses⟩

/-- The fragments of what is written in the query are those of their clauses. -/
structure Query.Genuine (query : Query) : Prop where
  written : ∀ entry ∈ query.written, Rendered entry
  clauses : ∀ clause ∈ query.clauses, clause.Genuine

/-- Each of the results is the draft of its item. -/
theorem askAll_drafts {α β : Type} (draft : α → Asking β) (items : List α) (asked : List Request) :
    List.Forall₂ (fun item result => ∃ asked, result = ((draft item).run asked).1) items
      ((askAll draft items).run asked).1 := by
  induction items generalizing asked with
  | nil => exact .nil
  | cons item rest ih => exact .cons ⟨asked, rfl⟩ (ih _)

/-- The clauses with the fragments that they are written as. -/
theorem rendered_zip (clauses : List Clause) (names : List String) (asked : List Request) :
    ∀ entry ∈ clauses.zip (Query.fillAll names ((Clause.askAll clauses).run asked).1),
      Rendered entry := by
  have pairs := askAll_drafts Clause.ask clauses asked
  rw [Clause.askAll_eq]
  generalize ((Cypher.askAll Clause.ask clauses).run asked).1 = drafts at pairs ⊢
  induction pairs with
  | nil => simp
  | cons drafted _ ih =>
    obtain ⟨asked, rfl⟩ := drafted
    simp only [Query.fillAll, List.map_cons, List.zip_cons_cons, List.forall_mem_cons] at ih ⊢
    exact ⟨⟨asked, names, rfl⟩, ih⟩

theorem length_askAll_run (clauses : List Clause) (asked : List Request) :
    ((Clause.askAll clauses).run asked).1.length = clauses.length := by
  rw [Clause.askAll_eq]
  exact (askAll_drafts Clause.ask clauses asked).length_eq.symm

/-- Writing a query checks all that is pending and then settles the drafts. -/
theorem Query.write_eq (query : Query) (allocator : Allocator) :
    query.write allocator = (Clause.checkAll query.allocator query.pending).map fun _ =>
      (⟨query.written ++ query.pending.zip
          (settle fillAll (Clause.askAll query.pending) allocator).1, [], query.allocator⟩,
        (settle fillAll (Clause.askAll query.pending) allocator).2) := by
  rw [Query.write]
  cases Clause.checkAll query.allocator query.pending <;> rfl

theorem Query.exists_write {query : Query}
    (checked : Clause.checkAll query.allocator query.pending = .ok ()) (allocator : Allocator) :
    ∃ done after, query.write allocator = .ok (done, after) := by
  rw [Query.write_eq, checked]
  exact ⟨_, _, rfl⟩

theorem Query.write_eq_ok {query done : Query} {allocator after : Allocator}
    (written : query.write allocator = .ok (done, after)) :
    Clause.checkAll query.allocator query.pending = .ok () ∧
      done = ⟨query.written ++ query.pending.zip
        (settle fillAll (Clause.askAll query.pending) allocator).1, [], query.allocator⟩ ∧
      after = (settle fillAll (Clause.askAll query.pending) allocator).2 := by
  rw [Query.write_eq] at written
  cases checked : Clause.checkAll query.allocator query.pending with
  | error error =>
    rw [checked] at written
    cases written
  | ok passed =>
    rw [checked] at written
    cases written
    exact ⟨rfl, rfl, rfl⟩

theorem length_settled (clauses : List Clause) (allocator : Allocator) :
    (settle Query.fillAll (Clause.askAll clauses) allocator).1.length = clauses.length :=
  (List.length_map _).trans (length_askAll_run clauses [])

theorem map_fst_zip_settled (clauses : List Clause) (allocator : Allocator) :
    (clauses.zip (settle Query.fillAll (Clause.askAll clauses) allocator).1).map Prod.fst =
      clauses :=
  List.map_fst_zip (Nat.le_of_eq (length_settled clauses allocator).symm)

theorem map_snd_zip_settled (clauses : List Clause) (allocator : Allocator) :
    (clauses.zip (settle Query.fillAll (Clause.askAll clauses) allocator).1).map Prod.snd =
      (settle Query.fillAll (Clause.askAll clauses) allocator).1 :=
  List.map_snd_zip (Nat.le_of_eq (length_settled clauses allocator))

/-- The fragments that are written are put behind those that were. -/
theorem Query.fragments_settled (written : List (Clause × Fragment String)) (pending : List Clause)
    (home : AllocatorId) (allocator : Allocator) :
    Query.fragments ⟨written ++ pending.zip (settle fillAll (Clause.askAll pending) allocator).1,
        [], home⟩ =
      written.map Prod.snd ++ (settle fillAll (Clause.askAll pending) allocator).1 := by
  rw [Query.fragments, List.map_append, map_snd_zip_settled]

/-- Writing a query keeps its clauses. -/
theorem Query.clauses_write {query done : Query} {allocator after : Allocator}
    (written : query.write allocator = .ok (done, after)) : done.clauses = query.clauses := by
  obtain ⟨_, rfl, _⟩ := Query.write_eq_ok written
  rw [Query.clauses, List.map_append, map_fst_zip_settled, List.append_nil, Query.clauses]

/-- Writing a query writes the fragments of its clauses. -/
theorem Query.Genuine.write {query done : Query} {allocator after : Allocator}
    (genuine : query.Genuine) (written : query.write allocator = .ok (done, after)) :
    done.Genuine := by
  have clauses := Query.clauses_write written
  obtain ⟨_, rfl, _⟩ := Query.write_eq_ok written
  constructor
  · intro entry member
    rcases List.mem_append.mp member with old | new
    · exact genuine.written entry old
    · exact rendered_zip _ _ _ entry new
  · rw [clauses]
    exact genuine.clauses

end Cypher
