import Cypher.Proofs.Atomicity

/-!
# Statements made on the way

A query can be asked for its statement while clauses are still added to it.
Clauses are rendered once, in the order in which they were added, so it makes no
difference when they are rendered: in the end the query compiles to what it
would have compiled to if it had been asked only once.
-/

namespace Cypher.Query

/-- The query and its allocator after a result, whichever it is. -/
def left {α : Type} : EStateM.Result Error (Query × Allocator) α → Query × Allocator
  | .ok _ after => after
  | .error _ after => after

/-- Makes the statement in place, and takes all parameters that its allocator has then. -/
def compileInPlace (query : Query) (allocator : Allocator) :
    EStateM.Result Error (Query × Allocator) Compiled :=
  match query.statementInPlace allocator with
  | .ok text (done, after) => .ok ⟨text, after.parameters⟩ (done, after)
  | .error error undone => .error error undone

/-- What is done to a query that has its allocator to itself. -/
inductive Move
  /-- Add clauses, one or several at a time. -/
  | append (clauses : List Clause)
  /-- Add the clauses of a payload. -/
  | payload (json : Json)
  /-- Add the clauses of a payload that is given as text. -/
  | text (given : String)
  | statement
  | compile

namespace Move

/-- The query and its allocator afterwards. What is refused adds nothing. -/
def apply (state : Query × Allocator) : Move → Query × Allocator
  | append clauses => (state.1.addAll clauses, state.2)
  | payload json => ((state.1.addPayload json).toOption.getD state.1, state.2)
  | text given => ((state.1.addText given).toOption.getD state.1, state.2)
  | statement => left (state.1.statementInPlace state.2)
  | compile => left (state.1.compileInPlace state.2)

/-- The clauses that are added to a query with that allocator. -/
def clauses (home : AllocatorId) : Move → List Clause
  | append clauses => clauses
  | payload json => (Payload.readClauses home json).toOption.getD []
  | text given => ((Json.read given).toOption.bind fun json =>
      (Payload.readClauses home json).toOption).getD []
  | statement => []
  | compile => []

end Move

/-! ## Rendering on from where it stopped -/

theorem addAll_nil (query : Query) : query.addAll [] = query := by
  rw [addAll, List.append_nil]

/-- When clauses are all rendered, the first one is, and the others are from there on. -/
theorem advance_cons_ok {home : AllocatorId} {clause : Clause} {rest : List Clause}
    {written : List (Clause × Fragment String)} {allocator after : Allocator} {done : Query}
    (rendered : advance home (clause :: rest) written allocator = .ok () (done, after)) :
    ∃ fragment between, (clause.render home).run allocator = .ok fragment between ∧
      advance home rest (written ++ [(clause, fragment)]) between = .ok () (done, after) := by
  rw [advance] at rendered
  cases ran : (clause.render home).run allocator with
  | ok fragment between =>
    rw [ran] at rendered
    exact ⟨fragment, between, rfl, rendered⟩
  | error error between =>
    rw [ran] at rendered
    cases rendered

/-- When the first clauses are all rendered, rendering goes on with the others. -/
theorem advance_append {home : AllocatorId} {first : List Clause}
    {written : List (Clause × Fragment String)} {allocator between : Allocator} {middle : Query}
    (rendered : advance home first written allocator = .ok () (middle, between))
    (rest : List Clause) :
    advance home (first ++ rest) written allocator = advance home rest middle.written between := by
  induction first generalizing written allocator with
  | nil =>
    cases rendered
    rfl
  | cons clause more ih =>
    obtain ⟨fragment, next, ran, others⟩ := advance_cons_ok rendered
    rw [List.cons_append, advance, ran]
    exact ih others

/-- Clauses that were all rendered leave nothing pending. -/
theorem advance_settled {home : AllocatorId} {pending : List Clause}
    {written : List (Clause × Fragment String)} {allocator after : Allocator} {done : Query}
    (rendered : advance home pending written allocator = .ok () (done, after)) :
    done = ⟨done.written, [], home⟩ := by
  induction pending generalizing written allocator with
  | nil =>
    cases rendered
    rfl
  | cons clause rest ih =>
    obtain ⟨_, _, _, others⟩ := advance_cons_ok rendered
    exact ih others

/-- A failed statement leaves what was there. -/
theorem left_statementInPlace (query : Query) (allocator : Allocator) :
    left (query.statementInPlace allocator) =
      match advance query.allocator query.pending query.written allocator with
      | .ok _ state => state
      | .error _ _ => (query, allocator) := by
  have same := query.statementInPlace_eq allocator
  unfold statementInPlace at same ⊢
  cases ran : advance query.allocator query.pending query.written allocator with
  | ok done state => rfl
  | error error state =>
    rw [ran] at same
    cases written : query.write allocator with
    | ok result =>
      rw [written] at same
      cases same
    | error reason =>
      rw [written] at same
      exact congrArg left same

theorem left_compileInPlace (query : Query) (allocator : Allocator) :
    left (query.compileInPlace allocator) = left (query.statementInPlace allocator) := by
  unfold compileInPlace
  cases query.statementInPlace allocator <;> rfl

theorem compile_eq (query : Query) (allocator : Allocator) :
    query.compile allocator = match query.compileInPlace allocator with
      | .ok compiled (done, after) => .ok (compiled, done, after)
      | .error error _ => .error error := by
  rw [compileInPlace, statementInPlace_eq, compile]
  cases query.write allocator <;> rfl

/-! ## Clauses that have been added so far -/

/-- The query has these clauses. Those that are written were rendered in turn, beginning with that
allocator, and the others are pending. -/
def Reached (home : AllocatorId) (start : Allocator) (clauses : List Clause)
    (state : Query × Allocator) : Prop :=
  ∃ first, first ++ state.1.pending = clauses ∧ state.1.allocator = home ∧
    advance home first [] start = .ok () (⟨state.1.written, [], home⟩, state.2)

namespace Reached

variable {home : AllocatorId} {start : Allocator} {clauses : List Clause} {state : Query × Allocator}

theorem start_empty (home : AllocatorId) (start : Allocator) :
    Reached home start [] (.empty home, start) :=
  ⟨[], rfl, rfl, rfl⟩

theorem addAll (reached : Reached home start clauses state) (more : List Clause) :
    Reached home start (clauses ++ more) (state.1.addAll more, state.2) := by
  obtain ⟨first, rfl, same, rendered⟩ := reached
  exact ⟨first, (List.append_assoc _ _ _).symm, same, rendered⟩

/-- To render what is pending is to render everything from the beginning. -/
theorem advance_pending (reached : Reached home start clauses state) :
    advance state.1.allocator state.1.pending state.1.written state.2 =
      advance home clauses [] start := by
  obtain ⟨first, rfl, rfl, rendered⟩ := reached
  rw [advance_append rendered]

theorem statement (reached : Reached home start clauses state) :
    Reached home start clauses (left (state.1.statementInPlace state.2)) := by
  rw [left_statementInPlace, reached.advance_pending]
  cases ran : advance home clauses [] start with
  | ok done after =>
    have settled := advance_settled ran
    refine ⟨clauses, ?_, congrArg Body.allocator settled, ?_⟩
    · show clauses ++ after.1.pending = clauses
      rw [settled, List.append_nil]
    · rw [ran, ← settled]
  | error error after => exact reached

/-- The clauses of a payload are added, or none is. -/
theorem addPayload (reached : Reached home start clauses state) (json : Json) :
    (state.1.addPayload json).toOption.getD state.1 =
      state.1.addAll ((Payload.readClauses home json).toOption.getD []) := by
  obtain ⟨_, _, rfl, _⟩ := reached
  rw [Query.addPayload]
  cases Payload.readClauses state.1.allocator json with
  | ok read => rfl
  | error error => exact (addAll_nil _).symm

theorem addText (reached : Reached home start clauses state) (given : String) :
    (state.1.addText given).toOption.getD state.1 =
      state.1.addAll ((Move.text given).clauses home) := by
  rw [Query.addText, Move.clauses]
  cases Json.read given with
  | ok json => exact reached.addPayload json
  | error error => exact (addAll_nil _).symm

theorem apply (reached : Reached home start clauses state) (move : Move) :
    Reached home start (clauses ++ move.clauses home) (move.apply state) := by
  cases move with
  | append more => exact reached.addAll more
  | payload json =>
    rw [Move.apply, reached.addPayload]
    exact reached.addAll _
  | text given =>
    rw [Move.apply, reached.addText]
    exact reached.addAll _
  | statement =>
    rw [Move.clauses, List.append_nil]
    exact reached.statement
  | compile =>
    rw [Move.clauses, List.append_nil, Move.apply, left_compileInPlace]
    exact reached.statement

theorem run (reached : Reached home start clauses state) (moves : List Move) :
    Reached home start (clauses ++ moves.flatMap (Move.clauses home))
      (moves.foldl Move.apply state) := by
  induction moves generalizing clauses state with
  | nil => simpa using reached
  | cons move rest ih =>
    rw [List.flatMap_cons, ← List.append_assoc]
    exact ih (reached.apply move)

/-- Whatever was rendered before, the query compiles to what all its clauses compile to. -/
theorem compile (reached : Reached home start clauses state) :
    state.1.compile state.2 = ((Query.empty home).addAll clauses).compile start := by
  have here := reached.advance_pending
  have there := ((start_empty home start).addAll clauses).advance_pending
  rw [List.nil_append] at there
  rw [compile_eq, compile_eq, compileInPlace, compileInPlace, statementInPlace, statementInPlace,
    here, there]
  cases advance home clauses [] start <;> rfl

end Reached

/-- A query without pending clauses is as it was, and so is its allocator. -/
theorem write_settled (written : List (Clause × Fragment String)) (home : AllocatorId)
    (allocator : Allocator) :
    write ⟨written, [], home⟩ allocator = .ok (⟨written, [], home⟩, allocator) := by
  rw [write_eq]
  show Except.ok (Body.mk (written ++ []) [] home, allocator) = _
  rw [List.append_nil]

/-- A query that is compiled has nothing left to render. -/
theorem compile_again {query done : Query} {allocator after : Allocator} {compiled : Compiled}
    (made : query.compile allocator = .ok (compiled, done, after)) :
    done.compile after = .ok (compiled, done, after) := by
  rw [compile] at made
  cases written : query.write allocator with
  | error error =>
    rw [written] at made
    cases made
  | ok result =>
    obtain ⟨done, after⟩ := result
    rw [written] at made
    cases made
    obtain ⟨_, rfl, _⟩ := write_eq_ok written
    rw [compile, write_settled]
    rfl

/-- However the clauses are added, and however often the statement is made in between, with
success or not, the query compiles in the end to what it compiles to when all clauses are added
first: the same statement and the same parameters in the same order, or the same error. To compile
it twice is to compile it once. -/
theorem compile_incremental (home : AllocatorId) (start : Allocator) (moves : List Move) :
    let state := moves.foldl Move.apply (.empty home, start)
    let clauses := moves.flatMap (Move.clauses home)
    state.1.compile state.2 = ((Query.empty home).addAll clauses).compile start ∧
      (do let (_, done, after) ← state.1.compile state.2
          done.compile after) = state.1.compile state.2 := by
  intro state clauses
  have reached := (Reached.start_empty home start).run moves
  refine ⟨reached.compile, ?_⟩
  cases made : state.1.compile state.2 with
  | error error => rfl
  | ok result =>
    obtain ⟨compiled, done, after⟩ := result
    exact compile_again made

end Cypher.Query
