import Cypher.Proofs.RenderedDrafts

/-!
# Failed statements change nothing

A statement that is rendered in place and fails puts back what was rendered
and granted before the failure, at whatever depth it was. What is left is the
workspace as it was before.
-/

namespace Cypher

/-! ## The loop over pending clauses -/

theorem run_bind_ok {α β : Type} {render : Rendering α} {more : α → Rendering β}
    {allocator after : Allocator} {result : β}
    (rendered : (render >>= more).run allocator = .ok result after) :
    ∃ first between, render.run allocator = .ok first between ∧
      (more first).run between = .ok result after := by
  rw [EStateM.run_bind] at rendered
  cases ran : render.run allocator with
  | ok first between =>
    rw [ran] at rendered
    exact ⟨first, between, rfl, rendered⟩
  | error error between =>
    rw [ran] at rendered
    cases rendered

theorem run_bind_error {α β : Type} {render : Rendering α} {more : α → Rendering β}
    {allocator after : Allocator} {error : Error}
    (failed : (render >>= more).run allocator = .error error after) :
    render.run allocator = .error error after ∨
      ∃ first between, render.run allocator = .ok first between ∧
        (more first).run between = .error error after := by
  rw [EStateM.run_bind] at failed
  cases ran : render.run allocator with
  | ok first between =>
    rw [ran] at failed
    exact .inr ⟨first, between, rfl, failed⟩
  | error reason between =>
    rw [ran] at failed
    cases failed
    exact .inl rfl

/-- Clauses that can be rendered are written behind those that are written already. -/
theorem Query.advance_ok {home : AllocatorId} {pending : List Clause} {allocator after : Allocator}
    {fragments : List (Fragment String)}
    (rendered : (Clause.renderAll home pending).run allocator = .ok fragments after)
    (written : List (Clause × Fragment String)) :
    advance home pending written allocator =
      .ok () (⟨written ++ pending.zip fragments, [], home⟩, after) := by
  induction pending generalizing allocator fragments written with
  | nil =>
    rw [Clause.renderAll] at rendered
    cases rendered
    rw [advance, List.zip_nil_left, List.append_nil]
  | cons clause rest ih =>
    rw [Clause.renderAll] at rendered
    obtain ⟨fragment, between, first, rendered⟩ := run_bind_ok rendered
    obtain ⟨more, last, later, rendered⟩ := run_bind_ok rendered
    cases rendered
    rw [advance, first]
    show advance home rest _ between = _
    rw [ih later, List.append_assoc]
    rfl

/-- When a clause fails, those before it are written and the others are still pending. -/
theorem Query.advance_error {home : AllocatorId} {pending : List Clause}
    {allocator after : Allocator} {error : Error}
    (failed : (Clause.renderAll home pending).run allocator = .error error after)
    (written : List (Clause × Fragment String)) :
    ∃ done rest, advance home pending written allocator =
        .error error (⟨written ++ done, rest, home⟩, after) ∧
      done.map Prod.fst ++ rest = pending := by
  induction pending generalizing allocator written with
  | nil =>
    rw [Clause.renderAll] at failed
    cases failed
  | cons clause rest ih =>
    rw [Clause.renderAll] at failed
    -- the clause fails or one behind it does; putting the results together cannot fail
    rcases run_bind_error failed with failed | ⟨fragment, between, first, failed⟩
    · refine ⟨[], clause :: rest, ?_, rfl⟩
      rw [advance, failed, List.append_nil]
    · rcases run_bind_error failed with failed | ⟨more, last, _, failed⟩
      · obtain ⟨done, others, stopped, all⟩ := ih failed (written ++ [(clause, fragment)])
        refine ⟨(clause, fragment) :: done, others, ?_, congrArg (clause :: ·) all⟩
        rw [advance, first]
        show advance home rest _ between = _
        rw [stopped, List.append_assoc]
        rfl
      · cases failed

example : ∃ unfinished after, Query.advance 0 [.page .skip 3, .raw " "] [] .empty =
      .error (.shape "raw" .nonEmptyString (.text " ")) (unfinished, after) ∧
    unfinished.written.length = 1 ∧ after.parameters.size = 1 :=
  ⟨_, _, rfl, rfl, rfl⟩

/-- Forgetting what was written since makes it pending again. -/
theorem Query.truncate_append (written done : List (Clause × Fragment String)) (rest : List Clause)
    (home : AllocatorId) :
    truncate written.length ⟨written ++ done, rest, home⟩ =
      ⟨written, done.map Prod.fst ++ rest, home⟩ := by
  rw [truncate, List.take_left, List.drop_left]

/-- A statement in place is that of the pure query; if it fails, the query and its allocator are
what they were. -/
theorem Query.statementInPlace_eq (query : Query) (allocator : Allocator) :
    query.statementInPlace allocator = match query.write allocator with
      | .ok (done, after) => .ok done.text (done, after)
      | .error error => .error error (query, allocator) := by
  have renders := Clause.renders_renderAll query.allocator query.pending
  rw [write_eq, statementInPlace]
  cases checked : Clause.checkAll query.allocator query.pending with
  | ok passed =>
    have ran := run_eq_settle (fun names => (renders names).grants checked) allocator
    rw [advance_ok ran query.written]
    rfl
  | error error =>
    obtain ⟨after, failed⟩ := (renders []).fails error checked allocator
    obtain ⟨done, rest, stopped, all⟩ := advance_error failed query.written
    rw [stopped]
    show EStateM.Result.error error (truncate _ _, allocator) = _
    rw [truncate_append, all]
    rfl

/-! ## Workspaces -/

theorem findNamed?_setEntry {α : Type} (name : String) (value : α) (entries : List (String × α)) :
    findNamed? name (setEntry name value entries) = some value := by
  induction entries with
  | nil => simp [setEntry, findNamed?]
  | cons entry rest ih =>
    rw [setEntry]
    split
    · simp [findNamed?]
    · next other => rw [findNamed?, if_neg other, ih]

/-- Setting what is there already changes nothing. -/
theorem setEntry_of_findNamed? {α : Type} {name : String} {value : α}
    {entries : List (String × α)} (found : findNamed? name entries = some value) :
    setEntry name value entries = entries := by
  induction entries with
  | nil => cases found
  | cons entry rest ih =>
    rw [findNamed?] at found
    rw [setEntry]
    split
    · next same =>
      rw [if_pos same] at found
      cases found
      rw [← same]
    · next other =>
      rw [if_neg other] at found
      rw [ih found]

namespace Workspace

theorem openQuery_of_get? {workspace : Workspace} {name : String} {query : Query}
    (found : workspace.queries.get? name = some query) :
    workspace.openQuery name = (query, workspace) := by
  rw [openQuery, found]

theorem get?_openQuery (workspace : Workspace) (name : String) :
    (workspace.openQuery name).2.queries.get? name = some (workspace.openQuery name).1 := by
  rw [openQuery]
  split
  · next found => exact found
  · exact findNamed?_setEntry name _ _

theorem setQuery_get {workspace : Workspace} {name : String} {query : Query}
    (found : workspace.queries.get? name = some query) : workspace.setQuery name query = workspace := by
  have same : workspace.queries.insert name query = workspace.queries :=
    OrderedMap.ext (setEntry_of_findNamed? found)
  rw [setQuery, same]

theorem setAllocator_get (workspace : Workspace) (id : AllocatorId) :
    workspace.setAllocator id (workspace.allocator id) = workspace := by
  have same : workspace.allocators.set id (workspace.allocator id) = workspace.allocators := by
    by_cases present : id < workspace.allocators.length
    · rw [allocator, List.getD_eq_getElem?_getD, List.getElem?_eq_getElem present, Option.getD_some,
        List.set_getElem_self]
    · exact List.set_eq_of_length_le (Nat.le_of_not_lt present)
  rw [setAllocator, same]

/-- Storing what a statement has left in place is what a pure step does, when the query is there. -/
theorem settleStatement_eq {workspace : Workspace} {name : String} {query : Query}
    (found : workspace.queries.get? name = some query) (answer : String → Allocator → Outcome) :
    workspace.settleStatement name query.allocator answer
        (query.statementInPlace (workspace.allocator query.allocator)) =
      match query.write (workspace.allocator query.allocator) with
      | .ok (done, after) => (answer done.text after,
          (workspace.setQuery name done).setAllocator query.allocator after)
      | .error error => (.refused error, workspace) := by
  rw [Query.statementInPlace_eq]
  cases query.write (workspace.allocator query.allocator) with
  | ok written => rfl
  | error error =>
    show (Outcome.refused error, (workspace.setQuery name query).setAllocator _ _) = _
    rw [setQuery_get found, setAllocator_get]

theorem step_eq (workspace : Workspace) (name : String) (step : Step) :
    workspace.step name step =
      match (workspace.openQuery name).2.stepOn name (workspace.openQuery name).1 step with
      | .ok result => result
      | .error error => (.refused error, (workspace.openQuery name).2) :=
  rfl

/-- Steps in place are the steps of the pure workspace. -/
theorem stepInPlace_eq (workspace : Workspace) (name : String) (step : Step) :
    workspace.stepInPlace name step = workspace.step name step := by
  have settled := settleStatement_eq (workspace.get?_openQuery name)
  cases step with
  | statement =>
    refine (settled _).trans ?_
    rw [step_eq, stepOn]
    cases Query.write _ _ <;> rfl
  | compile =>
    refine (settled _).trans ?_
    rw [step_eq, stepOn, Query.compile]
    cases Query.write _ _ <;> rfl
  | _ => rfl

/-- A step leaves what it makes, or else the workspace in which it was refused. -/
theorem stepInPlace_snd (workspace : Workspace) (name : String) (step : Step) :
    (workspace.stepInPlace name step).2 =
      match (workspace.openQuery name).2.stepOn name (workspace.openQuery name).1 step with
      | .ok result => result.2
      | .error _ => (workspace.openQuery name).2 := by
  rw [stepInPlace_eq, step_eq]
  split <;> rfl

end Workspace

/-- The step asks for the statement of its query. -/
def Step.makesStatement : Step → Bool
  | statement => true
  | statementWhileBusy => true
  | compile => true
  | _ => false

namespace Workspace

/-- A query that is not there yet is empty, and its statement cannot fail. -/
theorem stepOn_empty {workspace : Workspace} {name : String} {home : AllocatorId} {step : Step}
    (makes : step.makesStatement = true) :
    ∃ result, workspace.stepOn name (.empty home) step = .ok result := by
  cases step with
  | statement => exact ⟨_, rfl⟩
  | statementWhileBusy => exact ⟨_, rfl⟩
  | compile => exact ⟨_, rfl⟩
  | _ => cases makes

/-- A statement that is made is not a refusal. -/
theorem stepOn_ne_refused {workspace after : Workspace} {name : String} {query : Query} {step : Step}
    {error : Error} (makes : step.makesStatement = true) :
    workspace.stepOn name query step ≠ .ok (.refused error, after) := by
  cases step with
  | statement =>
    rw [stepOn]
    cases query.write (workspace.allocator query.allocator) <;> exact nofun
  | statementWhileBusy =>
    rw [stepOn]
    cases query.textWhileBusy <;> exact nofun
  | compile =>
    rw [stepOn, Query.compile]
    cases query.write (workspace.allocator query.allocator) <;> exact nofun
  | _ => cases makes

/-- A refused statement is that of a query which is there, and the pure step changes nothing. -/
theorem eq_of_refused {workspace after : Workspace} {name : String} {step : Step}
    {error : Error} (makes : step.makesStatement = true)
    (refused : workspace.step name step = (.refused error, after)) : after = workspace := by
  rw [step_eq] at refused
  cases done : (workspace.openQuery name).2.stepOn name (workspace.openQuery name).1 step with
  | ok result =>
    obtain rfl : result = (.refused error, after) := by
      rw [done] at refused
      exact refused
    exact absurd done (stepOn_ne_refused makes)
  | error reason =>
    rw [done] at refused
    obtain rfl : (workspace.openQuery name).2 = after := congrArg Prod.snd refused
    rw [openQuery] at done ⊢
    split
    · rfl
    · next absent =>
      -- the query would have been made by this step
      rw [absent] at done
      obtain ⟨result, made⟩ := stepOn_empty makes
      rw [made] at done
      cases done

/-- A refused statement, for whatever reason and after however many clauses were rendered, leaves
all queries with their clauses and written fragments and all allocators as they were. It is refused
for the same reason again, and what is done later goes as it would have gone without it. -/
theorem refused_statement {workspace after : Workspace} {name : String} {step : Step}
    {error : Error} (makes : step.makesStatement = true)
    (refused : workspace.stepInPlace name step = (.refused error, after)) :
    after = workspace ∧ after.stepInPlace name step = (.refused error, workspace) ∧
      (∀ later, after.runInPlace later = workspace.runInPlace later) ∧
      workspace.step name step = (.refused error, workspace) := by
  rw [stepInPlace_eq] at refused
  obtain rfl := eq_of_refused makes refused
  exact ⟨rfl, (stepInPlace_eq after name step).trans refused, fun _ => rfl, refused⟩

/-- A page before a call whose body fails behind another page. -/
def brokenCall : Workspace :=
  let body : Body Clause := ⟨[], [.page .limit 1, .raw " "], 0⟩
  ⟨[.empty], OrderedMap.empty.insert "q" ⟨[], [.page .skip 3, .call body], 0⟩, .empty⟩

theorem refused_statement_brokenCall :
    brokenCall.stepInPlace "q" .statement =
      (.refused (.shape "raw" .nonEmptyString (.text " ")), brokenCall) := by
  have refused : (brokenCall.stepInPlace "q" .statement).1 =
      .refused (.shape "raw" .nonEmptyString (.text " ")) := by
    rfl
  obtain ⟨same, again, _⟩ := refused_statement rfl (Prod.ext refused rfl)
  exact same ▸ again

end Workspace
end Cypher
