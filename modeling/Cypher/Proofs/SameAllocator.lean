import Cypher.Proofs.FreshPayload
import Cypher.Proofs.SharedAllocators

/-!
# One allocator for each statement

A body may have been begun with another allocator than the query that it is put
into, and it may have been written, in part or as a whole, before that. A body
is checked where it is pending, against the allocator of what it stands in; what
is written in it is not rendered again and not checked. It need not be: whatever
was done to queries, the fragments that a query keeps are those of clauses that
were rendered through its own allocator, so that all bodies below them have this
allocator. A statement is made only of bodies that have the allocator of their
query, at every depth.
-/

namespace Cypher

/-! ## Bodies at any depth -/

/-- The clause is one of those of the query, or of those in one of its bodies, at any depth. -/
inductive Query.Contains : Query → Clause → Prop
  | here {query : Query} {clause : Clause} : clause ∈ query.clauses → Contains query clause
  | inside {query body : Query} {outer clause : Clause} : outer ∈ query.clauses →
      outer.body? = some body → Contains body clause → Contains query clause

/-- The fragment is what the clause was rendered to through the allocator of that identifier, in
some state of it. -/
def RenderedThrough (home : AllocatorId) (entry : Clause × Fragment String) : Prop :=
  ∃ before after, (entry.1.render home).run before = .ok entry.2 after

/-- What is written in the clause, at any depth, was rendered through the allocator of the body that
it is written in. -/
inductive Clause.Authentic : Clause → Prop
  | plain {clause : Clause} : clause.body? = none → Authentic clause
  | nested {clause : Clause} {body : Body Clause} : clause.body? = some body →
      (∀ entry ∈ body.written, RenderedThrough body.allocator entry) →
      (∀ inner ∈ Query.clauses body, Authentic inner) → Authentic clause

theorem Clause.Authentic.inside {clause : Clause} {body : Body Clause}
    (authentic : clause.Authentic) (nested : clause.body? = some body) :
    (∀ entry ∈ body.written, RenderedThrough body.allocator entry) ∧
      ∀ inner ∈ Query.clauses body, inner.Authentic := by
  cases authentic with
  | plain noBody => simp [nested] at noBody
  | nested nested' written clauses =>
    obtain rfl := Option.some.inj (nested.symm.trans nested')
    exact ⟨written, clauses⟩

/-- What is written in the query was rendered through its allocator, and so it is in its bodies. -/
structure Query.Authentic (query : Query) : Prop where
  written : ∀ entry ∈ query.written, RenderedThrough query.allocator entry
  clauses : ∀ clause ∈ query.clauses, clause.Authentic

/-- The body of a clause is as authentic as the query that it is in. -/
theorem Query.Authentic.body {query body : Query} (authentic : query.Authentic) {clause : Clause}
    (member : clause ∈ query.clauses) (nested : clause.body? = some body) : body.Authentic := by
  obtain ⟨written, clauses⟩ := (authentic.clauses clause member).inside nested
  exact ⟨written, clauses⟩

/-- Where nothing is written, nothing was rendered elsewhere. -/
theorem Clause.Fresh.authentic {clause : Clause} (fresh : clause.Fresh) : clause.Authentic := by
  induction clause using Clause.induction with
  | plain clause noBody => exact .plain noBody
  | nested clause body nested ih =>
    obtain ⟨unwritten, clauses⟩ := fresh.inside nested
    refine .nested nested ?_ fun inner member => ih inner member (clauses inner ?_)
    · rw [unwritten]
      exact nofun
    · rwa [Query.clauses, unwritten] at member

/-! ## Checks in the order in which they are made -/

mutual

/-- The checks of a clause that is rendered through the allocator, one for each body that is pending
and for each clause that has none. -/
def Clause.checks (home : AllocatorId) : Clause → List (Except Error Unit)
  | .forEach item list body =>
      checkNonBlank "variable" item :: checkNonBlank "list" list ::
        Clause.checksBody home Keyword.forEach.key body
  | .call body => Clause.checksBody home Keyword.call.key body
  | plain => [plain.check home]

/-- Whose allocator a body has comes before what is pending in it. -/
def Clause.checksBody (home : AllocatorId) (key : String) :
    Body Clause → List (Except Error Unit)
  | ⟨_, pending, allocator⟩ =>
      (if allocator ≠ home then .error (.composition (.foreignBody key)) else .ok ()) ::
        Clause.checksAll allocator pending

def Clause.checksAll (home : AllocatorId) : List Clause → List (Except Error Unit)
  | [] => []
  | clause :: rest => clause.checks home ++ Clause.checksAll home rest

end

/-- The first of the checks that failed. -/
def firstFailure (checks : List (Except Error Unit)) : Except Error Unit := checkEach id checks

theorem firstFailure_cons (check : Except Error Unit) (rest : List (Except Error Unit)) :
    firstFailure (check :: rest) = check >>= fun _ => firstFailure rest := by
  rw [firstFailure, checkEach]
  rfl

theorem firstFailure_single (check : Except Error Unit) : firstFailure [check] = check := by
  cases check <;> rfl

theorem firstFailure_append (first second : List (Except Error Unit)) :
    firstFailure (first ++ second) = firstFailure first >>= fun _ => firstFailure second := by
  induction first with
  | nil => rfl
  | cons check rest ih => rw [List.cons_append, firstFailure_cons, firstFailure_cons, ih, bind_assoc]

/-- When no check has failed, none of them is a failure. -/
theorem error_not_mem_of_firstFailure {checks : List (Except Error Unit)}
    (passed : firstFailure checks = .ok ()) (error : Error) : .error error ∉ checks := by
  intro member
  obtain ⟨before, later, rfl⟩ := List.append_of_mem member
  rw [firstFailure_append] at passed
  obtain ⟨_, -, later⟩ := bind_eq_ok passed
  cases later

namespace Clause

mutual

/-- A clause is refused for the first of its checks that fails. -/
theorem firstFailure_checks (home : AllocatorId) (clause : Clause) :
    firstFailure (clause.checks home) = clause.check home := by
  cases clause with
  | forEach item list body =>
    rw [checks, firstFailure_cons, firstFailure_cons, firstFailure_checksBody, check]
  | call body => rw [checks, firstFailure_checksBody, check]
  | _ => simp [checks, firstFailure_single]

theorem firstFailure_checksBody (home : AllocatorId) (key : String) (body : Body Clause) :
    firstFailure (checksBody home key body) = checkBody home key body := by
  obtain ⟨written, pending, allocator⟩ := body
  rw [checksBody, firstFailure_cons, firstFailure_checksAll, checkBody]
  by_cases foreign : allocator ≠ home
  · rw [if_pos foreign, if_pos foreign]
  · rw [if_neg foreign, if_neg foreign]
    rfl

theorem firstFailure_checksAll (home : AllocatorId) (clauses : List Clause) :
    firstFailure (checksAll home clauses) = checkAll home clauses := by
  cases clauses with
  | nil => rw [checksAll, checkAll]; rfl
  | cons clause rest =>
    rw [checksAll, firstFailure_append, firstFailure_checks, firstFailure_checksAll, checkAll]

end

theorem mem_checksAll {home : AllocatorId} {clauses : List Clause} {clause : Clause}
    (member : clause ∈ clauses) {check : Except Error Unit} (among : check ∈ clause.checks home) :
    check ∈ checksAll home clauses := by
  induction member with
  | head rest =>
    rw [checksAll]
    exact List.mem_append_left _ among
  | tail first _ ih =>
    rw [checksAll]
    exact List.mem_append_right _ ih

/-- The checks of a body are among those of its clause. -/
theorem checksBody_subset {clause : Clause} {body : Body Clause}
    (nested : clause.body? = some body) (home : AllocatorId) :
    checksBody home clause.key body ⊆ clause.checks home := by
  intro check among
  cases clause with
  | forEach item list loop =>
    obtain rfl := Option.some.inj nested
    rw [checks]
    exact List.mem_cons_of_mem _ (List.mem_cons_of_mem _ among)
  | call called =>
    obtain rfl := Option.some.inj nested
    rwa [checks]
  | _ => cases nested

/-- A clause that was rendered through an allocator has passed its checks. -/
theorem check_of_rendered {home : AllocatorId} {clause : Clause} {fragment : Fragment String}
    (rendered : RenderedThrough home (clause, fragment)) : clause.check home = .ok () := by
  obtain ⟨before, after, ran⟩ := rendered
  cases checked : clause.check home with
  | ok passed => rfl
  | error error =>
    obtain ⟨undone, failed⟩ := (clause.renders home []).fails error checked before
    rw [failed] at ran
    cases ran

end Clause

/-! ## Queries -/

namespace Query

theorem authentic_empty (home : AllocatorId) : (empty home).Authentic := ⟨nofun, nofun⟩

theorem Authentic.addAll {query : Query} (authentic : query.Authentic) {clauses : List Clause}
    (more : ∀ clause ∈ clauses, clause.Authentic) : (query.addAll clauses).Authentic := by
  refine ⟨authentic.written, ?_⟩
  intro clause member
  rw [Query.clauses, Query.addAll, ← List.append_assoc] at member
  rcases List.mem_append.mp member with old | new
  · exact authentic.clauses clause old
  · exact more clause new

theorem Authentic.add {query : Query} (authentic : query.Authentic) {clause : Clause}
    (more : clause.Authentic) : (query.add clause).Authentic := by
  refine authentic.addAll fun other member => ?_
  rw [List.mem_singleton.mp member]
  exact more

/-- A query becomes the body of a clause as it is. -/
theorem Authentic.embedded {query : Query} (authentic : query.Authentic) {clause : Clause}
    (nested : clause.body? = some query) : clause.Authentic :=
  .nested nested authentic.written authentic.clauses

/-- The fragments of clauses that are rendered together are what each was rendered to. -/
theorem renderedThrough_zip {home : AllocatorId} {clauses : List Clause}
    {fragments : List (Fragment String)} {allocator after : Allocator}
    (ran : (Clause.renderAll home clauses).run allocator = .ok fragments after) :
    ∀ entry ∈ clauses.zip fragments, RenderedThrough home entry := by
  induction clauses generalizing fragments allocator with
  | nil => exact nofun
  | cons clause rest ih =>
    rw [Clause.renderAll] at ran
    obtain ⟨fragment, between, first, ran⟩ := run_bind_ok ran
    obtain ⟨more, last, later, ran⟩ := run_bind_ok ran
    cases ran
    rw [List.zip_cons_cons, List.forall_mem_cons]
    exact ⟨⟨allocator, between, first⟩, ih later⟩

/-- What is written now was rendered through the allocator of the query. -/
theorem renderedThrough_write {query done : Query} {allocator after : Allocator}
    (written : query.write allocator = .ok (done, after)) :
    ∃ newer, done = ⟨query.written ++ newer, [], query.allocator⟩ ∧
      ∀ entry ∈ newer, RenderedThrough query.allocator entry := by
  obtain ⟨checked, rfl, -⟩ := Query.write_eq_ok written
  have renders := Clause.renders_renderAll query.allocator query.pending
  have ran := run_eq_settle (fun names => (renders names).grants checked) allocator
  exact ⟨_, rfl, renderedThrough_zip ran⟩

theorem Authentic.write {query done : Query} {allocator after : Allocator}
    (authentic : query.Authentic) (written : query.write allocator = .ok (done, after)) :
    done.Authentic := by
  have clauses := Query.clauses_write written
  obtain ⟨newer, rfl, rendered⟩ := renderedThrough_write written
  constructor
  · intro entry member
    rcases List.mem_append.mp member with old | new
    · exact authentic.written entry old
    · exact rendered entry new
  · rw [clauses]
    exact authentic.clauses

/-- A clause with a check that fails is pending: it has not been rendered. -/
theorem Authentic.mem_checksAll {query : Query} (authentic : query.Authentic) {clause : Clause}
    (member : clause ∈ query.clauses) {error : Error}
    (failed : .error error ∈ clause.checks query.allocator) :
    .error error ∈ Clause.checksAll query.allocator query.pending := by
  rcases List.mem_append.mp member with before | pending
  · obtain ⟨entry, there, rfl⟩ := List.mem_map.mp before
    have passed := Clause.check_of_rendered (authentic.written entry there)
    rw [← Clause.firstFailure_checks] at passed
    exact absurd failed (error_not_mem_of_firstFailure passed _)
  · exact Clause.mem_checksAll pending failed

/-- A body with another allocator, at any depth, makes one of the checks fail: its own or that of a
body around it. -/
theorem Authentic.foreign_mem_checks {query body : Query} (authentic : query.Authentic)
    {clause : Clause} (contains : query.Contains clause) (nested : clause.body? = some body)
    (foreign : body.allocator ≠ query.allocator) :
    ∃ key, .error (.composition (.foreignBody key)) ∈
      Clause.checksAll query.allocator query.pending := by
  have refused {query body : Query} (authentic : query.Authentic) {clause : Clause}
      (member : clause ∈ query.clauses) (nested : clause.body? = some body)
      (foreign : body.allocator ≠ query.allocator) :
      ∃ key, .error (.composition (.foreignBody key)) ∈
        Clause.checksAll query.allocator query.pending := by
    refine ⟨clause.key, authentic.mem_checksAll member (Clause.checksBody_subset nested _ ?_)⟩
    rw [Clause.checksBody, if_pos foreign]
    exact List.mem_cons_self
  induction contains with
  | here member => exact refused authentic member nested foreign
  | @inside query outer around clause member nested' _ ih =>
    by_cases same : outer.allocator = query.allocator
    · obtain ⟨key, failed⟩ := ih (authentic.body member nested') nested (same ▸ foreign)
      refine ⟨key, authentic.mem_checksAll member (Clause.checksBody_subset nested' _ ?_)⟩
      rw [Clause.checksBody]
      exact List.mem_cons_of_mem _ failed
    · exact refused authentic member nested' same

end Query

/-! ## Workspaces -/

/-- What is written in a clause that is added was rendered in its body. -/
def Step.Authentic : Step → Prop
  | .add clause => clause.Authentic
  | _ => True

namespace Workspace

/-- What the queries have written was rendered through their own allocators. -/
def Authentic (workspace : Workspace) : Prop :=
  ∀ name query, workspace.queries.get? name = some query → query.Authentic

namespace Authentic

variable {workspace : Workspace}

theorem setQuery (authentic : workspace.Authentic) (name : String) {query : Query}
    (rendered : query.Authentic) : (workspace.setQuery name query).Authentic := by
  intro other stored found
  unfold Workspace.setQuery at found
  by_cases same : other = name
  · subst same
    rw [OrderedMap.get?_insert_self] at found
    obtain rfl := Option.some.inj found
    exact rendered
  · rw [OrderedMap.get?_insert_of_ne _ _ same] at found
    exact authentic other stored found

theorem create (authentic : workspace.Authentic) (name : String) (allocator : Allocator) :
    (workspace.create name allocator).Authentic :=
  authentic.setQuery name (Query.authentic_empty _)

theorem opened (authentic : workspace.Authentic) (name : String) :
    (workspace.openQuery name).2.Authentic ∧ (workspace.openQuery name).1.Authentic := by
  have after : (workspace.openQuery name).2.Authentic := by
    unfold openQuery
    split
    · exact authentic
    · exact authentic.create name .empty
  exact ⟨after, after name _ (workspace.get?_openQuery name)⟩

theorem addPayload (authentic : workspace.Authentic) (name : String) {query : Query}
    (rendered : query.Authentic) (payload : Json) :
    Authentic (match workspace.stepOn name query (.addPayload payload) with
      | .ok result => result.2
      | .error _ => workspace) := by
  rw [Workspace.stepOn, Query.addPayload]
  cases read : Payload.readClauses query.allocator payload with
  | ok clauses =>
    have fresh := Payload.returns_readClauses query.allocator payload clauses read
    exact authentic.setQuery name (rendered.addAll fun clause member => (fresh clause member).authentic)
  | error error => exact authentic

theorem stepOn (authentic : workspace.Authentic) (name : String) {query : Query} {step : Step}
    (rendered : query.Authentic) (sound : step.Authentic) :
    Authentic (match workspace.stepOn name query step with
      | .ok result => result.2
      | .error _ => workspace) := by
  cases step with
  | create values => exact authentic.create name _
  | share source =>
    obtain ⟨opened, -⟩ := authentic.opened source
    exact opened.setQuery name (Query.authentic_empty _)
  | copy source =>
    obtain ⟨opened, copied⟩ := authentic.opened source
    exact opened.setQuery name copied
  | addPayload payload => exact authentic.addPayload name rendered payload
  | addText text =>
    rw [Workspace.stepOn, Query.addText]
    cases Json.read text with
    | ok payload => exact authentic.addPayload name rendered payload
    | error error => exact authentic
  | add clause => exact authentic.setQuery name (rendered.add sound)
  | addLoop item list body =>
    obtain ⟨opened, inner⟩ := authentic.opened body
    exact opened.setQuery name (rendered.add (inner.embedded rfl))
  | addCall body =>
    obtain ⟨opened, inner⟩ := authentic.opened body
    exact opened.setQuery name (rendered.add (inner.embedded rfl))
  | addBound kept => exact authentic.setQuery name (rendered.add (.plain rfl))
  | statement =>
    rw [Workspace.stepOn]
    cases written : query.write (workspace.allocator query.allocator) with
    | ok result => exact authentic.setQuery name (rendered.write written)
    | error error => exact authentic
  | statementWhileBusy =>
    rw [Workspace.stepOn]
    cases query.textWhileBusy <;> exact authentic
  | compile =>
    rw [Workspace.stepOn, Query.compile]
    cases written : query.write (workspace.allocator query.allocator) with
    | ok result => exact authentic.setQuery name (rendered.write written)
    | error error => exact authentic
  | sharesWith other => exact (authentic.opened other).1
  | _ => exact authentic

theorem stepInPlace (authentic : workspace.Authentic) (name : String) {step : Step}
    (sound : step.Authentic) : (workspace.stepInPlace name step).2.Authentic := by
  obtain ⟨opened, rendered⟩ := authentic.opened name
  rw [stepInPlace_snd]
  exact opened.stepOn name rendered sound

theorem runInPlace (authentic : workspace.Authentic) {calls : List (String × Step)}
    (sound : ∀ call ∈ calls, call.2.Authentic) : (workspace.runInPlace calls).2.Authentic := by
  induction calls generalizing workspace with
  | nil => exact authentic
  | cons call rest ih =>
    rw [List.forall_mem_cons] at sound
    exact ih (authentic.stepInPlace call.1 sound.1) sound.2

end Authentic

/-- A statement is refused for the first clause that is, and nothing changes. -/
theorem statement_of_checkAll {workspace : Workspace} {name : String} {query : Query} {error : Error}
    (found : workspace.queries.get? name = some query)
    (failed : Clause.checkAll query.allocator query.pending = .error error) :
    workspace.stepInPlace name .statement = (.refused error, workspace) ∧
      workspace.stepInPlace name .compile = (.refused error, workspace) := by
  have unwritten (allocator : Allocator) : query.write allocator = .error error := by
    rw [Query.write_eq, failed]
    rfl
  constructor
  · rw [stepInPlace_eq, step_eq, openQuery_of_get? found, stepOn, unwritten]
    rfl
  · rw [stepInPlace_eq, step_eq, openQuery_of_get? found, stepOn, Query.compile, unwritten]
    rfl

theorem statementWhileBusy_of_pending {workspace : Workspace} {name : String} {query : Query}
    (found : workspace.queries.get? name = some query) (pending : query.pending ≠ []) :
    workspace.stepInPlace name .statementWhileBusy =
      (.refused (.composition .allocatorBusy), workspace) := by
  rw [stepInPlace_eq, step_eq, openQuery_of_get? found, stepOn, Query.textWhileBusy,
    if_neg (by rwa [List.isEmpty_iff])]
  rfl

/-- A query that has a body with another allocator, at any depth, makes no statement. -/
theorem Authentic.refuses {workspace : Workspace} (authentic : workspace.Authentic) {name : String}
    {clause : Clause} {body : Query} (contains : (workspace.query name).Contains clause)
    (nested : clause.body? = some body)
    (foreign : body.allocator ≠ (workspace.query name).allocator) :
    workspace.stepInPlace name .statementWhileBusy =
        (.refused (.composition .allocatorBusy), workspace) ∧
      ∃ error before key later,
        Clause.checksAll (workspace.query name).allocator (workspace.query name).pending =
            before ++ .error (.composition (.foreignBody key)) :: later ∧
          (firstFailure before = .error error ∨
            firstFailure before = .ok () ∧ error = .composition (.foreignBody key)) ∧
          workspace.stepInPlace name .statement = (.refused error, workspace) ∧
          workspace.stepInPlace name .compile = (.refused error, workspace) := by
  have found : workspace.queries.get? name = some (workspace.query name) := by
    unfold query openQuery at contains ⊢
    split
    · next there => exact there
    · next absent =>
      -- a query that is new has no clauses
      rw [absent] at contains
      cases contains with
      | here member => cases member
      | inside member _ _ => cases member
  obtain ⟨key, member⟩ := (authentic name _ found).foreign_mem_checks contains nested foreign
  obtain ⟨before, later, checks⟩ := List.append_of_mem member
  have refused : Clause.checkAll (workspace.query name).allocator (workspace.query name).pending =
      firstFailure before >>= fun _ => .error (.composition (.foreignBody key)) := by
    rw [← Clause.firstFailure_checksAll, checks, firstFailure_append, firstFailure_cons]
    rfl
  constructor
  · refine statementWhileBusy_of_pending found fun nothing => ?_
    rw [nothing, Clause.checksAll] at member
    cases member
  · cases earlier : firstFailure before with
    | error error =>
      rw [earlier] at refused
      exact ⟨error, before, key, later, checks, .inl earlier, statement_of_checkAll found refused⟩
    | ok _ =>
      rw [earlier] at refused
      exact ⟨_, before, key, later, checks, .inr ⟨earlier, rfl⟩, statement_of_checkAll found refused⟩

/-- Whatever was done to queries before: if one of them makes a statement, then all bodies in its
clauses, at every depth and written or not, have its allocator. If one of the bodies has another
allocator, what that holds notwithstanding, then its query is refused and nothing changes. The
error is that a body is foreign, unless a check that is made before fails. -/
theorem statement_same_allocator {calls : List (String × Step)}
    (sound : ∀ call ∈ calls, call.2.Authentic) (name : String) :
    let workspace := (Workspace.empty.runInPlace calls).2
    let query := workspace.query name
    (∀ step outcome after, step.makesStatement = true →
      workspace.stepInPlace name step = (outcome, after) → (∀ error, outcome ≠ .refused error) →
      ∀ clause body, query.Contains clause → clause.body? = some body →
        body.allocator = query.allocator) ∧
    ∀ clause body, query.Contains clause → clause.body? = some body →
      body.allocator ≠ query.allocator →
      workspace.stepInPlace name .statementWhileBusy =
          (.refused (.composition .allocatorBusy), workspace) ∧
        ∃ error before key later,
          Clause.checksAll query.allocator query.pending =
              before ++ .error (.composition (.foreignBody key)) :: later ∧
            (firstFailure before = .error error ∨
              firstFailure before = .ok () ∧ error = .composition (.foreignBody key)) ∧
            workspace.stepInPlace name .statement = (.refused error, workspace) ∧
            workspace.stepInPlace name .compile = (.refused error, workspace) := by
  intro workspace query
  have nothing : Workspace.empty.Authentic := nofun
  have authentic : workspace.Authentic := nothing.runInPlace sound
  refine ⟨fun step outcome after makes made accepted clause body contains nested => ?_,
    fun clause body => authentic.refuses⟩
  by_contra foreign
  obtain ⟨busy, error, _, _, _, _, _, refused, refused'⟩ :=
    authentic.refuses contains nested foreign
  cases step with
  | statement => exact accepted error (congrArg Prod.fst (made.symm.trans refused))
  | statementWhileBusy => exact accepted _ (congrArg Prod.fst (made.symm.trans busy))
  | compile => exact accepted error (congrArg Prod.fst (made.symm.trans refused'))
  | _ => cases makes

/-- A query calls another one that has its allocator, and both are written. Then it gets a loop
around a call whose body has an allocator of its own, and is written already. -/
def mixedCalls : List (String × Step) :=
  [("q", .create []), ("b", .share "q"), ("b", .add (.page .limit 3)), ("q", .addCall "b"),
    ("q", .statement), ("s", .create []), ("s", .add (.page .skip 1)), ("s", .statement),
    ("m", .share "q"), ("m", .addCall "s"), ("q", .addLoop "x" "xs" "m")]

theorem statement_same_allocator_mixedCalls :
    let workspace := (Workspace.empty.runInPlace mixedCalls).2
    workspace.stepInPlace "q" .statement =
      (.refused (.composition (.foreignBody "call")), workspace) := by
  intro workspace
  have sound : ∀ call ∈ mixedCalls, call.2.Authentic := by
    simp only [mixedCalls, List.forall_mem_cons]
    exact ⟨trivial, trivial, .plain rfl, trivial, trivial, trivial, .plain rfl, trivial, trivial,
      trivial, trivial, List.forall_mem_nil _⟩
  -- the loop is the last clause of the query, and the call is in its body
  have contains : (workspace.query "q").Contains (.call (workspace.query "s")) := by
    have loop : Clause.forEach "x" "xs" (workspace.query "m") ∈ (workspace.query "q").clauses :=
      List.mem_append_right _ List.mem_cons_self
    exact .inside loop rfl (.here (List.mem_append_right _ List.mem_cons_self))
  obtain ⟨-, error, _, _, _, _, _, refused, -⟩ :=
    (statement_same_allocator sound "q").2 _ _ contains rfl (by decide +kernel)
  have reason : (workspace.stepInPlace "q" .statement).1 =
      .refused (.composition (.foreignBody "call")) := rfl
  exact refused.trans (Prod.ext ((congrArg Prod.fst refused).symm.trans reason) rfl)

end Workspace
end Cypher
