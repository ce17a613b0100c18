import Cypher.Proofs.SameAllocator
import Cypher.Proofs.SpacedPieces
import Mathlib.Data.List.Infix

/-!
# Statements only grow

Every step stores one query and one allocator; other queries and other
allocators stay what they are. A query that is not begun anew keeps what it has
written and only gets clauses at its end, and an allocator of which no parameter
is given up only gets parameters at its end. So a statement that is made later
begins with every statement that was made before.
-/

namespace Cypher

/-- A step that puts another query in the place of the one that has the name. -/
def Step.begins : Step → Bool
  | create _ | share _ | copy _ => true
  | _ => false

/-- The text that an outcome shows. -/
def Outcome.text? : Outcome → Option String
  | statement text => some text
  | compiled result => some result.statement
  | _ => none

theorem Fragment.allChars_append (first second : List (Fragment String)) :
    allChars (first ++ second) = allChars first ++ allChars second := by
  induction first with
  | nil => rfl
  | cons fragment rest ih => rw [List.cons_append, allChars, allChars, ih, List.cons_append]

theorem Allocator.prefix_bind (allocator : Allocator) (name : String) (value : Value) :
    allocator.parameters.entries <+: (allocator.bind name value).2.parameters.entries := by
  rw [entries_bind]
  exact List.prefix_append _ _

/-- What is granted comes behind the parameters that are there. -/
theorem Allocator.prefix_grantAll (allocator : Allocator) (requests : List Request) :
    allocator.parameters.entries <+: (allocator.grantAll requests).2.parameters.entries := by
  induction requests generalizing allocator with
  | nil => exact List.prefix_rfl
  | cons request rest ih =>
    refine List.IsPrefix.trans ?_ (ih (allocator.grant request).2)
    cases request with
    | parameter name value => exact allocator.prefix_bind name value
    | identifier name => exact List.prefix_rfl

namespace Query

/-! ## Queries that are extended -/

/-- The second query is the first one with more clauses, some of which may be written now. -/
structure Extends (first second : Query) : Prop where
  home : second.allocator = first.allocator
  written : ∃ newer, second.written = first.written ++ newer ∧
    ∀ entry ∈ newer, RenderedThrough first.allocator entry
  clauses : first.clauses <+: second.clauses

namespace Extends

theorem refl (query : Query) : query.Extends query where
  home := rfl
  written := ⟨[], (List.append_nil _).symm, nofun⟩
  clauses := List.prefix_rfl

theorem trans {first second third : Query} (here : first.Extends second)
    (there : second.Extends third) : first.Extends third where
  home := there.home.trans here.home
  written := by
    obtain ⟨newer, written, rendered⟩ := here.written
    obtain ⟨newest, written', rendered'⟩ := there.written
    refine ⟨newer ++ newest, ?_, ?_⟩
    · rw [written', written, List.append_assoc]
    · rw [List.forall_mem_append]
      exact ⟨rendered, here.home ▸ rendered'⟩
  clauses := here.clauses.trans there.clauses

theorem addAll (query : Query) (more : List Clause) : query.Extends (query.addAll more) where
  home := rfl
  written := ⟨[], (List.append_nil _).symm, nofun⟩
  clauses := ⟨more, List.append_assoc _ _ _⟩

theorem addPayload {query added : Query} {payload : Json}
    (read : query.addPayload payload = .ok added) : query.Extends added := by
  unfold Query.addPayload at read
  obtain ⟨clauses, -, rfl⟩ := map_eq_ok read
  exact addAll query clauses

theorem addText {query added : Query} {text : String} (read : query.addText text = .ok added) :
    query.Extends added := by
  unfold Query.addText at read
  obtain ⟨payload, -, read⟩ := bind_eq_ok read
  exact addPayload read

theorem write {query done : Query} {allocator after : Allocator}
    (written : query.write allocator = .ok (done, after)) : query.Extends done := by
  have clauses := Query.clauses_write written
  obtain ⟨newer, rfl, rendered⟩ := renderedThrough_write written
  exact ⟨rfl, ⟨newer, rfl, rendered⟩, clauses ▸ List.prefix_rfl⟩

end Extends

/-! ## Texts that grow -/

/-- The text of more entries stands behind the text of the others, and a space is between them. -/
theorem text_append (written newer : List (Clause × Fragment String)) (home : AllocatorId) :
    text ⟨written ++ newer, [], home⟩ =
      text ⟨written, [], home⟩ ++
        if text ⟨written, [], home⟩ = "" ∨ text ⟨newer, [], home⟩ = "" then text ⟨newer, [], home⟩
        else " " ++ text ⟨newer, [], home⟩ := by
  unfold text fragments
  rw [List.map_append, Fragment.allChars_append, Spacing.joined_append_eq, String.ofList_append]
  congr 1
  simp only [String.ofList_eq_empty_iff]
  split
  · rfl
  · rw [← List.singleton_append, String.ofList_append]

/-- What is written later stands behind what was written before. -/
theorem Extends.text_eq {first second : Query} (extended : first.Extends second)
    (settled : first.pending = []) (settled' : second.pending = []) :
    ∃ newer, second.written = first.written ++ newer ∧
      (∀ entry ∈ newer, RenderedThrough first.allocator entry) ∧
      second.clauses = first.clauses ++ newer.map Prod.fst ∧
      let added := Query.text ⟨newer, [], first.allocator⟩
      second.text = first.text ++ if first.text = "" ∨ added = "" then added else " " ++ added := by
  obtain ⟨newer, written, rendered⟩ := extended.written
  refine ⟨newer, written, rendered, ?_, ?_⟩
  · unfold Query.clauses
    rw [settled, settled', written, List.map_append, List.append_nil, List.append_nil]
  · have same : second.text = text ⟨first.written ++ newer, [], first.allocator⟩ := by
      rw [← written]
      rfl
    rw [same, text_append]
    rfl

end Query

/-! ## What a step stores -/

namespace Workspace

/-- The allocator of every query is there. -/
def Homed (workspace : Workspace) : Prop :=
  ∀ name query, workspace.queries.get? name = some query →
    query.allocator < workspace.allocators.length

theorem homed_of_insert {first second : Workspace} {name : String} {query : Query}
    (homed : first.Homed) (more : first.allocators.length ≤ second.allocators.length)
    (queries : second.queries = first.queries.insert name query)
    (present : query.allocator < second.allocators.length) : second.Homed := by
  intro other stored found
  rw [queries] at found
  by_cases same : other = name
  · subst same
    rw [OrderedMap.get?_insert_self] at found
    cases found
    exact present
  · rw [OrderedMap.get?_insert_of_ne _ _ same] at found
    exact Nat.lt_of_lt_of_le (homed other stored found) more

/-- There are more queries and allocators, and all that were there are what they were. -/
structure Opens (first second : Workspace) : Prop where
  allocators : first.allocators <+: second.allocators
  queries : ∀ name query, first.queries.get? name = some query →
    second.queries.get? name = some query
  homed : first.Homed → second.Homed

theorem Opens.refl (workspace : Workspace) : workspace.Opens workspace :=
  ⟨List.prefix_rfl, fun _ _ => id, id⟩

theorem Opens.trans {first second third : Workspace} (here : first.Opens second)
    (there : second.Opens third) : first.Opens third where
  allocators := here.allocators.trans there.allocators
  queries name query found := there.queries name query (here.queries name query found)
  homed := there.homed ∘ here.homed

theorem opens_append (workspace : Workspace) (allocator : Allocator) :
    workspace.Opens { workspace with allocators := workspace.allocators ++ [allocator] } where
  allocators := List.prefix_append _ _
  queries _ _ := id
  homed homed name query found :=
    Nat.lt_of_lt_of_le (homed name query found) (List.prefix_append _ _).length_le

theorem opens_openQuery (workspace : Workspace) (name : String) :
    workspace.Opens (workspace.openQuery name).2 := by
  unfold openQuery
  split
  · exact .refl workspace
  · next absent =>
    refine ⟨List.prefix_append _ _, fun other query found => ?_, fun homed => ?_⟩
    · have different : other ≠ name := by
        rintro rfl
        rw [absent] at found
        cases found
      exact (OrderedMap.get?_insert_of_ne _ _ different).trans found
    · exact homed_of_insert homed (List.prefix_append _ _).length_le rfl
        (by simp [create, Query.empty])

/-- The step has stored one query and one allocator, and nothing else but conditions. -/
structure Stores (actor : String) (step : Step) (opened after : Workspace) (query query' : Query)
    (allocator : Allocator) : Prop where
  found : opened.queries.get? actor = some query
  queries : after.queries = opened.queries.insert actor query'
  allocators : after.allocators = opened.allocators.set query.allocator allocator
  extended : step.begins = false → query.Extends query'
  homed : opened.Homed → query'.allocator < opened.allocators.length
  bound : (opened.allocator query.allocator).parameters.entries <+: allocator.parameters.entries ∨
    ∃ names, step = .release names ∧ allocator = (opened.allocator query.allocator).remove names

section Storing

variable {actor : String} {step : Step} {opened : Workspace} {query query' : Query}

theorem stores_query (found : opened.queries.get? actor = some query)
    (extended : step.begins = false → query.Extends query')
    (homed : opened.Homed → query'.allocator < opened.allocators.length) :
    Stores actor step opened (opened.setQuery actor query') query query'
      (opened.allocator query.allocator) where
  found := found
  queries := rfl
  allocators := (congrArg Workspace.allocators (opened.setAllocator_get query.allocator)).symm
  extended := extended
  homed := homed
  bound := .inl List.prefix_rfl

/-- A query that is begun anew extends nothing. -/
theorem stores_begun (found : opened.queries.get? actor = some query)
    (begins : step.begins = true)
    (homed : opened.Homed → query'.allocator < opened.allocators.length) :
    Stores actor step opened (opened.setQuery actor query') query query'
      (opened.allocator query.allocator) := by
  refine stores_query found (fun kept => ?_) homed
  rw [begins] at kept
  cases kept

theorem stores_extended (found : opened.queries.get? actor = some query)
    (extended : query.Extends query') :
    Stores actor step opened (opened.setQuery actor query') query query'
      (opened.allocator query.allocator) :=
  stores_query found (fun _ => extended) fun homed => extended.home ▸ homed actor query found

theorem stores_nothing (found : opened.queries.get? actor = some query) :
    Stores actor step opened opened query query (opened.allocator query.allocator) := by
  have stored : Stores actor step opened (opened.setQuery actor query) query query _ :=
    stores_extended found (.refl query)
  rwa [setQuery_get found] at stored

theorem stores_allocator (found : opened.queries.get? actor = some query) {allocator : Allocator}
    (bound : (opened.allocator query.allocator).parameters.entries <+:
        allocator.parameters.entries ∨
      ∃ names, step = .release names ∧
        allocator = (opened.allocator query.allocator).remove names) :
    Stores actor step opened (opened.setAllocator query.allocator allocator) query query
      allocator where
  found := found
  queries := congrArg Workspace.queries (setQuery_get found).symm
  allocators := rfl
  extended _ := .refl query
  homed homed := homed actor query found
  bound := bound

/-- A query is written, and its allocator has more parameters. -/
theorem stores_write (found : opened.queries.get? actor = some query) {done : Query}
    {after : Allocator}
    (written : query.write (opened.allocator query.allocator) = .ok (done, after)) :
    Stores actor step opened ((opened.setQuery actor done).setAllocator query.allocator after)
      query done after where
  found := found
  queries := rfl
  allocators := rfl
  extended _ := .write written
  homed homed := (Query.Extends.write written).home ▸ homed actor query found
  bound := by
    obtain ⟨-, -, rfl⟩ := Query.write_eq_ok written
    exact .inl (Allocator.prefix_grantAll _ _)

end Storing

/-- A step may open queries, and then it stores one query and one allocator. -/
theorem stores_stepInPlace (workspace : Workspace) (actor : String) (step : Step) :
    ∃ opened query' allocator, workspace.Opens opened ∧
      Stores actor step opened (workspace.stepInPlace actor step).2 (workspace.query actor) query'
        allocator := by
  have opens := workspace.opens_openQuery actor
  have found := workspace.get?_openQuery actor
  rw [stepInPlace_eq, step_eq]
  unfold query
  generalize (workspace.openQuery actor).1 = query at found ⊢
  generalize (workspace.openQuery actor).2 = opened at opens found ⊢
  cases step with
  | create values =>
    have appended := opened.opens_append (Allocator.ofValues values)
    refine ⟨_, _, _, opens.trans appended, stores_begun (appended.queries _ _ found) rfl ?_⟩
    simp [Query.empty]
  | share source =>
    have second := opened.opens_openQuery source
    refine ⟨_, _, _, opens.trans second, stores_begun (second.queries _ _ found) rfl fun homed => ?_⟩
    have present := homed source _ (opened.get?_openQuery source)
    exact present
  | copy source =>
    have second := opened.opens_openQuery source
    refine ⟨_, _, _, opens.trans second, stores_begun (second.queries _ _ found) rfl fun homed => ?_⟩
    exact homed source _ (opened.get?_openQuery source)
  | addPayload payload =>
    rw [stepOn]
    cases read : query.addPayload payload with
    | ok added => exact ⟨_, _, _, opens, stores_extended found (.addPayload read)⟩
    | error error => exact ⟨_, _, _, opens, stores_nothing found⟩
  | addText text =>
    rw [stepOn]
    cases read : query.addText text with
    | ok added => exact ⟨_, _, _, opens, stores_extended found (.addText read)⟩
    | error error => exact ⟨_, _, _, opens, stores_nothing found⟩
  | add clause => exact ⟨_, _, _, opens, stores_extended found (.addAll query [clause])⟩
  | addLoop item list body =>
    have inner := opened.opens_openQuery body
    exact ⟨_, _, _, opens.trans inner, stores_extended (inner.queries _ _ found) (.addAll query _)⟩
  | addCall body =>
    have inner := opened.opens_openQuery body
    exact ⟨_, _, _, opens.trans inner, stores_extended (inner.queries _ _ found) (.addAll query _)⟩
  | bindCriteria criteria kept =>
    have stored : Stores actor (.bindCriteria criteria kept) opened _ query query _ :=
      stores_allocator found (.inl (Allocator.prefix_grantAll _ (criteria.ask.run []).2))
    -- what is kept besides is neither a query nor an allocator
    exact ⟨_, _, _, opens, { stored with }⟩
  | addBound kept => exact ⟨_, _, _, opens, stores_extended found (.addAll query _)⟩
  | statement =>
    rw [stepOn]
    cases written : query.write (opened.allocator query.allocator) with
    | ok result => exact ⟨_, _, _, opens, stores_write found written⟩
    | error error => exact ⟨_, _, _, opens, stores_nothing found⟩
  | statementWhileBusy =>
    rw [stepOn]
    cases query.textWhileBusy <;> exact ⟨_, _, _, opens, stores_nothing found⟩
  | compile =>
    rw [stepOn, Query.compile]
    cases written : query.write (opened.allocator query.allocator) with
    | ok result => exact ⟨_, _, _, opens, stores_write found written⟩
    | error error => exact ⟨_, _, _, opens, stores_nothing found⟩
  | bind wanted value =>
    exact ⟨_, _, _, opens, stores_allocator found (.inl (Allocator.prefix_bind _ wanted value))⟩
  | bindWhileBusy wanted value => exact ⟨_, _, _, opens, stores_nothing found⟩
  | release names =>
    exact ⟨_, _, _, opens, stores_allocator found (.inr ⟨names, rfl, rfl⟩)⟩
  | sharesWith other =>
    have second := opened.opens_openQuery other
    exact ⟨_, _, _, opens.trans second, stores_nothing (second.queries _ _ found)⟩

/-! ## One step -/

section Stepping

variable {workspace : Workspace} {actor : String} {step : Step}

theorem homed_stepInPlace (homed : workspace.Homed) (actor : String) (step : Step) :
    (workspace.stepInPlace actor step).2.Homed := by
  obtain ⟨opened, query', allocator, opens, stores⟩ := workspace.stores_stepInPlace actor step
  have more : (workspace.stepInPlace actor step).2.allocators.length = opened.allocators.length := by
    rw [stores.allocators, List.length_set]
  refine homed_of_insert (opens.homed homed) more.ge stores.queries ?_
  rw [more]
  exact stores.homed (opens.homed homed)

/-- A query that is not begun anew is extended. -/
theorem extends_stepInPlace {name : String} (kept : actor = name → step.begins = false)
    {query : Query} (there : workspace.queries.get? name = some query) :
    ∃ query', (workspace.stepInPlace actor step).2.queries.get? name = some query' ∧
      query.Extends query' := by
  obtain ⟨opened, query', allocator, opens, stores⟩ := workspace.stores_stepInPlace actor step
  have present := opens.queries name query there
  rw [stores.queries]
  by_cases same : name = actor
  · subst same
    have found := stores.found
    rw [present] at found
    cases found
    exact ⟨query', OrderedMap.get?_insert_self _ _ _, stores.extended (kept rfl)⟩
  · exact ⟨query, (OrderedMap.get?_insert_of_ne _ _ same).trans present, .refl query⟩

/-- An allocator that was there is what it was. -/
theorem Opens.allocator_eq {first second : Workspace} (opens : first.Opens second) {id : AllocatorId}
    (present : id < first.allocators.length) : second.allocator id = first.allocator id := by
  obtain ⟨more, same⟩ := opens.allocators
  simp [allocator, ← same, List.getElem?_append_left present]

end Stepping

end Workspace

/-- The step gives up no parameter of that allocator. -/
def Step.Spares (workspace : Workspace) (actor : String) (home : AllocatorId) : Step → Prop
  | release names => (workspace.query actor).allocator = home →
      ∀ name ∈ names, name ∉ (workspace.allocator home).parameters.names
  | _ => True

theorem Step.begins_of_makesStatement (step : Step) (makes : step.makesStatement = true) :
    step.begins = false := by
  cases step with
  | create _ | share _ | copy _ => cases makes
  | _ => rfl

theorem Step.spares_of_makesStatement {step : Step} (makes : step.makesStatement = true)
    {workspace : Workspace} {actor : String} {home : AllocatorId} :
    step.Spares workspace actor home := by
  cases step with
  | release _ => cases makes
  | _ => trivial

theorem Allocator.entries_remove_of_not_mem {allocator : Allocator} {names : List String}
    (absent : ∀ name ∈ names, name ∉ allocator.parameters.names) :
    (allocator.remove names).parameters.entries = allocator.parameters.entries := by
  rw [entries_remove, List.filter_eq_self]
  intro entry member
  rw [decide_eq_true_eq]
  intro given
  exact absent entry.1 given (List.mem_map_of_mem member)

namespace Workspace

section Stepping

variable {workspace : Workspace} {actor : String} {step : Step} {home : AllocatorId}

/-- New parameters come behind those that are there. -/
theorem prefix_stepInPlace (present : home < workspace.allocators.length)
    (spares : step.Spares workspace actor home) :
    home < (workspace.stepInPlace actor step).2.allocators.length ∧
      (workspace.allocator home).parameters.entries <+:
        ((workspace.stepInPlace actor step).2.allocator home).parameters.entries := by
  obtain ⟨opened, query', allocator, opens, stores⟩ := workspace.stores_stepInPlace actor step
  have present' := Nat.lt_of_lt_of_le present opens.allocators.length_le
  have opened_eq := opens.allocator_eq present
  refine ⟨by rwa [stores.allocators, List.length_set], ?_⟩
  have after_eq : (workspace.stepInPlace actor step).2.allocator home =
      (opened.setAllocator (workspace.query actor).allocator allocator).allocator home := by
    unfold Workspace.allocator
    rw [stores.allocators]
    rfl
  rw [after_eq]
  by_cases same : (workspace.query actor).allocator = home
  · subst same
    rw [allocator_setAllocator allocator present', ← opened_eq]
    rcases stores.bound with bound | ⟨names, rfl, rfl⟩
    · exact bound
    · rw [opened_eq, Allocator.entries_remove_of_not_mem (spares rfl)]
  · rw [allocator_setAllocator_of_ne _ same, opened_eq]

theorem settled_of_write {query done : Query} {allocator after : Allocator}
    (written : query.write allocator = .ok (done, after)) :
    done.pending = [] ∧ done.allocator = query.allocator := by
  obtain ⟨-, rfl, -⟩ := Query.write_eq_ok written
  exact ⟨rfl, rfl⟩

/-- A statement that is made shows the text of its query, of which nothing is pending. When it is
compiled, it shows the parameters of its allocator. -/
theorem stated_stepInPlace {text : String}
    (stated : (workspace.stepInPlace actor step).1.text? = some text) :
    step.makesStatement = true ∧
      ∃ query, (workspace.stepInPlace actor step).2.queries.get? actor = some query ∧
        query.pending = [] ∧ query.text = text ∧
        ∀ compiled, (workspace.stepInPlace actor step).1 = .compiled compiled → workspace.Homed →
          compiled.parameters =
            ((workspace.stepInPlace actor step).2.allocator query.allocator).parameters := by
  have opens := workspace.opens_openQuery actor
  have found := workspace.get?_openQuery actor
  rw [stepInPlace_eq, step_eq] at stated ⊢
  generalize (workspace.openQuery actor).1 = query at stated found ⊢
  generalize (workspace.openQuery actor).2 = opened at stated opens found ⊢
  cases step with
  | statement =>
    rw [stepOn] at stated ⊢
    cases written : query.write (opened.allocator query.allocator) with
    | error error =>
      rw [written] at stated
      cases stated
    | ok result =>
      rw [written] at stated
      obtain ⟨settled, -⟩ := settled_of_write written
      refine ⟨rfl, result.1, OrderedMap.get?_insert_self _ _ _, settled, Option.some.inj stated, ?_⟩
      intro compiled other
      cases other
  | compile =>
    rw [stepOn, Query.compile] at stated ⊢
    cases written : query.write (opened.allocator query.allocator) with
    | error error =>
      rw [written] at stated
      cases stated
    | ok result =>
      rw [written] at stated
      obtain ⟨settled, home⟩ := settled_of_write written
      refine ⟨rfl, result.1, OrderedMap.get?_insert_self _ _ _, settled, Option.some.inj stated, ?_⟩
      rintro compiled ⟨⟩ homed
      have present := opens.homed homed actor query found
      rw [home]
      exact congrArg Allocator.parameters (allocator_setAllocator result.2 present).symm
  | statementWhileBusy =>
    rw [stepOn] at stated ⊢
    unfold Query.textWhileBusy at stated ⊢
    cases settled : query.pending.isEmpty with
    | true =>
      rw [settled] at stated
      refine ⟨rfl, query, found, List.isEmpty_iff.mp settled, Option.some.inj stated, ?_⟩
      intro compiled other
      cases other
    | false =>
      rw [settled] at stated
      cases stated
  | addPayload payload =>
    rw [stepOn] at stated
    cases read : query.addPayload payload with
    | ok added => rw [read] at stated; cases stated
    | error error => rw [read] at stated; cases stated
  | addText given =>
    rw [stepOn] at stated
    cases read : query.addText given with
    | ok added => rw [read] at stated; cases stated
    | error error => rw [read] at stated; cases stated
  | _ => cases stated

end Stepping

/-! ## Runs -/

/-- No step of the run gives up a parameter of that allocator. -/
def Spares (home : AllocatorId) (workspace : Workspace) : List (String × Step) → Prop
  | [] => True
  | call :: rest =>
      call.2.Spares workspace call.1 home ∧
        Spares home (workspace.stepInPlace call.1 call.2).2 rest

theorem homed_runInPlace {workspace : Workspace} (homed : workspace.Homed)
    (calls : List (String × Step)) : (workspace.runInPlace calls).2.Homed := by
  induction calls generalizing workspace with
  | nil => exact homed
  | cons call rest ih => exact ih (homed_stepInPlace homed call.1 call.2)

theorem extends_runInPlace {workspace : Workspace} {name : String} {calls : List (String × Step)}
    (kept : ∀ call ∈ calls, call.1 = name → call.2.begins = false) {query : Query}
    (there : workspace.queries.get? name = some query) :
    ∃ query', (workspace.runInPlace calls).2.queries.get? name = some query' ∧
      query.Extends query' := by
  induction calls generalizing workspace query with
  | nil => exact ⟨query, there, .refl query⟩
  | cons call rest ih =>
    rw [List.forall_mem_cons] at kept
    obtain ⟨next, found, extended⟩ := extends_stepInPlace kept.1 there
    obtain ⟨last, found', extended'⟩ := ih kept.2 found
    exact ⟨last, found', extended.trans extended'⟩

theorem prefix_runInPlace {workspace : Workspace} {home : AllocatorId}
    {calls : List (String × Step)} (present : home < workspace.allocators.length)
    (spares : workspace.Spares home calls) :
    home < (workspace.runInPlace calls).2.allocators.length ∧
      (workspace.allocator home).parameters.entries <+:
        ((workspace.runInPlace calls).2.allocator home).parameters.entries := by
  induction calls generalizing workspace with
  | nil => exact ⟨present, List.prefix_rfl⟩
  | cons call rest ih =>
    obtain ⟨spared, spares⟩ := spares
    obtain ⟨present', here⟩ := prefix_stepInPlace present spared
    obtain ⟨present'', there⟩ := ih present' spares
    exact ⟨present'', here.trans there⟩

/-- Whatever was done to queries before, and whatever is done between two statements that a query
makes: the later one is the earlier one, and behind it, after a space, the text of the clauses that
were added in between. If no parameter was given up, the parameters that are compiled with the later
one are those of the earlier one and new ones behind them. -/
theorem statements_grow {before between : List (String × Step)} {name : String} {first second : Step}
    {text text' : String} :
    let workspace := (Workspace.empty.runInPlace before).2
    let earlier := workspace.stepInPlace name first
    let later := (earlier.2.runInPlace between).2.stepInPlace name second
    earlier.1.text? = some text → later.1.text? = some text' →
    (∀ call ∈ between, call.1 = name → call.2.begins = false) →
    ∃ newer, (later.2.query name).written = (earlier.2.query name).written ++ newer ∧
      (∀ entry ∈ newer, RenderedThrough (earlier.2.query name).allocator entry) ∧
      (later.2.query name).clauses = (earlier.2.query name).clauses ++ newer.map Prod.fst ∧
      (let added := Query.text ⟨newer, [], (earlier.2.query name).allocator⟩
       text' = text ++ if text = "" ∨ added = "" then added else " " ++ added) ∧
      ∀ compiled compiled', earlier.1 = .compiled compiled → later.1 = .compiled compiled' →
        earlier.2.Spares (earlier.2.query name).allocator between →
        compiled.parameters.entries <+: compiled'.parameters.entries := by
  intro workspace earlier later stated stated' kept
  have nothing : Workspace.empty.Homed := nofun
  have homed : workspace.Homed := homed_runInPlace nothing before
  have homed' := homed_stepInPlace homed name first
  obtain ⟨-, query, found, settled, rfl, shown⟩ := stated_stepInPlace stated
  obtain ⟨makes, query', found', settled', rfl, shown'⟩ := stated_stepInPlace stated'
  -- the query goes through the run and through the step that makes the later statement
  obtain ⟨middle, there, run⟩ := extends_runInPlace kept found
  obtain ⟨last, there', extended⟩ := extends_stepInPlace (fun _ => second.begins_of_makesStatement makes) there
  obtain rfl : last = query' := Option.some.inj (there'.symm.trans found')
  have same : earlier.2.query name = query := congrArg Prod.fst (openQuery_of_get? found)
  have same' : later.2.query name = last := congrArg Prod.fst (openQuery_of_get? found')
  rw [same, same']
  obtain ⟨newer, written, rendered, clauses, grown⟩ := (run.trans extended).text_eq settled settled'
  refine ⟨newer, written, rendered, clauses, grown, ?_⟩
  intro compiled compiled' made made' spares
  have present := homed' name query found
  obtain ⟨present', prefix'⟩ := prefix_runInPlace present spares
  obtain ⟨-, prefix''⟩ := prefix_stepInPlace present' (Step.spares_of_makesStatement makes)
  rw [shown compiled made homed, shown' compiled' made' (homed_runInPlace homed' between),
    (run.trans extended).home]
  exact prefix'.trans prefix''

/-- Two queries with one allocator, one of which has a page. -/
def pagedCalls : List (String × Step) :=
  [("q", .create []), ("p", .share "q"), ("q", .add (.page .skip 3))]

/-- The other query binds a value and gives up one that is not there, and the first one gets
conditions that are none, which it writes, and another page. -/
def callsBetween : List (String × Step) :=
  [("p", .bind "n" .null), ("q", .add (.restrict .empty)), ("p", .release ["x"]), ("q", .statement),
    ("q", .add (.page .limit 3))]

theorem statements_grow_pagedCalls :
    let earlier := (Workspace.empty.runInPlace pagedCalls).2.stepInPlace "q" .compile
    let later := (earlier.2.runInPlace callsBetween).2.stepInPlace "q" .compile
    ∃ compiled compiled', earlier.1 = .compiled compiled ∧ later.1 = .compiled compiled' ∧
      compiled.statement = "SKIP $skip" ∧ compiled'.statement = "SKIP $skip LIMIT $limit" ∧
      compiled.parameters.entries <+: compiled'.parameters.entries := by
  intro earlier later
  have made : ∃ compiled, earlier.1 = .compiled compiled ∧ compiled.statement = "SKIP $skip" :=
    ⟨_, rfl, by decide +kernel⟩
  have made' : ∃ compiled, later.1 = .compiled compiled ∧
      compiled.statement = "SKIP $skip LIMIT $limit" :=
    ⟨_, rfl, by decide +kernel⟩
  obtain ⟨compiled, first, statement⟩ := made
  obtain ⟨compiled', second, statement'⟩ := made'
  have stated : earlier.1.text? = some compiled.statement := congrArg Outcome.text? first
  have stated' : later.1.text? = some compiled'.statement := congrArg Outcome.text? second
  obtain ⟨_, -, -, -, -, grown⟩ := statements_grow stated stated' (by decide)
  refine ⟨compiled, compiled', first, second, statement, statement', ?_⟩
  refine grown compiled compiled' first second ⟨trivial, trivial, fun _ name member => ?_, ?_⟩
  · rw [List.mem_singleton.mp member]
    decide +kernel
  · exact ⟨trivial, trivial, trivial⟩

end Workspace
end Cypher
