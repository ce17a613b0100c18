import Cypher.Compile

/-!
# Workspaces

A workspace holds queries by name, and the allocators that they bind through.
Several queries may have the same allocator. A step acts on one query; a step
that is refused changes neither that query nor any allocator.
-/

namespace Cypher

/-- Allocators by their identifiers, and queries and bound conditions by name. -/
structure Workspace where
  allocators : List Allocator
  queries : OrderedMap Query
  conditions : OrderedMap (Where String)

/-- What can be done to a query. -/
inductive Step
  /-- Begin a new query. Its allocator has bound these values. -/
  | create (values : List (String × Value))
  /-- Begin a new query with the allocator of another one. -/
  | share (source : String)
  /-- Begin as a copy of another query. -/
  | copy (source : String)
  | addPayload (payload : Json)
  | addText (text : String)
  | add (clause : Clause)
  /-- Add a loop whose body is another query as it is now. -/
  | addLoop (item list body : String)
  /-- Add a call whose body is another query as it is now. -/
  | addCall (body : String)
  /-- Bind conditions now and keep them under a name. -/
  | bindCriteria (criteria : Criteria) (name : String)
  /-- Add conditions that were bound before. -/
  | addBound (name : String)
  | statement
  /-- Ask for the statement while the allocator is in use. -/
  | statementWhileBusy
  | compile
  | bind (name : String) (value : Value)
  /-- Bind a value while the allocator is in use. -/
  | bindWhileBusy (name : String) (value : Value)
  /-- Give up parameters. -/
  | release (names : List String)
  /-- Ask whether another query has the same allocator. -/
  | sharesWith (other : String)

/-- What a step answers. -/
inductive Outcome
  | done
  | refused (error : Error)
  | statement (text : String)
  | compiled (result : Compiled)
  | bound (name : String)
  | shares (same : Bool)

namespace Workspace

def empty : Workspace := ⟨[], .empty, .empty⟩

instance : Inhabited Workspace := ⟨empty⟩

def allocator (workspace : Workspace) (id : AllocatorId) : Allocator :=
  workspace.allocators.getD id .empty

def setAllocator (workspace : Workspace) (id : AllocatorId) (allocator : Allocator) : Workspace :=
  { workspace with allocators := workspace.allocators.set id allocator }

def setQuery (workspace : Workspace) (name : String) (query : Query) : Workspace :=
  { workspace with queries := workspace.queries.insert name query }

/-- Begins a query with an allocator that no other query has. -/
def create (workspace : Workspace) (name : String) (allocator : Allocator) : Workspace :=
  { workspace with
    allocators := workspace.allocators ++ [allocator]
    queries := workspace.queries.insert name (.empty workspace.allocators.length) }

/-- The query of a name, which is a new one when the name is new. -/
def openQuery (workspace : Workspace) (name : String) : Query × Workspace :=
  match workspace.queries.get? name with
  | some query => (query, workspace)
  | none => (.empty workspace.allocators.length, workspace.create name .empty)

/-- What a step does when its query is there. -/
def stepOn (workspace : Workspace) (name : String) (query : Query) :
    Step → Except Error (Outcome × Workspace)
  | .create values => .ok (.done, workspace.create name (Allocator.ofValues values))
  | .share source =>
      -- a source that is not there is made, so that both queries have its allocator
      let (shared, workspace) := workspace.openQuery source
      .ok (.done, workspace.setQuery name (.empty shared.allocator))
  | .copy source =>
      let (copied, workspace) := workspace.openQuery source
      .ok (.done, workspace.setQuery name copied)
  | .addPayload payload => do
      return (.done, workspace.setQuery name (← query.addPayload payload))
  | .addText text => do
      return (.done, workspace.setQuery name (← query.addText text))
  | .add clause => .ok (.done, workspace.setQuery name (query.add clause))
  | .addLoop item list body =>
      let (inner, workspace) := workspace.openQuery body
      .ok (.done, workspace.setQuery name (query.add (.forEach item list inner)))
  | .addCall body =>
      let (inner, workspace) := workspace.openQuery body
      .ok (.done, workspace.setQuery name (query.add (.call inner)))
  | .bindCriteria criteria kept =>
      let (condition, after) := criteria.bind (workspace.allocator query.allocator)
      .ok (.done, { workspace.setAllocator query.allocator after with
        conditions := workspace.conditions.insert kept condition })
  | .addBound kept =>
      -- it was bound when it was kept, maybe through another allocator
      let condition := (workspace.conditions.get? kept).getD .empty
      .ok (.done, workspace.setQuery name (query.add (.restrictBound condition)))
  | .statement => do
      let (done, after) ← query.write (workspace.allocator query.allocator)
      return (.statement done.text,
        (workspace.setQuery name done).setAllocator query.allocator after)
  | .statementWhileBusy => do return (.statement (← query.textWhileBusy), workspace)
  | .compile => do
      let (result, done, after) ← query.compile (workspace.allocator query.allocator)
      return (.compiled result, (workspace.setQuery name done).setAllocator query.allocator after)
  | .bind wanted value =>
      let (granted, after) := (workspace.allocator query.allocator).bind wanted value
      .ok (.bound granted, workspace.setAllocator query.allocator after)
  | .bindWhileBusy _ _ => .error (.composition .allocatorBusy)
  | .release names =>
      let after := (workspace.allocator query.allocator).remove names
      .ok (.done, workspace.setAllocator query.allocator after)
  | .sharesWith other =>
      let (second, workspace) := workspace.openQuery other
      .ok (.shares (query.allocator == second.allocator), workspace)

/-- Does one step to the query of that name. -/
def step (workspace : Workspace) (name : String) (step : Step) : Outcome × Workspace :=
  let (query, opened) := workspace.openQuery name
  match opened.stepOn name query step with
  | .ok result => result
  | .error error => (.refused error, opened)

/-- The query of a name as it is now. -/
def query (workspace : Workspace) (name : String) : Query := (workspace.openQuery name).1

/-- The allocator of a query as it is now. -/
def allocatorOf (workspace : Workspace) (name : String) : Allocator :=
  workspace.allocator (workspace.query name).allocator

end Workspace
end Cypher
