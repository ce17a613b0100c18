import Cypher.Workspace

/-!
# Rendering in place

Clauses can be rendered one after the other, each part as soon as its checks
pass. Every name is granted at once, and what was granted before a failure
stays granted. A query that is rendered like this has to undo what a failed
statement has done.
-/

namespace Cypher

/-- A computation that changes its allocator also when it fails. -/
abbrev Rendering := EStateM Error Allocator

/-- Grants a name at once. -/
def obtainName (request : Request) : Rendering String := fun allocator =>
  .ok (allocator.grant request).1 (allocator.grant request).2

/-- Fails if the check or the attempt does, and changes nothing. -/
def demand {α : Type} : Except Error α → Rendering α
  | .ok result => pure result
  | .error error => throw error

/-- Renders the items in order. -/
def renderEach {α β : Type} (render : α → Rendering β) : List α → Rendering (List β)
  | [] => pure []
  | item :: rest => do
      let first ← render item
      let more ← renderEach render rest
      pure (first :: more)

/-! ## Conditions and properties -/

def Operand.render (property : String) : Operand → Rendering (BoundOperand String)
  | value bound => do return .parameter (← obtainName (.parameter property bound))
  | literal text => return .literal text

def Condition.render (subject : Subject String) (property : String) (condition : Condition) :
    Rendering (List (Comparison String)) :=
  renderEach (fun comparison => do
    let operand ← comparison.2.render property
    return ⟨subject, property, comparison.1, operand⟩) condition.comparisons

def Conditions.render (subject : Subject String) (conditions : Conditions) :
    Rendering (Where String) := do
  let parts ← renderEach (fun entry => entry.2.render subject entry.1) conditions.entries
  return ⟨parts.flatten⟩

def Criteria.render (criteria : Criteria) : Rendering (Where String) := do
  let parts ← renderEach (fun entry => entry.2.render (.given entry.1)) criteria.entries
  return ⟨(parts.map Where.comparisons).flatten⟩

def Properties.render (separator : String) (owner : Fragment String) (properties : Properties) :
    Rendering (List (Fragment String)) :=
  renderEach (fun entry => do
    let operand ← entry.2.render entry.1
    return owner ++ [.name entry.1, .fixed separator, operand.piece]) properties.entries

def Properties.renderInline (properties : Properties) : Rendering (Fragment String) := do
  return braced (← properties.render ": " [])

/-! ## Patterns -/

/-- The subject of hoisted conditions, which is a reserved name if the pattern has none. -/
def obtainSubject (stem : String) : Option (Subject String) → Rendering (Subject String)
  | some subject => return subject
  | none => return .synthesized (← obtainName (.identifier stem))

/-- Renders a filter. The half inside the pattern is bound before it is known to be a map. -/
def Filter.render (mode : Mode) (stem : String) (identifier : Option String) :
    Filter → Rendering (FilterText String)
  | nothing => return ⟨identifier.map .given, [], .empty⟩
  | properties values => return ⟨identifier.map .given, ← values.renderInline, .empty⟩
  | conditions required => do
      demand ((Filter.conditions required).check mode)
      let bound ← required.inlineHalf.render (.given (identifier.getD ""))
      let inside ← demand bound.inline?
      if required.hoistedHalf.isEmpty then
        return ⟨identifier.map .given, inside, .empty⟩
      else
        let subject ← obtainSubject stem (identifier.map .given)
        let hoisted ← required.hoistedHalf.render subject
        return ⟨some subject, inside, hoisted⟩

def Node.render (mode : Mode) : Node → Rendering (PatternText String)
  | raw text => return ⟨[.raw text], .empty⟩
  | pattern shape => do
      let filter ← shape.filter.render mode nodeIdentifier shape.identifier
      let head := subjectPart filter.subject ++ labelPart shape.label
      return ⟨.fixed "(" :: headAndInside head filter.inside ++ [.fixed ")"], filter.hoisted⟩

def Relationship.render (mode : Mode) : Relationship → Rendering (PatternText String)
  | raw text => return ⟨[.raw text], .empty⟩
  | pattern shape => do
      demand shape.hops.check
      let filter ← shape.filter.render mode relationshipIdentifier shape.identifier
      let head := subjectPart filter.subject ++ typePart shape.types ++ shape.hops.fragment
      return ⟨shape.direction.around (headAndInside head filter.inside), filter.hoisted⟩

def PathElement.render (mode : Mode) : PathElement → Rendering (PatternText String)
  | node element => element.render mode
  | relationship element => element.render mode

/-- Renders the elements one by one, each with its own check. -/
def Pattern.render (mode : Mode) : Pattern → Rendering (PatternText String)
  | node single => single.render mode
  | nodes siblings => do
      demand (checkNonEmpty "multiple" siblings)
      return .together (Fragment.joinedBy ", ") (← renderEach (Node.render mode) siblings)
  | path elements => do
      demand (checkPath elements)
      return .together List.flatten (← renderEach (PathElement.render mode) elements)

/-! ## Clauses -/

def Assignment.render (assignment : Assignment) : Rendering (Fragment String) := do
  let owner : Fragment String := [.name assignment.identifier, .fixed "."]
  return Fragment.joinedBy ", " (← assignment.properties.render " = " owner)

def Unwinding.render : Unwinding → Rendering (Piece String)
  | expression text => return .raw text
  | values items => return .parameter (← obtainName (.parameter "unwind" (.list items)))

mutual

/-- Renders a clause of a statement that is bound through the allocator with that identifier. -/
def Clause.render (home : AllocatorId) : Clause → Rendering (Fragment String)
  | .spliced keyword text => do
      demand (checkNonBlank keyword.key text)
      return keyword.before [.raw text]
  | .raw text => do
      demand (checkNonBlank "raw" text)
      return [.raw text]
  | .pattern use shape => do
      let rendered ← shape.render use.mode
      return use.keyword.before rendered.text ++ hoistedPart rendered.hoisted
  | .assign moment assignment => do
      demand assignment.check
      return moment.keyword.before (← assignment.render)
  | .remove removal => do
      demand removal.check
      return Keyword.remove.before removal.fragment
  | .delete detach deletion => do
      demand deletion.check
      let target := Keyword.delete.before deletion.fragment
      return if detach then .fixed "DETACH " :: target else target
  | .project stage distinct projection => do
      demand (projection.check (stage.keyword distinct).key)
      return (stage.keyword distinct).before projection.fragment
  | .sort items => do
      demand (checkNonEmpty Keyword.order.key items)
      demand (checkEach SortItem.check items)
      return Keyword.order.before (Fragment.joinedBy ", " (items.map SortItem.fragment))
  | .unwind source newName => do
      demand source.check
      demand (checkNonBlank "as" newName)
      let list ← source.render
      return Keyword.unwind.before [list, .fixed " AS ", .name newName]
  | .page part count => do
      demand (part.check count)
      let name ← obtainName (.parameter part.keyword.key (.int (Int64.ofNat count)))
      return part.keyword.before [.parameter name]
  | .restrict criteria => return (← criteria.render).clause
  | .restrictBound condition => return condition.clause
  | .forEach item list body => do
      demand (checkNonBlank "variable" item)
      demand (checkNonBlank "list" list)
      let inner ← Clause.renderBody home Keyword.forEach.key body
      return Keyword.forEach.before
        [.fixed "(", .name item, .fixed " IN ", .raw list, .fixed " | ", inner, .fixed ")"]
  | .call body => do
      let inner ← Clause.renderBody home Keyword.call.key body
      return Keyword.call.before [.fixed "\x7b ", inner, .fixed " \x7d"]

/-- Renders what is pending in a body behind what is written there; the body itself stays. -/
def Clause.renderBody (home : AllocatorId) (key : String) : Body Clause → Rendering (Piece String)
  | ⟨written, pending, allocator⟩ => do
      demand (if allocator ≠ home then .error (.composition (.foreignBody key)) else .ok ())
      let rendered ← Clause.renderAll allocator pending
      return .body (written.map Prod.snd ++ rendered)

/-- Renders clauses in order; the first that fails ends it. -/
def Clause.renderAll (home : AllocatorId) : List Clause → Rendering (List (Fragment String))
  | [] => return []
  | clause :: rest => do
      let first ← clause.render home
      let more ← Clause.renderAll home rest
      return first :: more

end

/-! ## Statements -/

namespace Query

/-- Renders the pending clauses one by one and keeps each of them at once. A clause that fails
stays pending, and so do those behind it. -/
def advance (home : AllocatorId) :
    List Clause → List (Clause × Fragment String) → Allocator →
      EStateM.Result Error (Query × Allocator) Unit
  | [], written, allocator => .ok () (⟨written, [], home⟩, allocator)
  | clause :: rest, written, allocator =>
      match (clause.render home).run allocator with
      | .ok fragment after => advance home rest (written ++ [(clause, fragment)]) after
      | .error error after => .error error (⟨written, clause :: rest, home⟩, after)

/-- Forgets the fragments of all clauses but the first ones, which are then pending again. -/
def truncate (count : Nat) (query : Query) : Query :=
  ⟨query.written.take count, (query.written.drop count).map Prod.fst ++ query.pending,
    query.allocator⟩

/-- The statement of a query. When a clause fails, the fragments of this call are forgotten and the
allocator is put back. -/
def statementInPlace (query : Query) (allocator : Allocator) :
    EStateM.Result Error (Query × Allocator) String :=
  match advance query.allocator query.pending query.written allocator with
  | .ok _ (done, after) => .ok done.text (done, after)
  | .error error (unfinished, _) =>
      .error error (unfinished.truncate query.written.length, allocator)

end Query

namespace Workspace

/-- Stores a query and its allocator, whether its statement succeeded or not. -/
def settleStatement (workspace : Workspace) (name : String) (home : AllocatorId)
    (answer : String → Allocator → Outcome) :
    EStateM.Result Error (Query × Allocator) String → Outcome × Workspace
  | .ok text (done, after) =>
      (answer text after, (workspace.setQuery name done).setAllocator home after)
  | .error error (undone, after) =>
      (.refused error, (workspace.setQuery name undone).setAllocator home after)

/-- Does one step in place. -/
def stepInPlace (workspace : Workspace) (name : String) (step : Step) : Outcome × Workspace :=
  let (query, opened) := workspace.openQuery name
  let rendered := query.statementInPlace (opened.allocator query.allocator)
  match step with
  | .statement =>
      opened.settleStatement name query.allocator (fun text _ => .statement text) rendered
  | .compile =>
      opened.settleStatement name query.allocator
        (fun text after => .compiled ⟨text, after.parameters⟩) rendered
  | other => workspace.step name other

/-- Does steps to the queries of these names in turn. -/
def runInPlace (workspace : Workspace) : List (String × Step) → List Outcome × Workspace
  | [] => ([], workspace)
  | call :: rest =>
      let (outcome, after) := workspace.stepInPlace call.1 call.2
      let (outcomes, last) := after.runInPlace rest
      (outcome :: outcomes, last)

end Workspace
end Cypher
