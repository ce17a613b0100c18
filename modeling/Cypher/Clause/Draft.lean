import Cypher.Clause.Check
import Cypher.Pattern.Draft

/-!
# Drafting clauses

How each clause is written, and which names it asks for.
-/

namespace Cypher

variable {ρ : Type}

/-- A keyword and what follows it. -/
def Keyword.before (keyword : Keyword) (rest : Fragment ρ) : Fragment ρ :=
  .fixed (keyword.text ++ " ") :: rest

/-- An identifier, or a property of it. -/
def propertyAccess (identifier : String) (property : Option String) : Fragment ρ :=
  match property with
  | some name => [.name identifier, .fixed ".", .name name]
  | none => [.name identifier]

/-- A label behind an identifier; nothing follows it when there is no label. -/
def identifierWithLabel (identifier : String) (label : Option Label) : Fragment ρ :=
  .name identifier :: labelPart label

/-- Properties with their new values, as in `n.a = $a, n.b = $b`. -/
def Assignment.ask (assignment : Assignment) : Asking (Fragment Ref) := do
  let owner : Fragment Ref := [.name assignment.identifier, .fixed "."]
  return Fragment.joinedBy ", " (← assignment.properties.ask " = " owner)

def Removal.fragment : Removal → Fragment ρ
  | properties identifier names =>
      Fragment.joinedBy ", " (names.map fun name => propertyAccess identifier (some name))
  | labels identifier names => .name identifier :: .fixed ":" :: Fragment.names ":" names

def Deletion.fragment : Deletion → Fragment ρ
  | identifiers names => Fragment.names ", " names
  | literal text => [.raw text]

def ProjectionItem.fragment (item : ProjectionItem) : Fragment ρ :=
  propertyAccess item.identifier item.property ++
    match item.newName with
    | some newName => [.fixed " AS ", .name newName]
    | none => []

def Projection.fragment : Projection → Fragment ρ
  | names given => Fragment.names ", " given
  | items given => Fragment.joinedBy ", " (given.map ProjectionItem.fragment)

def SortItem.fragment (item : SortItem) : Fragment ρ :=
  propertyAccess item.identifier item.property ++
    match item.direction with
    | some .ascending => [.fixed " ASC"]
    | some .descending => [.fixed " DESC"]
    | none => []

/-- The list that is unwound. Values are one parameter. -/
def Unwinding.ask : Unwinding → Asking (Piece Ref)
  | expression text => return .raw text
  | values items => return .parameter (← Cypher.ask (.parameter "unwind" (.list items)))

/-- A condition without comparisons is not written at all. -/
def Where.clause (condition : Where ρ) : Fragment ρ :=
  if condition.isEmpty then [] else Keyword.restrict.before condition.expression

mutual

/-- The draft of a clause. -/
def Clause.ask : Clause → Asking (Fragment Ref)
  | .spliced keyword text => return keyword.before [.raw text]
  | .raw text => return [.raw text]
  | .pattern use shape => do
      let drafted ← shape.ask
      return use.keyword.before drafted.text ++ hoistedPart drafted.hoisted
  | .assign moment assignment => return moment.keyword.before (← assignment.ask)
  | .remove removal => return Keyword.remove.before removal.fragment
  | .delete detach deletion =>
      let target := Keyword.delete.before deletion.fragment
      return if detach then .fixed "DETACH " :: target else target
  | .project stage distinct projection =>
      return (stage.keyword distinct).before projection.fragment
  | .sort items =>
      return Keyword.order.before (Fragment.joinedBy ", " (items.map SortItem.fragment))
  | .unwind source newName => do
      let list ← source.ask
      return Keyword.unwind.before [list, .fixed " AS ", .name newName]
  | .page part count => do
      let ref ← Cypher.ask (.parameter part.keyword.key (.int (Int64.ofNat count)))
      return part.keyword.before [.parameter ref]
  | .restrict criteria => return (← criteria.ask).clause
  | .restrictBound condition => return (condition.map Ref.granted).clause
  | .forEach item list body => do
      let inner ← Clause.askBody body
      return Keyword.forEach.before
        [.fixed "(", .name item, .fixed " IN ", .raw list, .fixed " | ", inner, .fixed ")"]
  | .call body => do
      let inner ← Clause.askBody body
      -- in curly brackets
      return Keyword.call.before [.fixed "\x7b ", inner, .fixed " \x7d"]

/-- The draft of a nested statement: what is written already, and then the drafts of the rest. -/
def Clause.askBody : Body Clause → Asking (Piece Ref)
  | ⟨written, pending, _⟩ => do
      let drafted ← Clause.askAll pending
      return .body (written.map (fun clause => Fragment.map Ref.granted clause.2) ++ drafted)

/-- The drafts of clauses, in order. -/
def Clause.askAll : List Clause → Asking (List (Fragment Ref))
  | [] => return []
  | clause :: rest => do
      let first ← clause.ask
      let more ← Clause.askAll rest
      return first :: more

end

end Cypher
