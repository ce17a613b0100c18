import Cypher.Condition.Basic
import Cypher.Draft
import Cypher.Error

/-!
# Bound conditions

Conditions whose values are parameters. They can be written as a boolean
expression, and, when all of them are equalities on different properties, as
the inside of a pattern.
-/

namespace Cypher

/-- An operand whose value, if it has one, is a parameter. -/
inductive BoundOperand (ρ : Type)
  | parameter (ref : ρ)
  | literal (text : String)

/-- The identifier that a comparison is about. -/
inductive Subject (ρ : Type)
  | given (name : String)
  | synthesized (ref : ρ)

/-- One comparison. -/
structure Comparison (ρ : Type) where
  subject : Subject ρ
  property : String
  operator : Operator
  operand : BoundOperand ρ

/-- Comparisons all of which must hold. -/
structure Where (ρ : Type) where
  comparisons : List (Comparison ρ)

variable {ρ σ : Type}

def BoundOperand.map (f : ρ → σ) : BoundOperand ρ → BoundOperand σ
  | parameter ref => .parameter (f ref)
  | literal text => .literal text

def BoundOperand.piece : BoundOperand ρ → Piece ρ
  | parameter ref => .parameter ref
  | literal text => .raw text

/-- Asks for a parameter named like a property, if the operand has a value. -/
def Operand.ask (property : String) : Operand → Asking (BoundOperand Ref)
  | value bound => do return .parameter (← Cypher.ask (.parameter property bound))
  | literal text => return .literal text

def Subject.map (f : ρ → σ) : Subject ρ → Subject σ
  | given name => .given name
  | synthesized ref => .synthesized (f ref)

def Subject.piece : Subject ρ → Piece ρ
  | given name => .name name
  | synthesized ref => .identifier ref

namespace Comparison

def map (f : ρ → σ) (comparison : Comparison ρ) : Comparison σ :=
  { comparison with
    subject := comparison.subject.map f
    operand := comparison.operand.map f }

/-- The comparison as a boolean expression. -/
def fragment (comparison : Comparison ρ) : Fragment ρ :=
  let target : Fragment ρ := [comparison.subject.piece, .fixed ".", .name comparison.property]
  match comparison.operator with
  -- the property is the list that is searched
  | .holds => comparison.operand.piece :: .fixed " IN " :: target
  | operator => target ++ [.fixed (" " ++ operator.symbol ++ " "), comparison.operand.piece]

/-- The comparison as an entry of a map. -/
def entry (comparison : Comparison ρ) : Fragment ρ :=
  [.name comparison.property, .fixed ": ", comparison.operand.piece]

end Comparison

/-- A map with these entries between curly brackets, `\x7b` and `\x7d`; nothing without entries. -/
def braced : List (Fragment ρ) → Fragment ρ
  | [] => []
  | entries => .fixed "\x7b " :: Fragment.joinedBy ", " entries ++ [.fixed " \x7d"]

namespace Where

def map (f : ρ → σ) (condition : Where ρ) : Where σ := ⟨condition.comparisons.map (·.map f)⟩

def empty : Where ρ := ⟨[]⟩

def isEmpty (condition : Where ρ) : Bool := condition.comparisons.isEmpty

/-- Whether every comparison is an equality. -/
def isEqualityOnly (condition : Where ρ) : Bool :=
  condition.comparisons.all fun comparison => comparison.operator.isEq

/-- Both conditions. -/
def and (first second : Where ρ) : Where ρ := ⟨first.comparisons ++ second.comparisons⟩

/-- The parameters that the condition refers to. -/
def parameters (condition : Where ρ) : List ρ :=
  condition.comparisons.filterMap fun comparison =>
    match comparison.operand with
    | .parameter ref => some ref
    | .literal _ => none

/-- The condition as a boolean expression; nothing when there are no comparisons. -/
def expression (condition : Where ρ) : Fragment ρ :=
  Fragment.joinedBy " AND " (condition.comparisons.map Comparison.fragment)

/-- The condition as a map. -/
def inline (condition : Where ρ) : Fragment ρ :=
  braced (condition.comparisons.map Comparison.entry)

/-- Refuses what a map cannot say, given the properties that it has already. -/
def checkEntries (seen : List String) : List (Comparison ρ) → Except Error Unit
  | [] => .ok ()
  | comparison :: rest =>
      if comparison.operator.isEq = false then
        .error (.shape comparison.property .equality (.operator comparison.operator.key))
      else if comparison.property ∈ seen then
        .error (.shape comparison.property .singleInlineValue .severalEqualities)
      else checkEntries (comparison.property :: seen) rest

/-- The condition as a map, if it consists of equalities on different properties. -/
def inline? (condition : Where ρ) : Except Error (Fragment ρ) := do
  checkEntries [] condition.comparisons
  return condition.inline

/-- Fills the gaps of a condition. -/
def fill (names : List String) (condition : Where Ref) : Where String :=
  condition.map (Ref.resolve names)

end Where

/-- Asks for the operands of one property, in order. -/
def Condition.ask (subject : Subject Ref) (property : String) (condition : Condition) :
    Asking (List (Comparison Ref)) :=
  askAll (fun comparison => do
    let operand ← comparison.2.ask property
    return ⟨subject, property, comparison.1, operand⟩) condition.comparisons

/-- Asks for all operands, property by property. -/
def Conditions.ask (subject : Subject Ref) (conditions : Conditions) : Asking (Where Ref) := do
  let parts ← askAll (fun entry => entry.2.ask subject entry.1) conditions.entries
  return ⟨parts.flatten⟩

/-- Asks for all operands, identifier by identifier. -/
def Criteria.ask (criteria : Criteria) : Asking (Where Ref) := do
  let parts ← askAll (fun entry => entry.2.ask (.given entry.1)) criteria.entries
  return ⟨(parts.map Where.comparisons).flatten⟩

/-- Binds every value now. -/
def Criteria.bind (criteria : Criteria) (allocator : Allocator) : Where String × Allocator :=
  settle Where.fill criteria.ask allocator

/-- Binds the values of the conditions on one identifier now. -/
def Conditions.bind (conditions : Conditions) (identifier : String) (allocator : Allocator) :
    Where String × Allocator :=
  settle Where.fill (conditions.ask (.given identifier)) allocator

end Cypher
