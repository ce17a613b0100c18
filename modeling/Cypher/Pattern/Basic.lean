import Cypher.Condition.Basic

/-!
# Patterns

Nodes and relationships as they are matched or created, alone, side by side or
along a path.
-/

namespace Cypher

/-- The labels of a node. -/
inductive Label
  /-- The node has every one of them. -/
  | all (names : List String)
  /-- The node has at least one of them. -/
  | any (names : List String)
  /-- Label text that is written as it is. -/
  | resolved (text : String)

/-- What the content of a pattern has to satisfy. -/
inductive Filter
  | nothing
  /-- Property values, written inside the pattern. -/
  | properties (properties : Properties)
  /-- Equalities are written inside the pattern, and all else in the condition of the clause. -/
  | conditions (conditions : Conditions)

/-- A node. -/
structure NodePattern where
  identifier : Option String
  label : Option Label
  filter : Filter

/-- A node as raw text or as a pattern. -/
inductive Node
  | raw (text : String)
  | pattern (pattern : NodePattern)

/-- Which way a relationship goes. -/
inductive Direction
  | forward
  | backward
  | either
  deriving DecidableEq, Repr

/-- One end of a range of hops. -/
inductive HopBound
  | finite (hops : Nat)
  | infinite
  deriving DecidableEq, Repr

/-- How many relationships in a row are meant. Without bounds it is one. -/
structure Hops where
  min : Option HopBound
  max : Option HopBound
  deriving DecidableEq, Repr

/-- A relationship; several types mean any of them. -/
structure RelationshipPattern where
  direction : Direction
  identifier : Option String
  types : List String
  filter : Filter
  hops : Hops

/-- A relationship as raw text or as a pattern. -/
inductive Relationship
  | raw (text : String)
  | pattern (pattern : RelationshipPattern)

/-- An element of a path. -/
inductive PathElement
  | node (node : Node)
  | relationship (relationship : Relationship)

/-- What is matched or created. -/
inductive Pattern
  | node (node : Node)
  /-- Nodes side by side. -/
  | nodes (nodes : List Node)
  /-- Nodes, and relationships between them. -/
  | path (elements : List PathElement)

/-- Whether patterns are looked for or made. -/
inductive Mode
  | matching
  | creating
  deriving DecidableEq, Repr

/-- A pattern that says nothing. -/
def NodePattern.anonymous : NodePattern := ⟨none, none, .nothing⟩

/-- A relationship of either direction that says nothing else. -/
def RelationshipPattern.anonymous : RelationshipPattern :=
  ⟨.either, none, [], .nothing, ⟨none, none⟩⟩

def Label.isEmpty : Label → Bool
  | all names => names.isEmpty
  | any names => names.isEmpty
  | resolved text => text.isEmpty

def PathElement.isNode : PathElement → Bool
  | node _ => true
  | relationship _ => false

end Cypher
