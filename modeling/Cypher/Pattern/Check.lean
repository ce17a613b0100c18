import Cypher.Error
import Cypher.Pattern.Basic

/-!
# Checking patterns

What is created can only have equalities, each property one. A range of hops
must not end before it begins. A path goes from node to node.
-/

namespace Cypher

/-- Created patterns cannot have conditions outside of themselves. -/
def Filter.check (mode : Mode) : Filter → Except Error Unit
  | .conditions required =>
      match mode, required.hoistedHalf.entries with
      | .creating, entry :: _ =>
          .error (.shape "where" .equalityWhenCreating
            (.operatorsOn (entry.2.comparisons.map fun comparison => comparison.1.key) entry.1))
      | _, _ => .ok ()
  | _ => .ok ()

/-- A range of hops is not empty. -/
def Hops.check (hops : Hops) : Except Error Unit :=
  match hops.min, hops.max with
  | some (.finite min), some (.finite max) =>
      if max < min then
        .error (.shape "minHops" (.atMostMaxHops max) (.json (.number (.integer min))))
      else .ok ()
  | _, _ => .ok ()

def Node.check (mode : Mode) : Node → Except Error Unit
  | raw _ => .ok ()
  | pattern shape => shape.filter.check mode

def Relationship.check (mode : Mode) : Relationship → Except Error Unit
  | raw _ => .ok ()
  | pattern shape => do
      shape.hops.check
      shape.filter.check mode

def PathElement.check (mode : Mode) : PathElement → Except Error Unit
  | node element => element.check mode
  | relationship element => element.check mode

/-- Every element passes, and the first that does not says why. -/
def checkEach {α : Type} (check : α → Except Error Unit) : List α → Except Error Unit
  | [] => .ok ()
  | item :: rest => do
      check item
      checkEach check rest

/-- Nodes and relationships take turns from the element with this index on; `isNodeDue` tells
what that one has to be. -/
def checkAlternation (index : Nat) (isNodeDue : Bool) : List PathElement → Except Error Unit
  | [] => if isNodeDue then .error (.composition .danglingRelationship) else .ok ()
  | element :: rest =>
      if element.isNode = isNodeDue then checkAlternation (index + 1) (!isNodeDue) rest
      else .error (.composition (.misplacedElement index isNodeDue))

/-- The path is a node, or goes on from one node to the next. -/
def checkPath (elements : List PathElement) : Except Error Unit :=
  match elements with
  | [] => .error (.emptyList "related")
  | _ => checkAlternation 0 true elements

def Pattern.check (mode : Mode) : Pattern → Except Error Unit
  | node single => single.check mode
  | nodes [] => .error (.emptyList "multiple")
  | nodes siblings => checkEach (Node.check mode) siblings
  | path elements => do
      checkPath elements
      checkEach (PathElement.check mode) elements

end Cypher
