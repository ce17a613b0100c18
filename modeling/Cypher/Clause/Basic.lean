import Cypher.Condition.Where
import Cypher.Pattern.Basic

/-!
# Clauses

A clause is a keyword with what it acts on, given either as text of the caller,
which is written behind the keyword as it is, or as a structure whose names are
quoted where needed and whose values become parameters.
-/

namespace Cypher

/-- The keywords that clauses begin with. -/
inductive Keyword
  | find
  | findOptional
  | create
  | merge
  | set
  | setOnCreate
  | setOnMatch
  | remove
  | delete
  | yield
  | yieldDistinct
  | carry
  | carryDistinct
  | order
  | unwind
  | skip
  | limit
  | restrict
  | forEach
  | call
  deriving DecidableEq, Repr

/-- The keyword in a statement. -/
def Keyword.text : Keyword → String
  | find => "MATCH"
  | findOptional => "OPTIONAL MATCH"
  | create => "CREATE"
  | merge => "MERGE"
  | set => "SET"
  | setOnCreate => "ON CREATE SET"
  | setOnMatch => "ON MATCH SET"
  | remove => "REMOVE"
  | delete => "DELETE"
  | yield => "RETURN"
  | yieldDistinct => "RETURN DISTINCT"
  | carry => "WITH"
  | carryDistinct => "WITH DISTINCT"
  | order => "ORDER BY"
  | unwind => "UNWIND"
  | skip => "SKIP"
  | limit => "LIMIT"
  | restrict => "WHERE"
  | forEach => "FOREACH"
  | call => "CALL"

/-- The name of the clause in payloads. -/
def Keyword.key : Keyword → String
  | find => "match"
  | findOptional => "match"
  | create => "create"
  | merge => "merge"
  | set => "set"
  | setOnCreate => "onCreateSet"
  | setOnMatch => "onMatchSet"
  | remove => "remove"
  | delete => "delete"
  | yield => "return"
  | yieldDistinct => "return"
  | carry => "with"
  | carryDistinct => "with"
  | order => "orderBy"
  | unwind => "unwind"
  | skip => "skip"
  | limit => "limit"
  | restrict => "where"
  | forEach => "forEach"
  | call => "call"

/-- The clauses that take patterns. -/
inductive PatternUse
  | find
  | findOptional
  | create
  | merge
  deriving DecidableEq, Repr

def PatternUse.keyword : PatternUse → Keyword
  | find => .find
  | findOptional => .findOptional
  | create => .create
  | merge => .merge

def PatternUse.mode : PatternUse → Mode
  | find => .matching
  | findOptional => .matching
  | create => .creating
  | merge => .creating

/-- When properties are set. -/
inductive SetMoment
  | always
  | onCreate
  | onMatch
  deriving DecidableEq, Repr

def SetMoment.keyword : SetMoment → Keyword
  | always => .set
  | onCreate => .setOnCreate
  | onMatch => .setOnMatch

/-- Properties of an identifier that get new values. -/
structure Assignment where
  identifier : String
  properties : Properties

/-- What is removed from an identifier. -/
inductive Removal
  | properties (identifier : String) (names : List String)
  | labels (identifier : String) (names : List String)

/-- What is deleted. -/
inductive Deletion
  | identifiers (identifiers : List String)
  /-- Text of the caller. -/
  | literal (text : String)

/-- Whether values end the query or go on to its next part. -/
inductive Stage
  | result
  | next
  deriving DecidableEq, Repr

def Stage.keyword : Stage → Bool → Keyword
  | result, false => .yield
  | result, true => .yieldDistinct
  | next, false => .carry
  | next, true => .carryDistinct

/-- An identifier or a property of it, perhaps under another name. -/
structure ProjectionItem where
  identifier : String
  property : Option String
  newName : Option String
  deriving DecidableEq, Repr

/-- The values that go on. -/
inductive Projection
  /-- Identifiers. -/
  | names (names : List String)
  | items (items : List ProjectionItem)

inductive SortDirection
  | ascending
  | descending
  deriving DecidableEq, Repr

/-- An identifier or a property of it to sort by. -/
structure SortItem where
  identifier : String
  property : Option String
  direction : Option SortDirection
  deriving DecidableEq, Repr

/-- A list whose items are taken one by one. -/
inductive Unwinding
  /-- An expression of the caller. -/
  | expression (text : String)
  /-- Values, bound as one parameter. -/
  | values (values : List Value)

/-- Which end of the result is cut. -/
inductive Page
  | skip
  | limit
  deriving DecidableEq, Repr

def Page.keyword : Page → Keyword
  | skip => .skip
  | limit => .limit

/-- Identifies an allocator: parts of one statement must have the same one. -/
abbrev AllocatorId := Nat

/-- Clauses, of which the first ones are written already, and the allocator they bind through. -/
structure Body (κ : Type) where
  written : List (κ × Fragment String)
  pending : List κ
  allocator : AllocatorId

/-- A clause of a statement. -/
inductive Clause
  /-- A keyword with text of the caller. -/
  | spliced (keyword : Keyword) (text : String)
  /-- Text of the caller alone. -/
  | raw (text : String)
  | pattern (use : PatternUse) (pattern : Pattern)
  | assign (moment : SetMoment) (assignment : Assignment)
  | remove (removal : Removal)
  | delete (detach : Bool) (deletion : Deletion)
  | project (stage : Stage) (distinct : Bool) (projection : Projection)
  | sort (items : List SortItem)
  | unwind (source : Unwinding) (newName : String)
  | page (part : Page) (count : Nat)
  | restrict (criteria : Criteria)
  /-- A condition whose values are bound already. -/
  | restrictBound (condition : Where String)
  | forEach (item list : String) (body : Body Clause)
  | call (body : Body Clause)

instance : Inhabited Clause := ⟨.raw ""⟩

/-- The name of a clause in payloads. -/
def Clause.key : Clause → String
  | spliced keyword _ => keyword.key
  | raw _ => "raw"
  | pattern use _ => use.keyword.key
  | assign moment _ => moment.keyword.key
  | remove _ => Keyword.remove.key
  | delete _ _ => Keyword.delete.key
  | project stage distinct _ => (stage.keyword distinct).key
  | sort _ => Keyword.order.key
  | unwind _ _ => Keyword.unwind.key
  | page part _ => part.keyword.key
  | restrict _ => Keyword.restrict.key
  | restrictBound _ => Keyword.restrict.key
  | forEach _ _ _ => Keyword.forEach.key
  | call _ => Keyword.call.key

end Cypher
