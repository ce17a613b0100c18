import Cypher.Clause.Draft
import Cypher.Value.Json

/-!
# Queries

A query collects clauses and writes each of them once. Writing the clauses that
are pending either succeeds for all of them or changes nothing.
-/

namespace Cypher

/-- A statement under construction. -/
abbrev Query := Body Clause

/-- A statement and the parameters it refers to. -/
structure Compiled where
  statement : String
  parameters : OrderedMap Value

namespace Query

/-- A query without clauses. -/
def empty (allocator : AllocatorId) : Query := ⟨[], [], allocator⟩

/-- All clauses, in order. -/
def clauses (query : Query) : List Clause := query.written.map Prod.fst ++ query.pending

def addAll (query : Query) (clauses : List Clause) : Query :=
  { query with pending := query.pending ++ clauses }

def add (query : Query) (clause : Clause) : Query := query.addAll [clause]

/-- The fragments of the clauses that are written. -/
def fragments (query : Query) : List (Fragment String) := query.written.map Prod.snd

/-- The statement that the written clauses make. -/
def text (query : Query) : String :=
  String.ofList (Spacing.joined (Fragment.allChars query.fragments))

/-- Fills the gaps of several fragments. -/
def fillAll (names : List String) (fragments : List (Fragment Ref)) : List (Fragment String) :=
  fragments.map (Fragment.fill names)

/-- Writes the pending clauses, or says why one of them cannot be written. -/
def write (query : Query) (allocator : Allocator) : Except Error (Query × Allocator) := do
  Clause.checkAll query.allocator query.pending
  let (fragments, after) := settle fillAll (Clause.askAll query.pending) allocator
  return (⟨query.written ++ query.pending.zip fragments, [], query.allocator⟩, after)

/-- The statement of a query whose allocator may not be touched now. -/
def textWhileBusy (query : Query) : Except Error String :=
  if query.pending.isEmpty then .ok query.text else .error (.composition .allocatorBusy)

end Query

/-- The JSON form of a compiled query. -/
def Compiled.toJson (compiled : Compiled) : Json :=
  .object [("statement", .string compiled.statement),
    ("parameters", .object (Value.entriesToJson compiled.parameters.entries))]

end Cypher
