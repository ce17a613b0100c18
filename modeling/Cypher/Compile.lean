import Cypher.Json.Reader
import Cypher.Payload.Clause
import Cypher.Query

/-!
# Compiling payloads

A payload becomes the clauses of a query, and a query becomes its statement
with the parameters of its allocator. A payload that is refused leaves the
query as it was.
-/

namespace Cypher

namespace Query

/-- Adds the clauses of a payload. -/
def addPayload (query : Query) (payload : Json) : Except Error Query :=
  (Payload.readClauses query.allocator payload).map query.addAll

/-- Adds the clauses of a payload that is given as text. -/
def addText (query : Query) (text : String) : Except Error Query := do
  query.addPayload (← (Json.read text).mapError Error.json)

/-- Writes what is pending. The result has all parameters of the allocator. -/
def compile (query : Query) (allocator : Allocator) :
    Except Error (Compiled × Query × Allocator) := do
  let (done, after) ← query.write allocator
  return (⟨done.text, after.parameters⟩, done, after)

end Query

/-- The only allocator of a query that stands alone. -/
def soleAllocator : AllocatorId := 0

/-- The statement of a query with an allocator of its own. -/
def Query.compiled (query : Query) : Except Error Compiled :=
  (query.compile .empty).map Prod.fst

/-- Compiles a payload. -/
def compile (payload : Json) : Except Error Compiled := do
  (← (Query.empty soleAllocator).addPayload payload).compiled

/-- A payload is read, and then its clauses are written. -/
theorem compile_eq_compiled (payload : Json) :
    compile payload = Payload.readClauses soleAllocator payload >>= fun clauses =>
      Query.compiled ⟨[], clauses, soleAllocator⟩ := by
  rw [compile, Query.addPayload, Query.empty]
  cases Payload.readClauses soleAllocator payload <;> rfl

/-- Compiles a payload that is given as text. -/
def compileText (text : String) : Except Error Compiled := do
  (← (Query.empty soleAllocator).addText text).compiled

end Cypher
