import Cypher.Proofs.Incremental
import Cypher.Session

/-!
# Sessions add up their accepted lines

A session tries each line on a copy of its query, and the copy shares the
allocator. Whatever lines are refused, and at whatever stage, the session is where
a new query is to which the accepted lines are added at once.
-/

namespace Cypher

/-- The clauses of a text do not depend on what the query holds already. -/
theorem Query.addText_cases (home : AllocatorId) (line : String) :
    (∃ error, ∀ written pending, addText ⟨written, pending, home⟩ line = .error error) ∨
      ∃ clauses, ∀ written pending,
        addText ⟨written, pending, home⟩ line = .ok ⟨written, pending ++ clauses, home⟩ := by
  unfold addText addPayload
  cases Json.read line with
  | error error => exact .inl ⟨.json error, fun _ _ => rfl⟩
  | ok json =>
    cases read : Payload.readClauses home json with
    | error error =>
      refine .inl ⟨error, fun _ _ => ?_⟩
      show (Payload.readClauses home json).map _ = _
      rw [read]
      rfl
    | ok clauses =>
      refine .inr ⟨clauses, fun _ _ => ?_⟩
      show (Payload.readClauses home json).map _ = _
      rw [read]
      rfl

namespace Session

/-- Adds a payload in place. The copy of the query on which it is tried is dropped when it is
refused, but the allocator is the one that the session has. -/
def addInPlace (session : Session) (line : String) : Except Error String × Session :=
  match session.query.addText line with
  | .error error => (.error error, session)
  | .ok candidate =>
    match candidate.statementInPlace session.allocator with
    | .ok text (done, after) => (.ok text, ⟨done, after⟩)
    | .error error (_, after) => (.error error, ⟨session.query, after⟩)

/-- What is answered to lines in turn, and the session after them. -/
def addLines (session : Session) : List String → List (Except Error String) × Session
  | [] => ([], session)
  | line :: rest =>
    let (answer, after) := session.addInPlace line
    let (answers, last) := after.addLines rest
    (answer :: answers, last)

/-- The lines to which a statement was answered. -/
def accepted (lines : List String) (answers : List (Except Error String)) : List String :=
  ((lines.zip answers).filter fun pair => pair.2.isOk).map Prod.fst

/-- A new query with the payloads of all lines. -/
def batch (lines : List String) : Except Error Query :=
  lines.foldlM Query.addText (.empty soleAllocator)

/-- The answer to a line and the session after it, from what all lines with it compile to: the
statement and what was compiled, or the error and the session as it was. -/
def answerOf (session : Session) :
    Except Error (Compiled × Query × Allocator) → Except Error String × Session
  | .ok (compiled, done, after) => (.ok compiled.statement, ⟨done, after⟩)
  | .error error => (.error error, session)

/-! ## One line -/

/-- A candidate is asked for its statement, and taken or dropped. -/
theorem addInPlace_of_ok {session : Session} {line : String} {candidate : Query}
    (read : session.query.addText line = .ok candidate) :
    session.addInPlace line = match candidate.statementInPlace session.allocator with
      | .ok text (done, after) => (.ok text, ⟨done, after⟩)
      | .error error (_, after) => (.error error, ⟨session.query, after⟩) := by
  rw [addInPlace, read]

theorem addInPlace_eq (session : Session) (line : String) :
    session.addInPlace line =
      session.answerOf ((session.query.addText line).bind (·.compile session.allocator)) := by
  cases read : session.query.addText line with
  | error error =>
    rw [addInPlace, read]
    rfl
  | ok candidate =>
    rw [addInPlace_of_ok read, Query.statementInPlace_eq]
    show _ = session.answerOf (candidate.compile session.allocator)
    rw [Query.compile]
    cases candidate.write session.allocator <;> rfl

/-- What is done in place is what the session does. -/
theorem addInPlace_eq_add (session : Session) (line : String) :
    session.addInPlace line = match session.add line with
      | .ok (text, after) => (Except.ok text, after)
      | .error error => (Except.error error, session) := by
  rw [add]
  cases read : session.query.addText line with
  | error error =>
    rw [addInPlace, read]
    rfl
  | ok candidate =>
    rw [addInPlace_of_ok read, Query.statementInPlace_eq]
    show _ = match (candidate.write session.allocator >>= fun result =>
        Except.ok (result.1.text, Session.mk result.1 result.2)) with
      | .ok (text, after) => (Except.ok text, after)
      | .error error => (Except.error error, session)
    cases candidate.write session.allocator <;> rfl

/-- The session has rendered these lines, and nothing else. -/
def Follows (lines : List String) (session : Session) : Prop :=
  ∃ clauses, batch lines = .ok ⟨[], clauses, soleAllocator⟩ ∧ session.query.pending = [] ∧
    Query.Reached soleAllocator .empty clauses (session.query, session.allocator)

theorem follows_new : Follows [] new :=
  ⟨[], rfl, rfl, .start_empty soleAllocator .empty⟩

theorem batch_concat {lines : List String} {query : Query} (built : batch lines = .ok query)
    (line : String) : batch (lines ++ [line]) = query.addText line := by
  rw [batch, List.foldlM_append]
  show (batch lines >>= fun query => (query.addText line >>= pure)) = _
  rw [built]
  exact bind_pure (query.addText line)

namespace Follows

variable {lines : List String} {session : Session}

/-- What the session compiles to is what its lines compile to at once. -/
theorem compile_eq (follows : Follows lines session) :
    (batch lines).bind (·.compile .empty) = session.query.compile session.allocator := by
  obtain ⟨clauses, built, _, reached⟩ := follows
  rw [built, reached.compile]
  rfl

/-- There is nothing left to render. -/
theorem compile_ok (follows : Follows lines session) :
    session.query.compile session.allocator =
      .ok (⟨session.query.text, session.allocator.parameters⟩, session.query,
        session.allocator) := by
  obtain ⟨_, _, settled, _⟩ := follows
  obtain ⟨⟨written, pending, home⟩, allocator⟩ := session
  obtain rfl : pending = [] := settled
  rw [Query.compile, Query.write_settled]
  rfl

/-- One more line compiles to the same, added to the session or to all lines before it. -/
theorem compile_concat (follows : Follows lines session) (line : String) :
    (session.query.addText line).bind (·.compile session.allocator) =
      (batch (lines ++ [line])).bind (·.compile .empty) := by
  obtain ⟨clauses, built, _, reached⟩ := follows
  obtain ⟨_, _, same, _⟩ := id reached
  obtain ⟨⟨written, pending, home⟩, allocator⟩ := session
  obtain rfl : home = soleAllocator := same
  rw [batch_concat built]
  rcases Query.addText_cases soleAllocator line with ⟨error, refused⟩ | ⟨more, read⟩
  · rw [refused, refused]
    rfl
  · rw [read, read]
    exact (reached.addAll more).compile

/-- A line that is answered is one more line that the session has rendered. -/
theorem accept (follows : Follows lines session) {line text : String} {after : Session}
    (answered : session.addInPlace line = (.ok text, after)) :
    Follows (lines ++ [line]) after := by
  obtain ⟨clauses, built, _, reached⟩ := follows
  obtain ⟨_, _, same, _⟩ := id reached
  obtain ⟨⟨written, pending, home⟩, allocator⟩ := session
  obtain rfl : home = soleAllocator := same
  rcases Query.addText_cases soleAllocator line with ⟨error, refused⟩ | ⟨more, read⟩
  · rw [addInPlace, refused] at answered
    cases answered
  · have next := (reached.addAll more).statement
    rw [addInPlace_of_ok (read written pending)] at answered
    change Query.Reached _ _ _ (Query.left (Query.statementInPlace
      ⟨written, pending ++ more, soleAllocator⟩ allocator)) at next
    rw [Query.statementInPlace_eq] at answered next
    cases made : Query.write ⟨written, pending ++ more, soleAllocator⟩ allocator with
    | error error =>
      rw [made] at answered
      cases answered
    | ok result =>
      obtain ⟨done, last⟩ := result
      rw [made] at answered next
      cases answered
      obtain ⟨_, rfl, _⟩ := Query.write_eq_ok made
      exact ⟨clauses ++ more, (batch_concat built line).trans (read [] clauses), rfl, next⟩

end Follows

/-- A line that is refused leaves the session as it was. -/
theorem eq_of_refused {session after : Session} {line : String} {error : Error}
    (answered : session.addInPlace line = (.error error, after)) : after = session := by
  rw [addInPlace_eq] at answered
  cases made : (session.query.addText line).bind (·.compile session.allocator) with
  | ok result =>
    rw [made] at answered
    cases answered
  | error reason =>
    rw [made] at answered
    cases answered
    rfl

/-! ## All lines -/

theorem addLines_concat (session : Session) (lines : List String) (line : String) :
    session.addLines (lines ++ [line]) =
      let (answers, before) := session.addLines lines
      let (answer, after) := before.addInPlace line
      (answers ++ [answer], after) := by
  induction lines generalizing session with
  | nil => rfl
  | cons first rest ih =>
    simp only [List.cons_append, addLines, ih]

/-- A session that has rendered some lines has then rendered those that it accepts, too. -/
theorem Follows.addLines {before : List String} {session : Session}
    (follows : Follows before session) (lines : List String) :
    Follows (before ++ accepted lines (session.addLines lines).1) (session.addLines lines).2 := by
  induction lines generalizing before session with
  | nil => simpa [accepted, Session.addLines] using follows
  | cons line rest ih =>
    cases answered : session.addInPlace line with
    | mk answer after =>
      simp only [Session.addLines, answered]
      cases answer with
      | ok text =>
        have here := ih (follows.accept answered)
        rw [List.append_assoc] at here
        exact here
      | error error =>
        obtain rfl := eq_of_refused answered
        exact ih follows

/-- After any lines, the session is where a new query is to which the accepted ones are added in
order: it compiles to the same statement and parameters, and its allocator has granted the same.
One more line is answered as that query answers it, with the statement or with the error; what is
refused leaves the session as it was, though it was tried on the allocator of the session. -/
theorem addLines_batch (lines : List String) (line : String) : ∃ answers session answer after,
    new.addLines lines = (answers, session) ∧ session.addInPlace line = (answer, after) ∧
      new.addLines (lines ++ [line]) = (answers ++ [answer], after) ∧
      (∃ query, batch (accepted lines answers) = .ok query ∧
        query.compile .empty = .ok (⟨session.query.text, session.allocator.parameters⟩,
          session.query, session.allocator)) ∧
      (batch (accepted lines answers)).bind (·.compile .empty) =
        session.query.compile session.allocator ∧
      (answer, after) = session.answerOf
        ((batch (accepted lines answers ++ [line])).bind (·.compile .empty)) ∧
      (answer, after) = match session.add line with
        | .ok (text, after) => (Except.ok text, after)
        | .error error => (Except.error error, session) := by
  have follows : Follows (accepted lines (new.addLines lines).1) (new.addLines lines).2 :=
    follows_new.addLines lines
  refine ⟨_, _, _, _, rfl, rfl, addLines_concat new lines line, ?_, follows.compile_eq, ?_,
    addInPlace_eq_add _ line⟩
  · obtain ⟨clauses, built, _⟩ := id follows
    have same := follows.compile_eq
    rw [built, follows.compile_ok] at same
    exact ⟨_, built, same⟩
  · exact (addInPlace_eq _ line).trans (congrArg _ (follows.compile_concat line))

end Session
end Cypher
