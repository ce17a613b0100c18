import Cypher.Proofs.Respacing
import Cypher.Proofs.SameAllocator

/-!
# Bodies as statements

A body is rendered in its clause, with no loop of its own over what is pending
and without anything being kept or put back. It becomes what it would be as a
statement: it fails for the same reason, asks its allocator for the same names,
and its text is in the statement around it, character for character. The text is
spaced once for each level above it, and all but the first time that changes
nothing.
-/

namespace Cypher

open Lexing (Balanced)
open Spacing (joined sweep)

/-! ## Rendering a body -/

/-- The variable and the list of a loop are not blank. -/
def Clause.NonBlank : Clause → Prop
  | .forEach item list _ => Text.isBlankText item = false ∧ Text.isBlankText list = false
  | _ => True

/-- What a clause with a body is rendered to, around what its body is rendered to. -/
def Clause.around (inner : Piece String) : Clause → Fragment String
  | .forEach item list _ => Keyword.forEach.before
      [.fixed "(", .name item, .fixed " IN ", .raw list, .fixed " | ", inner, .fixed ")"]
  | .call _ => Keyword.call.before [.fixed "\x7b ", inner, .fixed " \x7d"]
  | _ => [inner]

/-- What the pending clauses ask for. -/
def Query.requested (query : Query) : List Request := ((Clause.askAll query.pending).run []).2

/-- The statement that a body makes, with what is left of it, tells what rendering it does. -/
def Clause.RendersLike {α : Type} (make : Piece String → α) (rendered : EStateM.Result Error Allocator α) :
    EStateM.Result Error (Query × Allocator) String → Prop
  | .ok _ (done, after) => rendered = .ok (make (.body done.fragments)) after
  | .error error _ => ∃ spent, rendered = .error error spent

/-- A body is rendered to the fragments that its statement is made of. -/
theorem Clause.run_renderBody (body : Query) (key : String) (allocator : Allocator) :
    RendersLike id ((Clause.renderBody body.allocator key body).run allocator)
      (body.statementInPlace allocator) := by
  obtain ⟨written, pending, home⟩ := body
  have renders := Clause.renders_renderAll home pending
  rw [Query.statementInPlace_eq, Query.write_eq, Clause.renderBody]
  rw [if_neg (fun foreign => foreign rfl)]
  cases checked : Clause.checkAll home pending with
  | error error =>
    obtain ⟨spent, failed⟩ := (renders []).fails error checked allocator
    refine ⟨spent, ?_⟩
    show EStateM.run (Clause.renderAll home pending >>= _) allocator = _
    rw [EStateM.run_bind, failed]
  | ok passed =>
    have ran := run_eq_settle (fun names => (renders names).grants checked) allocator
    show EStateM.run (Clause.renderAll home pending >>= _) allocator = _
    rw [EStateM.run_bind, ran, id, Query.fragments_settled]
    rfl

theorem Clause.RendersLike.map {α : Type} {make : Piece String → α} {render : Rendering (Piece String)}
    {allocator : Allocator} {result : EStateM.Result Error (Query × Allocator) String}
    (like : RendersLike id (render.run allocator) result) :
    RendersLike make ((render >>= fun inner => pure (make inner)).run allocator) result := by
  cases result with
  | ok text state =>
    have ran : render.run allocator = .ok (.body state.1.fragments) state.2 := like
    show EStateM.run (render >>= _) allocator = _
    rw [EStateM.run_bind, ran]
    rfl
  | error error undone =>
    obtain ⟨spent, failed⟩ := like
    refine ⟨spent, ?_⟩
    rw [EStateM.run_bind, failed]

theorem checkNonBlank_eq_ok {key text : String} :
    checkNonBlank key text = .ok () ↔ Text.isBlankText text = false := by
  unfold checkNonBlank
  cases Text.isBlankText text <;> simp

/-- A clause is rendered to what its body is rendered to, between its own pieces. -/
theorem Clause.run_render {clause : Clause} {body : Query} (nested : clause.body? = some body)
    (nonBlank : clause.NonBlank) (allocator : Allocator) :
    RendersLike (fun inner => clause.around inner)
      ((clause.render body.allocator).run allocator) (body.statementInPlace allocator) := by
  cases clause with
  | forEach item list loop =>
    obtain rfl := Option.some.inj nested
    obtain ⟨named, listed⟩ := nonBlank
    rw [Clause.render, checkNonBlank_eq_ok.mpr named, checkNonBlank_eq_ok.mpr listed]
    exact (Clause.run_renderBody loop Keyword.forEach.key allocator).map
  | call called =>
    obtain rfl := Option.some.inj nested
    rw [Clause.render]
    exact (Clause.run_renderBody called Keyword.call.key allocator).map
  | _ => cases nested

/-- A clause that passes its check has a body with the same allocator. -/
theorem Clause.nested_of_check {clause : Clause} {body : Query} (nested : clause.body? = some body)
    {home : AllocatorId} (passed : clause.check home = .ok ()) :
    body.allocator = home ∧ clause.NonBlank := by
  have own (key : String) (passed : checkBody home key body = .ok ()) : body.allocator = home := by
    by_contra foreign
    obtain ⟨written, pending, allocator⟩ := body
    rw [checkBody, if_pos foreign] at passed
    cases passed
  cases clause with
  | forEach item list loop =>
    obtain rfl := Option.some.inj nested
    rw [check] at passed
    obtain ⟨_, named, passed⟩ := bind_eq_ok passed
    obtain ⟨_, listed, passed⟩ := bind_eq_ok passed
    exact ⟨own _ passed, checkNonBlank_eq_ok.mp named, checkNonBlank_eq_ok.mp listed⟩
  | call called =>
    obtain rfl := Option.some.inj nested
    rw [check] at passed
    exact ⟨own _ passed, trivial⟩
  | _ => cases nested

/-- What a clause was rendered to has the statement in it that its body makes. -/
theorem Clause.statement_of_rendered {clause : Clause} {body : Query}
    (nested : clause.body? = some body) {home : AllocatorId} {before after : Allocator}
    {fragment : Fragment String}
    (ran : (clause.render home).run before = .ok fragment after) :
    clause.NonBlank ∧ ∃ text done, body.statementInPlace before = .ok text (done, after) ∧
      fragment = clause.around (.body done.fragments) := by
  obtain ⟨rfl, nonBlank⟩ := nested_of_check nested (check_of_rendered ⟨before, after, ran⟩)
  have like := run_render nested nonBlank before
  rw [ran] at like
  refine ⟨nonBlank, ?_⟩
  cases stated : body.statementInPlace before with
  | ok text state =>
    rw [stated] at like
    cases like
    exact ⟨text, state.1, rfl, rfl⟩
  | error error undone =>
    rw [stated] at like
    obtain ⟨spent, failed⟩ := like
    cases failed

/-! ## The text of a body -/

/-- The clause with that statement for its body. The list of a loop is spaced like a statement. -/
def Clause.enclosing (statement : List Char) : Clause → List Char
  | .forEach item list _ => "FOREACH (".toList ++ Name.written item.toList ++ " IN ".toList ++
      joined [list.toList] ++ " | ".toList ++ statement ++ ")".toList
  | .call _ => "CALL \x7b ".toList ++ statement ++ " \x7d".toList
  | _ => statement

theorem Clause.enclosing_forEach (statement : List Char) (item list : String) (body : Query) :
    enclosing statement (.forEach item list body) =
      "FOREACH (".toList ++ Name.written item.toList ++ " IN ".toList ++ joined [list.toList] ++
        " | ".toList ++ statement ++ ")".toList :=
  rfl

theorem Clause.enclosing_call (statement : List Char) (body : Query) :
    enclosing statement (.call body) = "CALL \x7b ".toList ++ statement ++ " \x7d".toList :=
  rfl

theorem Clause.chars_around_call (body : Query) (fragments : List (Fragment String)) :
    Fragment.chars (around (.body fragments) (.call body)) =
      "CALL \x7b ".toList ++ (joined (Fragment.allChars fragments) ++ " \x7d".toList) := by
  simp [around, Keyword.before, Keyword.text, Fragment.chars, Fragment.pieceChars]

theorem Clause.chars_around_forEach (item list : String) (body : Query)
    (fragments : List (Fragment String)) :
    Fragment.chars (around (.body fragments) (.forEach item list body)) =
      "FOREACH (".toList ++ (Name.written item.toList ++ (" IN ".toList ++ (list.toList ++
        (" | ".toList ++ (joined (Fragment.allChars fragments) ++ ")".toList))))) := by
  simp [around, Keyword.before, Keyword.text, Fragment.chars, Fragment.pieceChars]

theorem Clause.infix_enclosing {clause : Clause} {body : Query} (nested : clause.body? = some body)
    (statement : List Char) : statement <:+: clause.enclosing statement := by
  cases clause with
  | forEach item list loop => exact ⟨_, _, rfl⟩
  | call called => exact ⟨_, _, rfl⟩
  | _ => cases nested

/-- Sweeping a clause leaves the statement of its body as it is. -/
theorem Clause.enclosing_infix {clause : Clause} {body : Query} (nested : clause.body? = some body)
    (nonBlank : clause.NonBlank) (raw : ∀ text ∈ clause.rawTexts, Balanced text.toList)
    {fragments : List (Fragment String)}
    (balanced : ∀ text ∈ Fragment.allChars fragments, Balanced text)
    (something : joined (Fragment.allChars fragments) ≠ []) {mode : Spacing.Mode}
    (outside : mode = .blank ∨ mode = .gap) :
    clause.enclosing (joined (Fragment.allChars fragments)) <:+:
      sweep mode (Fragment.chars (clause.around (.body fragments))) := by
  cases clause with
  | call called =>
    have opened : ∃ lead, sweep mode "CALL \x7b ".toList = lead ++ "CALL \x7b".toList ∧
        mode.after "CALL \x7b ".toList = .gap := by
      rcases outside with rfl | rfl
      · exact ⟨[], by decide +kernel⟩
      · exact ⟨[' '], by decide +kernel⟩
    obtain ⟨lead, swept, ended⟩ := opened
    have closed : sweep .flush " \x7d".toList = " \x7d".toList := by decide +kernel
    rw [chars_around_call, Spacing.sweep_append, swept, ended,
      Spacing.sweep_gap_joined balanced something, closed]
    have spaced : "CALL \x7b ".toList = "CALL \x7b".toList ++ [' '] := by decide +kernel
    refine ⟨lead, [], ?_⟩
    rw [enclosing_call, spaced]
    simp only [List.append_assoc, List.cons_append, List.nil_append, List.append_nil]
  | forEach item list loop =>
    have opened : ∃ lead, sweep mode "FOREACH (".toList = lead ++ "FOREACH (".toList ∧
        mode.after "FOREACH (".toList = .flush := by
      rcases outside with rfl | rfl
      · exact ⟨[], by decide +kernel⟩
      · exact ⟨[' '], by decide +kernel⟩
    obtain ⟨lead, swept, ended⟩ := opened
    obtain ⟨named, ended'⟩ := Spacing.sweep_written item.toList
    have among : sweep .flush " IN ".toList = " IN".toList ∧
        Spacing.Mode.flush.after " IN ".toList = .gap := by decide +kernel
    obtain ⟨left, settled, spaced⟩ := Spacing.sweep_gap_spaced
      (raw list (by simp [rawTexts])) nonBlank.2 (" | ".toList ++
        (joined (Fragment.allChars fragments) ++ ")".toList))
    -- the bar is written in the same way whether the list ends with a blank or not
    have barred : sweep left " | ".toList = " |".toList ∧ left.after " | ".toList = .gap := by
      rcases settled with rfl | rfl
      · decide +kernel
      · decide +kernel
    have closed : sweep .flush ")".toList = ")".toList := by decide +kernel
    rw [chars_around_forEach, Spacing.sweep_append, swept, ended, Spacing.sweep_append, named,
      ended', Spacing.sweep_append, among.1, among.2, spaced, Spacing.sweep_append, barred.1,
      barred.2, Spacing.sweep_gap_joined balanced something, closed]
    have spaced : " IN ".toList = " IN".toList ++ [' '] := by decide +kernel
    have spaced' : " | ".toList = " |".toList ++ [' '] := by decide +kernel
    refine ⟨lead, [], ?_⟩
    rw [enclosing_forEach, spaced, spaced']
    simp only [List.append_assoc, List.cons_append, List.nil_append, List.append_nil]
  | _ => cases nested

/-! ## Bodies that were written -/

theorem RenderedThrough.rendered {home : AllocatorId} {entry : Clause × Fragment String}
    (through : RenderedThrough home entry) : Rendered entry := by
  obtain ⟨clause, fragment⟩ := entry
  have checked := Clause.check_of_rendered through
  obtain ⟨before, after, ran⟩ := through
  have settled := run_eq_settle (fun names => (clause.renders home names).grants checked) before
  rw [ran] at settled
  cases settled
  exact ⟨[], _, rfl⟩

theorem Clause.Authentic.genuine {clause : Clause} (authentic : clause.Authentic) :
    clause.Genuine := by
  induction clause using Clause.induction with
  | plain clause noBody => exact .plain noBody
  | nested clause body nested ih =>
    obtain ⟨written, clauses⟩ := authentic.inside nested
    refine .nested nested (fun entry member => (written entry member).rendered) ?_
    intro inner member
    exact ih inner member (clauses inner member)

theorem Query.Authentic.genuine {query : Query} (authentic : query.Authentic) : query.Genuine :=
  ⟨fun entry member => (authentic.written entry member).rendered,
    fun clause member => (authentic.clauses clause member).genuine⟩

/-- No text of the caller leaves quotes open, at any depth. -/
def Query.Closed (query : Query) : Prop :=
  ∀ text ∈ Clause.rawTextsBody query, Balanced text.toList

theorem Query.Closed.clause {query : Query} (closed : query.Closed) {clause : Clause}
    (member : clause ∈ query.clauses) : ∀ text ∈ clause.rawTexts, Balanced text.toList := by
  intro text there
  refine closed text ?_
  rw [Clause.rawTextsBody_eq]
  exact List.mem_flatMap.mpr ⟨clause, member, there⟩

theorem Query.Closed.body {query body : Query} (closed : query.Closed) {clause : Clause}
    (member : clause ∈ query.clauses) (nested : clause.body? = some body) : body.Closed := by
  intro text there
  rw [Clause.rawTextsBody_eq] at there
  obtain ⟨inner, among, there⟩ := List.mem_flatMap.mp there
  exact closed.clause member text (Clause.rawTexts_of_body? nested among there)

/-- The fragments of a query leave no quotes open when the texts of the caller do not. -/
theorem Query.Authentic.balanced {query : Query} (authentic : query.Authentic)
    (closed : query.Closed) : ∀ text ∈ Fragment.allChars query.fragments, Balanced text :=
  Fragment.balanced_allChars (authentic.genuine.tidy closed)

theorem Query.written_of_statement {query done : Query} {start after : Allocator} {text : String}
    (made : query.statementInPlace start = .ok text (done, after)) :
    query.write start = .ok (done, after) ∧ text = done.text := by
  rw [statementInPlace_eq] at made
  cases written : query.write start with
  | error error =>
    rw [written] at made
    cases made
  | ok result =>
    rw [written] at made
    cases made
    exact ⟨rfl, rfl⟩

theorem Query.Closed.write {query done : Query} {start after : Allocator} (closed : query.Closed)
    (written : query.write start = .ok (done, after)) : done.Closed := by
  unfold Closed at closed ⊢
  rwa [Clause.rawTextsBody_eq, clauses_write written, ← Clause.rawTextsBody_eq]

theorem Fragment.allChars_eq_map (fragments : List (Fragment String)) :
    allChars fragments = fragments.map chars := by
  induction fragments with
  | nil => rfl
  | cons fragment rest ih => rw [allChars, ih, List.map_cons]

theorem Fragment.mem_allChars {fragments : List (Fragment String)} {fragment : Fragment String}
    (member : fragment ∈ fragments) : chars fragment ∈ allChars fragments := by
  rw [allChars_eq_map]
  exact List.mem_map_of_mem member

/-- In the statement of a written query, the body of a clause reads as its own statement does. -/
theorem Query.Authentic.enclosed {query body : Query} (authentic : query.Authentic)
    (closed : query.Closed) {clause : Clause} {fragment : Fragment String}
    (member : (clause, fragment) ∈ query.written) {home : AllocatorId} {before later : Allocator}
    (ran : (clause.render home).run before = .ok fragment later)
    (nested : clause.body? = some body) :
    body.Authentic ∧ body.Closed ∧ ∃ text inner,
      body.statementInPlace before = .ok text (inner, later) ∧
        (text ≠ "" → clause.enclosing text.toList <:+: query.text.toList) := by
  have there : clause ∈ query.clauses := List.mem_append_left _ (List.mem_map_of_mem member)
  obtain ⟨nonBlank, text, inner, made, rfl⟩ := Clause.statement_of_rendered nested ran
  refine ⟨authentic.body there nested, closed.body there nested, text, inner, made, ?_⟩
  intro something
  obtain ⟨written, rfl⟩ := written_of_statement made
  have balanced := ((authentic.body there nested).write written).balanced
    ((closed.body there nested).write written)
  have chars : inner.text.toList = joined (Fragment.allChars inner.fragments) :=
    String.toList_ofList
  have visible : joined (Fragment.allChars inner.fragments) ≠ [] := by
    rw [← chars]
    exact fun nothing => something (String.toList_eq_nil_iff.mp nothing)
  obtain ⟨mode, outside, inside⟩ := @Spacing.sweep_infix_sweepAll false _ _
    (Fragment.mem_allChars (List.mem_map_of_mem (f := Prod.snd) member))
  rw [chars, Query.text, String.toList_ofList]
  exact (Clause.enclosing_infix nested nonBlank (closed.clause there) balanced visible
    outside).trans inside

/-! ## Bodies at every depth -/

/-- When the allocator of the query is in the first state as its statement is asked for, then the
clause, which is in the query at some depth, is rendered from the second state on: in this
statement, or it was when it was written. -/
inductive Query.Writes : Query → Allocator → Clause → Allocator → Prop
  | pending {query : Query} {start before : Allocator} {clause : Clause} {first rest : List Clause}
      {fragments : List (Fragment String)} : query.pending = first ++ clause :: rest →
      (Clause.renderAll query.allocator first).run start = .ok fragments before →
      Writes query start clause before
  | written {query : Query} {start before after : Allocator} {clause : Clause}
      {fragment : Fragment String} : (clause, fragment) ∈ query.written →
      (clause.render query.allocator).run before = .ok fragment after →
      Writes query start clause before
  | inside {query body : Query} {start between before : Allocator} {outer clause : Clause} :
      Writes query start outer between → outer.body? = some body → Writes body between clause before →
      Writes query start clause before

/-- One of several clauses that are rendered is rendered from where those before it end. -/
theorem Clause.run_renderAll_append {home : AllocatorId} {first rest : List Clause} {clause : Clause}
    {start after : Allocator} {all : List (Fragment String)}
    (ran : (renderAll home (first ++ clause :: rest)).run start = .ok all after) :
    ∃ fragments before fragment later,
      (renderAll home first).run start = .ok fragments before ∧
        (clause.render home).run before = .ok fragment later ∧
        (clause, fragment) ∈ (first ++ clause :: rest).zip all := by
  induction first generalizing start all with
  | nil =>
    rw [List.nil_append, renderAll] at ran
    obtain ⟨fragment, later, here, ran⟩ := run_bind_ok ran
    obtain ⟨more, last, -, ran⟩ := run_bind_ok ran
    cases ran
    refine ⟨[], start, fragment, later, ?_, here, List.mem_cons_self⟩
    rw [renderAll]
    rfl
  | cons other others ih =>
    rw [List.cons_append, renderAll] at ran
    obtain ⟨one, between, here, ran⟩ := run_bind_ok ran
    obtain ⟨more, last, others', done⟩ := run_bind_ok ran
    cases done
    obtain ⟨fragments, before, fragment, later, earlier, there, member⟩ := ih others'
    refine ⟨one :: fragments, before, fragment, later, ?_, there, List.mem_cons_of_mem _ member⟩
    rw [renderAll, EStateM.run_bind, here]
    show EStateM.run (renderAll home others >>= _) between = _
    rw [EStateM.run_bind, earlier]
    rfl

namespace Query

/-- What is pending is rendered for the statement, clause by clause, and written. -/
theorem written_of_pending {query done : Query} {start after : Allocator} {clause : Clause}
    {first rest : List Clause} (split : query.pending = first ++ clause :: rest)
    (written : query.write start = .ok (done, after)) :
    ∃ fragments before fragment later,
      (Clause.renderAll query.allocator first).run start = .ok fragments before ∧
        (clause.render query.allocator).run before = .ok fragment later ∧
        (clause, fragment) ∈ done.written := by
  obtain ⟨checked, rfl, -⟩ := write_eq_ok written
  have renders := Clause.renders_renderAll query.allocator query.pending
  have ran := run_eq_settle (fun names => (renders names).grants checked) start
  rw [split] at ran ⊢
  obtain ⟨fragments, before, fragment, later, earlier, here, member⟩ :=
    Clause.run_renderAll_append ran
  exact ⟨fragments, before, fragment, later, earlier, here, List.mem_append_right _ member⟩

/-- A body at any depth is in the statement as it would be on its own. -/
theorem Writes.enclosed {query : Query} {start before : Allocator} {clause : Clause}
    (writes : query.Writes start clause before) (authentic : query.Authentic)
    (closed : query.Closed) {statement : String} {done : Query} {after : Allocator}
    (made : query.statementInPlace start = .ok statement (done, after)) {body : Query}
    (nested : clause.body? = some body) :
    body.Authentic ∧ body.Closed ∧ ∃ text inner later,
      body.statementInPlace before = .ok text (inner, later) ∧
        (text ≠ "" → clause.enclosing text.toList <:+: statement.toList) := by
  induction writes generalizing statement done after body with
  | pending split earlier =>
    obtain ⟨written, rfl⟩ := written_of_statement made
    obtain ⟨_, _, fragment, later, earlier', ran, member⟩ := written_of_pending split written
    rw [earlier] at earlier'
    cases earlier'
    obtain ⟨here, there, text, inner, made', inside⟩ :=
      (authentic.write written).enclosed (closed.write written) member ran nested
    exact ⟨here, there, text, inner, later, made', inside⟩
  | @written query _ _ later clause fragment member ran =>
    obtain ⟨written, rfl⟩ := written_of_statement made
    have kept : (clause, fragment) ∈ done.written := by
      obtain ⟨-, rfl, -⟩ := write_eq_ok written
      exact List.mem_append_left _ member
    obtain ⟨here, there, text, inner, made', inside⟩ :=
      (authentic.write written).enclosed (closed.write written) kept ran nested
    exact ⟨here, there, text, inner, later, made', inside⟩
  | inside _ nested' _ ih ih' =>
    obtain ⟨authentic', closed', text, outer, _, made', outside⟩ :=
      ih authentic closed made nested'
    obtain ⟨here, there, text', inner, later, made'', inside⟩ :=
      ih' authentic' closed' made' nested
    refine ⟨here, there, text', inner, later, made'', fun something => ?_⟩
    -- the text of the outer body has the inner one in it, so it is not empty either
    have visible : text ≠ "" := by
      rintro rfl
      have nothing := (Clause.infix_enclosing nested _).trans (inside something)
      exact something (String.toList_eq_nil_iff.mp (List.infix_nil.mp nothing))
    exact (inside something).trans ((Clause.infix_enclosing nested' _).trans (outside visible))

/-- Each clause of a query was rendered when it was written, or it is now. -/
theorem Authentic.exists_writes {query done : Query} (authentic : query.Authentic)
    {start after : Allocator} {clause : Clause} (member : clause ∈ query.clauses)
    (written : query.write start = .ok (done, after)) :
    ∃ before, query.Writes start clause before := by
  rcases List.mem_append.mp member with old | new
  · obtain ⟨⟨clause, fragment⟩, there, rfl⟩ := List.mem_map.mp old
    obtain ⟨before, _, ran⟩ := authentic.written _ there
    exact ⟨before, .written there ran⟩
  · obtain ⟨first, rest, split⟩ := List.append_of_mem new
    obtain ⟨_, before, _, _, earlier, -, -⟩ := written_of_pending split written
    exact ⟨before, .pending split earlier⟩

/-- Every clause of a query that makes its statement is rendered in some state of the allocator. -/
theorem Contains.writes {query : Query} {clause : Clause} (contains : query.Contains clause)
    (authentic : query.Authentic) (closed : query.Closed) {start after : Allocator}
    {statement : String} {done : Query}
    (made : query.statementInPlace start = .ok statement (done, after)) :
    ∃ before, query.Writes start clause before := by
  induction contains generalizing start after statement done with
  | here member =>
    obtain ⟨written, -⟩ := written_of_statement made
    exact authentic.exists_writes member written
  | inside member nested _ ih =>
    obtain ⟨written, -⟩ := written_of_statement made
    obtain ⟨between, writes⟩ := authentic.exists_writes member written
    obtain ⟨authentic', closed', _, _, _, made', -⟩ := writes.enclosed authentic closed made nested
    obtain ⟨before, writes'⟩ := ih authentic' closed' made'
    exact ⟨before, .inside writes nested writes'⟩

/-- A clause with a body, whose variable and list are not blank, is rendered as its body makes its
statement: it fails for the same reason, or it has the same fragments, of which those that were
written are reused, and the allocator is the same afterwards, with what the pending clauses have
asked for and nothing else. In the statement of a query that has the clause, at whatever depth, the
body reads as it would have been stated from the same state of the allocator on, provided that this
is not empty and that no text leaves quotes open; and the body is as it was. -/
theorem statement_nested {clause : Clause} {body : Query} (nested : clause.body? = some body) :
    (clause.NonBlank → ∀ allocator,
      match body.statementInPlace allocator with
      | .ok text (done, after) =>
          (clause.render body.allocator).run allocator =
              .ok (clause.around (.body done.fragments)) after ∧
            text = done.text ∧ after = (allocator.grantAll body.requested).2 ∧
            ∃ new, done.fragments = body.fragments ++ new ∧ new.length = body.pending.length
      | .error error _ => ∃ spent,
          (clause.render body.allocator).run allocator = .error error spent) ∧
    ∀ (parent done : Query) (start after : Allocator) (statement : String),
      parent.Authentic → parent.Closed → parent.Contains clause →
      parent.statementInPlace start = .ok statement (done, after) →
        done.clauses = parent.clauses ∧ (∃ before, parent.Writes start clause before) ∧
          ∀ before, parent.Writes start clause before → ∃ text inner later,
            body.statementInPlace before = .ok text (inner, later) ∧
              (text ≠ "" → clause.enclosing text.toList <:+: statement.toList) := by
  constructor
  · intro nonBlank allocator
    have like := Clause.run_render nested nonBlank allocator
    cases made : body.statementInPlace allocator with
    | error error undone =>
      rw [made] at like
      exact like
    | ok text state =>
      obtain ⟨done, after⟩ := state
      rw [made] at like
      obtain ⟨written, same⟩ := written_of_statement made
      obtain ⟨-, rfl, rfl⟩ := write_eq_ok written
      refine ⟨like, same, rfl, _, fragments_settled _ _ _ _, length_settled _ _⟩
  · intro parent done start after statement authentic closed contains made
    obtain ⟨written, -⟩ := written_of_statement made
    refine ⟨clauses_write written, contains.writes authentic closed made, fun before writes => ?_⟩
    obtain ⟨-, -, text, inner, later, made', inside⟩ := writes.enclosed authentic closed made nested
    exact ⟨text, inner, later, made', inside⟩

/-- A body with a page. -/
def pagedBody : Query := ⟨[], [.page .limit 1, .raw "RETURN  1"], 0⟩

/-- A body with a call, of which the first clause is written. -/
def callingBody : Query := ⟨[(.raw "SET  a", [.raw "SET  a"])], [.call pagedBody], 0⟩

/-- A loop behind another page. -/
def pagedLoop : Query := ⟨[], [.page .limit 2, .forEach "x y" " [1,  2] " callingBody], 0⟩

theorem statement_nested_pagedLoop :
    ∃ statement done after, pagedLoop.statementInPlace .empty = .ok statement (done, after) ∧
      "CALL \x7b LIMIT $limit__aaaa RETURN 1 \x7d".toList <:+: statement.toList := by
  have paged : pagedBody.Authentic := by
    refine ⟨List.forall_mem_nil _, ?_⟩
    intro clause member
    have plain : ∀ clause ∈ pagedBody.clauses, clause.body? = none := by
      simp [clauses, pagedBody, Clause.body?]
    exact .plain (plain clause member)
  have calling : callingBody.Authentic := by
    refine ⟨?_, ?_⟩
    · intro entry member
      obtain rfl := List.mem_singleton.mp member
      exact ⟨.empty, .empty, rfl⟩
    · intro clause member
      rcases List.mem_cons.mp member with rfl | member
      · exact .plain rfl
      · obtain rfl := List.mem_singleton.mp member
        exact paged.embedded rfl
  have authentic : pagedLoop.Authentic := by
    refine ⟨List.forall_mem_nil _, ?_⟩
    intro clause member
    rcases List.mem_cons.mp member with rfl | member
    · exact .plain rfl
    · obtain rfl := List.mem_singleton.mp member
      exact calling.embedded rfl
  have closed : pagedLoop.Closed := by
    unfold Closed
    decide +kernel
  have contains : pagedLoop.Contains (.call pagedBody) :=
    .inside (List.mem_cons_of_mem _ List.mem_cons_self) rfl
      (.here (List.mem_cons_of_mem _ List.mem_cons_self))
  -- the loop is rendered behind the first page, and the call where the loop begins
  have writes : pagedLoop.Writes .empty (.call pagedBody)
      (Allocator.empty.bind "limit" (.int 2)).2 := by
    have loop : pagedLoop.Writes .empty (.forEach "x y" " [1,  2] " callingBody)
        (Allocator.empty.bind "limit" (.int 2)).2 :=
      @Writes.pending pagedLoop _ _ _ [.page .limit 2] []
        [Keyword.limit.before [.parameter (Allocator.empty.bind "limit" (.int 2)).1]] rfl rfl
    exact .inside loop rfl (@Writes.pending callingBody _ _ _ [] [] [] rfl rfl)
  have passed : Clause.checkAll pagedLoop.allocator pagedLoop.pending = .ok () := rfl
  obtain ⟨done, after, written⟩ := exists_write passed .empty
  have made : pagedLoop.statementInPlace .empty = .ok done.text (done, after) := by
    rw [statementInPlace_eq, written]
  have nested : (Clause.call pagedBody).body? = some pagedBody := rfl
  obtain ⟨-, -, enclosed⟩ := (statement_nested nested).2 pagedLoop done .empty after done.text
    authentic closed contains made
  obtain ⟨text, inner, later, made', inside⟩ := enclosed _ writes
  have same : text = "LIMIT $limit__aaaa RETURN 1" := by
    have stated : (pagedBody.write (Allocator.empty.bind "limit" (.int 2)).2).toOption.map
        (fun done => done.1.text) = some "LIMIT $limit__aaaa RETURN 1" := by
      decide +kernel
    rw [statementInPlace_eq] at made'
    cases written' : pagedBody.write (Allocator.empty.bind "limit" (.int 2)).2 with
    | error error =>
      rw [written'] at made'
      cases made'
    | ok result =>
      rw [written'] at made' stated
      cases made'
      exact Option.some.inj stated
  subst same
  exact ⟨done.text, done, after, made, inside (by decide)⟩

end Query
end Cypher
