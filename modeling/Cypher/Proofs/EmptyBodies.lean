import Cypher.Proofs.NestedStatements
import Cypher.Proofs.ReferenceReading
import Cypher.Proofs.SpacedPieces

/-!
# Bodies without text

A payload gives every body at least one clause. A condition that compares nothing
is not written at all, though, so a body that has no other clauses is empty in the
statement. These are the only empty bodies: every other clause has visible text, and
a body with such a clause shows it at every depth.
-/

namespace Cypher

open Asking (Yields yields_pure yields_true yields_bind)

/-! ## Blank fragments -/

namespace Spacing

variable {fragments : List (List Char)}

/-- Only blank fragments make nothing. -/
theorem joined_eq_nil :
    joined fragments = [] ↔ ∀ fragment ∈ fragments, fragment.all Text.isBlank = true := by
  unfold joined
  induction fragments with
  | nil => simp [sweepAll]
  | cons fragment rest ih =>
    rw [sweepAll, List.append_eq_nil_iff, List.forall_mem_cons]
    show sweep .blank fragment = [] ∧ _ ↔ _
    rw [sweep_blank_eq_nil]
    refine and_congr_right fun blank => ?_
    rw [← ih, if_neg Bool.false_ne_true, sweep_blank_eq_nil.mpr blank]
    rfl

/-- What fragments make is not blank unless it is nothing. -/
theorem joined_eq_nil_of_blank (blank : (joined fragments).all Text.isBlank = true) :
    joined fragments = [] := by
  have kept := filter_sweepAll false fragments
  rw [show sweepAll false fragments = joined fragments from rfl,
    List.filter_eq_nil_iff.mpr (by simpa using blank)] at kept
  refine joined_eq_nil.mpr fun fragment member => List.all_eq_true.mpr fun c there => ?_
  simpa using List.filter_eq_nil_iff.mp kept.symm c (List.mem_flatten_of_mem member there)

end Spacing

/-! ## Clauses with text -/

/-- Nothing is compared. -/
def Criteria.Idle (criteria : Criteria) : Prop :=
  ∀ conditions ∈ criteria.entries, ∀ condition ∈ conditions.2.entries, condition.2.comparisons = []

/-- All clauses have text but conditions that compare nothing. -/
def Clause.HasText : Clause → Prop
  | .restrict criteria => ¬ criteria.Idle
  | .restrictBound condition => condition.comparisons ≠ []
  | _ => True

/-- Something can be seen of the fragment, whatever names fill it. -/
def Fragment.Visible (fragment : Fragment Ref) : Prop :=
  ∀ names, (chars (fill names fragment)).all Text.isBlank = false

/-- A text that does not depend on names is enough. -/
theorem Fragment.visible_cons {piece : Piece Ref} {text : String}
    (written : ∀ names, pieceChars (mapPiece (Ref.resolve names) piece) = text.toList)
    (visible : Text.isBlankText text = false) (rest : Fragment Ref) : Visible (piece :: rest) := by
  intro names
  rw [fill, map, chars, written, List.all_append, Bool.and_eq_false_iff]
  exact .inl visible

theorem Keyword.visible_before (keyword : Keyword) (rest : Fragment Ref) :
    Fragment.Visible (keyword.before rest) := by
  refine Fragment.visible_cons (fun _ => rfl) ?_ rest
  cases keyword <;> decide +kernel

theorem Where.visible_clause {condition : Where Ref} (some : condition.comparisons ≠ []) :
    Fragment.Visible condition.clause := by
  rw [clause, if_neg (by simpa [isEmpty] using some)]
  exact Keyword.visible_before _ _

theorem Where.clause_eq_nil {condition : Where Ref} (nothing : condition.comparisons = []) :
    condition.clause = [] := by
  rw [clause, if_pos (by simp [isEmpty, nothing])]

/-- Drafts that are put together have nothing just when each of them has nothing. -/
theorem Asking.yields_flatten_eq_nil {α β γ : Type} (view : β → List γ) {nothing : α → Prop}
    {draft : α → Asking β}
    (each : ∀ item, Yields (fun result => view result = [] ↔ nothing item) (draft item))
    (items : List α) :
    Yields (fun results => (results.map view).flatten = [] ↔ ∀ item ∈ items, nothing item)
      (askAll draft items) := by
  induction items with
  | nil => exact yields_pure (by simp)
  | cons item rest ih =>
    refine yields_bind (each item) fun first here => yields_bind ih fun more there => yields_pure ?_
    rw [List.map_cons, List.flatten_cons, List.append_eq_nil_iff, here, there, List.forall_mem_cons]

theorem Condition.yields_nil_iff (subject : Subject Ref) (property : String) (condition : Condition) :
    Yields (fun comparisons => comparisons = [] ↔ condition.comparisons = [])
      (condition.ask subject property) := by
  intro asked
  rw [← List.length_eq_zero_iff, ← List.length_eq_zero_iff, ask,
    (askAll_drafts _ condition.comparisons asked).length_eq]

theorem Conditions.yields_nil_iff (subject : Subject Ref) (conditions : Conditions) :
    Yields (fun bound => bound.comparisons = [] ↔
      ∀ entry ∈ conditions.entries, entry.2.comparisons = []) (conditions.ask subject) := by
  refine yields_bind (Asking.yields_flatten_eq_nil id (fun entry =>
    entry.2.yields_nil_iff subject entry.1) conditions.entries) fun parts same => yields_pure ?_
  rwa [List.map_id] at same

theorem Criteria.yields_nil_iff (criteria : Criteria) :
    Yields (fun bound => bound.comparisons = [] ↔ criteria.Idle) criteria.ask :=
  yields_bind (Asking.yields_flatten_eq_nil Where.comparisons (fun entry =>
    Conditions.yields_nil_iff (.given entry.1) entry.2) criteria.entries) fun _ same =>
      yields_pure same

/-- A clause with text that passes its check has something to see in its draft. -/
theorem Clause.yields_visible {clause : Clause} {home : AllocatorId}
    (passed : clause.check home = .ok ()) (hasText : clause.HasText) :
    Yields Fragment.Visible clause.ask := by
  cases clause with
  | raw text =>
    rw [check] at passed
    rw [ask]
    exact yields_pure (Fragment.visible_cons (fun _ => rfl) (checkNonBlank_eq_ok.mp passed) [])
  | delete detach deletion =>
    rw [ask]
    refine yields_pure ?_
    cases detach
    · exact Keyword.visible_before _ _
    · exact Fragment.visible_cons (fun _ => rfl) (by decide) _
  | restrict criteria =>
    rw [ask]
    exact yields_bind criteria.yields_nil_iff fun bound idle =>
      yields_pure (Where.visible_clause (mt idle.mp hasText))
  | restrictBound condition =>
    rw [ask]
    refine yields_pure (Where.visible_clause ?_)
    rw [Where.map]
    exact fun nothing => hasText (List.map_eq_nil_iff.mp nothing)
  | spliced keyword text =>
    rw [ask]
    exact yields_pure (keyword.visible_before _)
  | pattern use shape =>
    rw [ask]
    exact yields_bind (yields_true _) fun drafted _ => yields_pure (use.keyword.visible_before _)
  | remove removal =>
    rw [ask]
    exact yields_pure (Keyword.visible_before _ _)
  | project stage distinct projection =>
    rw [ask]
    exact yields_pure (Keyword.visible_before _ _)
  | sort items =>
    rw [ask]
    exact yields_pure (Keyword.visible_before _ _)
  | _ =>
    rw [ask]
    exact yields_bind (yields_true _) fun drafted _ => yields_pure (Keyword.visible_before _ _)

/-- The draft of a clause without text has nothing in it. -/
theorem Clause.yields_nil {clause : Clause} (noText : ¬ clause.HasText) :
    Yields (fun fragment => fragment = []) clause.ask := by
  cases clause with
  | restrict criteria =>
    rw [ask]
    exact yields_bind criteria.yields_nil_iff fun bound idle =>
      yields_pure (Where.clause_eq_nil (idle.mpr (not_not.mp noText)))
  | restrictBound condition =>
    have nothing : condition.comparisons = [] := not_not.mp noText
    rw [ask]
    refine yields_pure (Where.clause_eq_nil ?_)
    rw [Where.map, nothing, List.map_nil]
  | _ => exact absurd trivial noText

/-! ## Bodies -/

/-- What a clause was rendered to can be seen if the clause has text, and is empty if not. -/
theorem RenderedThrough.chars {home : AllocatorId} {clause : Clause} {fragment : Fragment String}
    (through : RenderedThrough home (clause, fragment)) :
    (clause.HasText → (Fragment.chars fragment).all Text.isBlank = false) ∧
      (¬ clause.HasText → Fragment.chars fragment = []) := by
  obtain ⟨asked, names, same⟩ := through.rendered
  rw [show fragment = Fragment.fill names (clause.ask.run asked).1 from same]
  constructor
  · intro hasText
    exact Clause.yields_visible (Clause.check_of_rendered through) hasText asked names
  · intro noText
    rw [show (clause.ask.run asked).1 = [] from Clause.yields_nil noText asked]
    rfl

namespace Query

/-- The statement of a query is empty when none of its clauses has text, and visible otherwise. -/
theorem Authentic.text_shown {query : Query} (authentic : query.Authentic)
    (nothingPending : query.pending = []) :
    ((∃ clause ∈ query.clauses, clause.HasText) → Text.isBlankText query.text = false) ∧
      ((∀ clause ∈ query.clauses, ¬ clause.HasText) → query.text = "") := by
  have chars : query.text.toList = Spacing.joined (Fragment.allChars query.fragments) :=
    String.toList_ofList
  rw [Query.clauses, nothingPending, List.append_nil, Text.isBlankText,
    ← String.toList_eq_nil_iff, chars]
  constructor
  · rintro ⟨_, member, hasText⟩
    obtain ⟨⟨clause, fragment⟩, there, rfl⟩ := List.mem_map.mp member
    have visible := (RenderedThrough.chars (authentic.written _ there)).1 hasText
    by_contra blank
    have nothing := Spacing.joined_eq_nil_of_blank (Bool.not_eq_false _ ▸ blank)
    have same := Spacing.joined_eq_nil.mp nothing _
      (Fragment.mem_allChars (List.mem_map_of_mem (f := Prod.snd) there))
    rw [visible] at same
    cases same
  · intro noText
    refine Spacing.joined_eq_nil.mpr ?_
    rw [Fragment.allChars_eq_map, List.forall_mem_map, Query.fragments, List.forall_mem_map]
    intro entry there
    rw [(RenderedThrough.chars (authentic.written entry there)).2
      (noText entry.1 (List.mem_map_of_mem there))]
    rfl

/-- Each clause that a statement is made of, at any depth, is rendered without an error. -/
theorem Writes.rendered {query : Query} {start before : Allocator} {clause : Clause}
    (writes : query.Writes start clause before) {done : Query} {after : Allocator}
    (written : query.write start = .ok (done, after)) :
    ∃ home fragment later, (clause.render home).run before = .ok fragment later := by
  induction writes generalizing done after with
  | pending split earlier =>
    obtain ⟨_, _, fragment, later, earlier', ran, -⟩ := written_of_pending split written
    rw [earlier] at earlier'
    cases earlier'
    exact ⟨_, fragment, later, ran⟩
  | written _ ran => exact ⟨_, _, _, ran⟩
  | inside _ nested _ ih ih' =>
    obtain ⟨_, _, _, ran⟩ := ih written
    obtain ⟨-, _, _, made, -⟩ := Clause.statement_of_rendered nested ran
    exact ih' (written_of_statement made).1

/-- A clause of an authentic query is rendered at some point, and its bodies are authentic. -/
theorem Contains.exists_writes {query : Query} {clause : Clause} (contains : query.Contains clause)
    (authentic : query.Authentic) {start after : Allocator} {done : Query}
    (written : query.write start = .ok (done, after)) :
    clause.Authentic ∧ ∃ before, query.Writes start clause before := by
  induction contains generalizing start after done with
  | here member => exact ⟨authentic.clauses _ member, authentic.exists_writes member written⟩
  | inside member nested _ ih =>
    obtain ⟨between, writes⟩ := authentic.exists_writes member written
    obtain ⟨_, _, _, ran⟩ := writes.rendered written
    obtain ⟨-, _, _, made, -⟩ := Clause.statement_of_rendered nested ran
    obtain ⟨authentic', before, writes'⟩ :=
      ih (authentic.body member nested) (written_of_statement made).1
    exact ⟨authentic', before, .inside writes nested writes'⟩

end Query

/-! ## Payloads -/

/-- Every body in the clause, at any depth, has clauses. -/
inductive Clause.Occupied : Clause → Prop
  | plain {clause : Clause} : clause.body? = none → Occupied clause
  | nested {clause : Clause} {body : Body Clause} : clause.body? = some body →
      Query.clauses body ≠ [] → (∀ inner ∈ Query.clauses body, Occupied inner) → Occupied clause

theorem Clause.Occupied.inside {clause : Clause} {body : Body Clause} (occupied : clause.Occupied)
    (nested : clause.body? = some body) :
    Query.clauses body ≠ [] ∧ ∀ inner ∈ Query.clauses body, inner.Occupied := by
  cases occupied with
  | plain noBody => simp [nested] at noBody
  | nested nested' some clauses =>
    obtain rfl := Option.some.inj (nested.symm.trans nested')
    exact ⟨some, clauses⟩

theorem Payload.hereditary_occupied : Hereditary Clause.Occupied where
  unbound unbound := .plain unbound.1
  nested {clause body} nested unwritten some clauses := by
    have same : body.clauses = body.pending := by rw [Query.clauses, unwritten]; rfl
    exact .nested nested (same ▸ some) (same ▸ clauses)

theorem Query.Contains.occupied {query : Query} {clause : Clause} (contains : query.Contains clause)
    (occupied : ∀ clause ∈ query.clauses, clause.Occupied) : clause.Occupied := by
  induction contains with
  | here member => exact occupied _ member
  | inside member nested _ ih => exact ih ((occupied _ member).inside nested).2

theorem readClauses_of_compile {payload : Json} {compiled : Compiled}
    (accepted : compile payload = .ok compiled) :
    ∃ clauses, Payload.readClauses soleAllocator payload = .ok clauses := by
  rw [compile_eq_compiled] at accepted
  obtain ⟨clauses, read, -⟩ := bind_eq_ok accepted
  exact ⟨clauses, read⟩

/-- In a payload that compiles, every body at any depth has clauses, and its statement stands in
the clause with the body. The statement has something to see just when one of the clauses has text,
and it is empty otherwise: when all of them are conditions that compare nothing. -/
theorem compile_bodies {payload : Json} {compiled : Compiled}
    (accepted : compile payload = .ok compiled) :
    ∃ clauses, Payload.readClauses soleAllocator payload = .ok clauses ∧
      ∀ (clause : Clause) (body : Query), Query.Contains ⟨[], clauses, soleAllocator⟩ clause →
        clause.body? = some body →
          body.clauses ≠ [] ∧
          (∃ before, Query.Writes ⟨[], clauses, soleAllocator⟩ .empty clause before) ∧
          ∀ before, Query.Writes ⟨[], clauses, soleAllocator⟩ .empty clause before →
            ∃ text inner later,
              (clause.render body.allocator).run before =
                  .ok (clause.around (.body inner.fragments)) later ∧
                body.statementInPlace before = .ok text (inner, later) ∧ text = inner.text ∧
                ((∃ inside ∈ body.clauses, inside.HasText) → Text.isBlankText text = false) ∧
                ((∀ inside ∈ body.clauses, ¬ inside.HasText) → text = "") := by
  obtain ⟨clauses, read⟩ := readClauses_of_compile accepted
  obtain ⟨done, after, written, -⟩ := exists_write_of_compile read accepted
  refine ⟨clauses, read, fun clause body contains nested => ?_⟩
  have fresh := Payload.returns_readClauses soleAllocator payload clauses read
  have authentic : Query.Authentic ⟨[], clauses, soleAllocator⟩ :=
    ⟨nofun, fun clause member => (fresh clause member).authentic⟩
  have occupied := contains.occupied
    (Payload.hereditary_occupied.readClauses soleAllocator payload clauses read)
  obtain ⟨deep, written'⟩ := contains.exists_writes authentic written
  refine ⟨(occupied.inside nested).1, written', fun before writes => ?_⟩
  obtain ⟨home, fragment, later, ran⟩ := writes.rendered written
  -- it was rendered, so it has passed its check, and its body has the allocator of the payload
  obtain ⟨rfl, -⟩ := Clause.nested_of_check nested (Clause.check_of_rendered ⟨_, _, ran⟩)
  obtain ⟨-, text, inner, made, rfl⟩ := Clause.statement_of_rendered nested ran
  obtain ⟨settled, rfl⟩ := Query.written_of_statement made
  have own : Query.Authentic body := ⟨(deep.inside nested).1, (deep.inside nested).2⟩
  obtain ⟨-, rfl, -⟩ := Query.write_eq_ok settled
  have shown := (own.write settled).text_shown rfl
  rw [Query.clauses_write settled] at shown
  exact ⟨_, _, later, ran, made, rfl, shown⟩

/-- A call of a condition that compares nothing, and of a loop over two more of them. -/
def quietLoop : Json :=
  .object [("call", .array [
    .object [("where", .object [])],
    .object [("forEach", .object [("variable", .string "x"), ("list", .string "[1]"),
      ("body", .array [
        .object [("where", .object [])],
        .object [("where", .object [("n", .object [])])]])])]])]

/-- The body of the loop. -/
def quietBody : Query :=
  ⟨[], [.restrict .empty, .restrict (OrderedMap.empty.insert "n" .empty)], soleAllocator⟩

/-- The body of the call. -/
def loopingBody : Query :=
  ⟨[], [.restrict .empty, .forEach "x" "[1]" quietBody], soleAllocator⟩

theorem compile_bodies_quietLoop :
    ∃ compiled, compile quietLoop = .ok compiled ∧
      compiled.statement = "CALL \x7b FOREACH (x IN [1] | ) \x7d" ∧
      (∃ before text state, loopingBody.statementInPlace before = .ok text state ∧
        Text.isBlankText text = false) ∧
      ∃ before state, quietBody.statementInPlace before = .ok "" state := by
  have stated : (compile quietLoop).toOption.map Compiled.statement =
      some "CALL \x7b FOREACH (x IN [1] | ) \x7d" := by decide +kernel
  have read : Payload.readClauses soleAllocator quietLoop = .ok [.call loopingBody] := rfl
  cases done : compile quietLoop with
  | error error =>
    rw [done] at stated
    cases stated
  | ok compiled =>
    rw [done] at stated
    obtain ⟨clauses, read', bodies⟩ := compile_bodies done
    obtain rfl := Except.ok.inj (read.symm.trans read')
    have call : Query.Contains ⟨[], [.call loopingBody], soleAllocator⟩ (.call loopingBody) :=
      .here List.mem_cons_self
    have loop : Query.Contains ⟨[], [.call loopingBody], soleAllocator⟩
        (.forEach "x" "[1]" quietBody) :=
      .inside List.mem_cons_self rfl (.here (List.mem_cons_of_mem _ List.mem_cons_self))
    obtain ⟨-, ⟨before, writes⟩, called⟩ := bodies _ loopingBody call rfl
    obtain ⟨-, ⟨before', writes'⟩, looped⟩ := bodies _ quietBody loop rfl
    obtain ⟨text, inner, later, -, made, -, shown, -⟩ := called before writes
    obtain ⟨text', inner', later', -, made', -, -, hidden⟩ := looped before' writes'
    have quiet : ∀ clause ∈ quietBody.clauses, ¬ clause.HasText := by
      simp [quietBody, Query.clauses, Clause.HasText, Criteria.Idle, OrderedMap.empty,
        OrderedMap.insert, setEntry]
    obtain rfl := hidden quiet
    refine ⟨compiled, rfl, Option.some.inj stated, ⟨before, text, _, made, shown ?_⟩,
      before', _, made'⟩
    exact ⟨_, List.mem_cons_of_mem _ List.mem_cons_self, trivial⟩

/-- A call of a condition that compares nothing. -/
def emptyCall : Json := .object [("call", .array [.object [("where", .object [])]])]

/-- The body of the call has a clause, and yet nothing is written of it. -/
theorem compile_emptyCall :
    ∃ (compiled : Compiled) (body : Query) (state : Query × Allocator),
      compile emptyCall = .ok compiled ∧ compiled.statement = "CALL \x7b \x7d" ∧
      Payload.readClauses soleAllocator emptyCall = .ok [.call body] ∧
      Query.Writes ⟨[], [.call body], soleAllocator⟩ .empty (.call body) .empty ∧
      body.statementInPlace .empty = .ok "" state := by
  have stated : (compile emptyCall).toOption.map Compiled.statement = some "CALL \x7b \x7d" := by
    decide +kernel
  cases done : compile emptyCall with
  | error error =>
    rw [done] at stated
    cases stated
  | ok compiled =>
    rw [done] at stated
    refine ⟨compiled, ⟨[], [.restrict .empty], soleAllocator⟩, _, rfl, Option.some.inj stated, rfl,
      ?_, rfl⟩
    exact @Query.Writes.pending ⟨[], [_], soleAllocator⟩ _ _ _ [] [] [] rfl rfl

end Cypher
