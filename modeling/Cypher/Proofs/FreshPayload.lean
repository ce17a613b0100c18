import Cypher.Payload.Clause
import Cypher.Proofs.CoveredDrafts

/-!
# Payloads make fresh clauses

A payload can neither bind values before its clauses are written nor hold
fragments that are written already.
-/

namespace Cypher.Payload

/-- What is read is of this kind, if it is read at all. -/
def Returns {α : Type} (kind : α → Prop) (result : Except Error α) : Prop :=
  ∀ value, result = .ok value → kind value

section Returns

variable {α β : Type} {kind : α → Prop} {kind' : β → Prop}

theorem returns_ok {value : α} (holds : kind value) : Returns kind (.ok value) := by
  rintro _ ⟨⟩
  exact holds

theorem returns_error (error : Error) : Returns kind (.error error) := nofun

theorem returns_bind {result : Except Error α} {next : α → Except Error β}
    (after : ∀ value, result = .ok value → Returns kind' (next value)) :
    Returns kind' (result >>= next) := by
  cases result with
  | error error => exact returns_error error
  | ok value => exact after value rfl

theorem returns_map {result : Except Error α} {f : α → β} (each : ∀ value, kind' (f value)) :
    Returns kind' (result.map f) := by
  cases result with
  | error error => exact returns_error error
  | ok value => exact returns_ok (each value)

theorem returns_ite {condition : Prop} [Decidable condition] {first second : Except Error α}
    (here : Returns kind first) (there : Returns kind second) :
    Returns kind (if condition then first else second) := by
  split
  · exact here
  · exact there

end Returns

/-- The clause has no body and is not bound. -/
def Unbound (clause : Clause) : Prop :=
  clause.body? = none ∧ ∀ condition, clause ≠ .restrictBound condition

theorem Unbound.fresh {clause : Clause} (unbound : Unbound clause) : clause.Fresh :=
  .plain unbound.1 unbound.2

theorem unbound_spliced (keyword : Keyword) (text : String) :
    Unbound (.spliced keyword text) := ⟨rfl, nofun⟩

theorem returns_readPatternFields (use : PatternUse) (fields : Fields) :
    Returns Unbound (readPatternFields use fields) := by
  refine returns_bind fun shape _ => ?_
  cases shape with
  | none => exact returns_bind fun node _ => returns_ok ⟨rfl, nofun⟩
  | some shape =>
    refine returns_ite (returns_bind fun text _ => returns_ok (unbound_spliced _ text)) ?_
    refine returns_ite ?_ ?_
    · refine returns_bind fun value _ => returns_bind fun items _ => ?_
      exact returns_bind fun nodes _ => returns_ok ⟨rfl, nofun⟩
    · refine returns_bind fun value _ => returns_bind fun items _ => ?_
      exact returns_bind fun elements _ => returns_ok ⟨rfl, nofun⟩

theorem returns_readCreation (use : PatternUse) (value : Json) :
    Returns Unbound (readCreation use value) := by
  cases value with
  | string text => exact returns_ok (unbound_spliced _ text)
  | _ => exact returns_bind fun fields _ => returns_readPatternFields use fields

theorem returns_readMatch (value : Json) : Returns Unbound (readMatch value) := by
  cases value with
  | string text => exact returns_ok (unbound_spliced _ text)
  | _ =>
    refine returns_bind fun fields _ => returns_bind fun optional _ => ?_
    exact returns_readPatternFields _ fields

theorem returns_readAssignment (moment : SetMoment) (value : Json) :
    Returns Unbound (readAssignment moment value) := by
  cases value with
  | string text => exact returns_ok (unbound_spliced _ text)
  | _ =>
    refine returns_bind fun fields _ => returns_bind fun identifier _ => ?_
    exact returns_bind fun properties _ => returns_bind fun entries _ => returns_ok ⟨rfl, nofun⟩

theorem returns_readRemoval (value : Json) : Returns Unbound (readRemoval value) := by
  cases value with
  | string text => exact returns_ok (unbound_spliced _ text)
  | _ =>
    refine returns_bind fun fields _ => returns_bind fun one _ => ?_
    refine returns_bind fun identifier _ => returns_bind fun labels _ => ?_
    cases labels with
    | none => exact returns_bind fun names _ => returns_ok ⟨rfl, nofun⟩
    | some labels => exact returns_ok ⟨rfl, nofun⟩

theorem returns_readDeletion (value : Json) : Returns Unbound (readDeletion value) := by
  cases value with
  | string text => exact returns_ok (unbound_spliced _ text)
  | _ =>
    refine returns_bind fun fields _ => returns_bind fun one _ => ?_
    refine returns_bind fun detach _ => returns_bind fun text _ => ?_
    cases text with
    | none => exact returns_bind fun names _ => returns_ok ⟨rfl, nofun⟩
    | some text => exact returns_ok ⟨rfl, nofun⟩

theorem returns_readStageItems (stage : Stage) (value : Json) :
    Returns (fun clause => ∀ distinct, Unbound (clause distinct)) (readStageItems stage value) := by
  cases value with
  | string text => exact returns_ok fun distinct => unbound_spliced _ text
  | array items => exact returns_bind fun projection _ => returns_ok fun distinct => ⟨rfl, nofun⟩
  | _ => exact returns_error _

theorem returns_readStage (stage : Stage) (value : Json) :
    Returns Unbound (readStage stage value) := by
  have items (value : Json) {clause : Bool → Clause}
      (read : readStageItems stage value = .ok clause) (distinct : Bool) :
      Unbound (clause distinct) := returns_readStageItems stage value clause read distinct
  cases value with
  | object entries =>
    refine returns_bind fun fields _ => returns_bind fun value _ => returns_bind fun clause read => ?_
    exact returns_bind fun distinct _ => returns_ok (items value read distinct)
  | _ => exact returns_bind fun clause read => returns_ok (items _ read false)

theorem returns_readSorting (value : Json) : Returns Unbound (readSorting value) := by
  cases value with
  | string text => exact returns_ok (unbound_spliced _ text)
  | array items => exact returns_bind fun sorted _ => returns_ok ⟨rfl, nofun⟩
  | object entries => exact returns_bind fun item _ => returns_ok ⟨rfl, nofun⟩
  | _ => exact returns_error _

theorem returns_readUnwinding (value : Json) : Returns Unbound (readUnwinding value) := by
  cases value with
  | string text => exact returns_ok (unbound_spliced _ text)
  | _ =>
    refine returns_bind fun fields _ => returns_bind fun one _ => ?_
    refine returns_bind fun newName _ => returns_bind fun text _ => ?_
    cases text with
    | some text => exact returns_ok ⟨rfl, nofun⟩
    | none =>
      refine returns_bind fun listed _ => ?_
      cases listed with
      | array items => exact returns_bind fun values _ => returns_ok ⟨rfl, nofun⟩
      | _ => exact returns_error _

theorem returns_readPage (part : Page) (value : Json) : Returns Unbound (readPage part value) := by
  cases value with
  | string text => exact returns_ok (unbound_spliced _ text)
  | number number =>
    rw [readPage]
    split
    · exact returns_ok ⟨rfl, nofun⟩
    · exact returns_error _
  | _ => exact returns_error _

theorem returns_readRestriction (value : Json) : Returns Unbound (readRestriction value) := by
  cases value with
  | string text => exact returns_ok (unbound_spliced _ text)
  | _ => exact returns_bind fun criteria _ => returns_ok ⟨rfl, nofun⟩

theorem returns_readPlain (kind : ClauseKind) (value : Json) :
    Returns Unbound (readPlain kind value) := by
  cases kind with
  | find => exact returns_readMatch value
  | create use => exact returns_readCreation use value
  | assign moment => exact returns_readAssignment moment value
  | remove => exact returns_readRemoval value
  | delete => exact returns_readDeletion value
  | project stage => exact returns_readStage stage value
  | sort => exact returns_readSorting value
  | unwind => exact returns_readUnwinding value
  | page part => exact returns_readPage part value
  | restrict => exact returns_readRestriction value
  | _ => exact returns_map fun text => ⟨rfl, nofun⟩

/-! ## Nested clauses -/

/-- The kind of a clause follows from the kind of those that a payload can give it for a body. -/
structure Hereditary (kind : Clause → Prop) : Prop where
  unbound : ∀ {clause}, Unbound clause → kind clause
  nested : ∀ {clause : Clause} {body : Query}, clause.body? = some body → body.written = [] →
    body.pending ≠ [] → (∀ inner ∈ body.pending, kind inner) → kind clause

theorem hereditary_fresh : Hereditary Clause.Fresh where
  unbound unbound := unbound.fresh
  nested nested unwritten _ fresh := .nested nested unwritten fresh

theorem ne_nil_of_readArray {key : String} {items read : List Json}
    (passed : readArray key (.array items) = .ok read) : items ≠ [] := by
  rintro rfl
  cases passed

theorem returns_length_readClauseList (allocator : AllocatorId) (items : List Json) :
    Returns (fun clauses => clauses.length = items.length) (readClauseList allocator items) := by
  induction items with
  | nil =>
    rw [readClauseList]
    exact returns_ok rfl
  | cons item rest ih =>
    cases item with
    | object entries =>
      rw [readClauseList]
      refine returns_bind fun first _ => returns_bind fun more read => returns_ok ?_
      rw [List.length_cons, List.length_cons, ih more read]
    | _ =>
      rw [readClauseList]
      · exact returns_error _
      all_goals nofun

/-- Payload objects, if there are some, are read into clauses. -/
theorem returns_ne_nil_readClauseList (allocator : AllocatorId) {items : List Json}
    (some : items ≠ []) :
    Returns (fun clauses => clauses ≠ []) (readClauseList allocator items) := by
  intro clauses read
  rw [← List.length_pos_iff, returns_length_readClauseList allocator items clauses read]
  exact List.length_pos_iff.mpr some

theorem returns_ne_nil_readClauses (allocator : AllocatorId) {value : Json}
    (some : value ≠ .array []) :
    Returns (fun clauses => clauses ≠ []) (readClauses allocator value) := by
  cases value with
  | array items =>
    rw [readClauses]
    refine returns_ne_nil_readClauseList allocator ?_
    rintro rfl
    exact some rfl
  | object entries =>
    rw [readClauses]
    exact returns_bind fun clause _ => returns_ok (List.cons_ne_nil clause [])
  | _ =>
    rw [readClauses]
    · exact returns_error _
    all_goals nofun

/-- A body that a loop is read with has clauses. -/
theorem returns_ne_nil_readLoopBody (allocator : AllocatorId) (fields : List (String × Json)) :
    Returns (fun clauses => clauses ≠ []) (readLoopBody allocator fields) := by
  induction fields with
  | nil =>
    rw [readLoopBody]
    exact returns_error _
  | cons field rest ih =>
    obtain ⟨name, value⟩ := field
    rw [readLoopBody]
    refine returns_ite ?_ ih
    cases value with
    | array items =>
      refine returns_bind fun read passed => returns_ne_nil_readClauses allocator ?_
      rintro ⟨⟩
      exact ne_nil_of_readArray passed rfl
    | _ => exact returns_ne_nil_readClauses allocator nofun

section Hereditary

variable {kind : Clause → Prop}

mutual

theorem Hereditary.readClauses (hereditary : Hereditary kind) (allocator : AllocatorId)
    (value : Json) :
    Returns (fun clauses => ∀ clause ∈ clauses, kind clause) (readClauses allocator value) := by
  cases value with
  | array items =>
    rw [Payload.readClauses]
    exact hereditary.readClauseList allocator items
  | object entries =>
    rw [Payload.readClauses]
    refine returns_bind fun clause read => returns_ok ?_
    simpa using hereditary.readClauseObject allocator entries clause read
  | _ =>
    rw [Payload.readClauses]
    · exact returns_error _
    all_goals nofun

theorem Hereditary.readClauseList (hereditary : Hereditary kind) (allocator : AllocatorId)
    (items : List Json) :
    Returns (fun clauses => ∀ clause ∈ clauses, kind clause)
      (readClauseList allocator items) := by
  cases items with
  | nil =>
    rw [Payload.readClauseList]
    exact returns_ok (by simp)
  | cons item rest =>
    cases item with
    | object entries =>
      rw [Payload.readClauseList]
      refine returns_bind fun first read => returns_bind fun more read' => returns_ok ?_
      rw [List.forall_mem_cons]
      exact ⟨hereditary.readClauseObject allocator entries first read,
        hereditary.readClauseList allocator rest more read'⟩
    | _ =>
      rw [Payload.readClauseList]
      · exact returns_error _
      all_goals nofun

theorem Hereditary.readClauseObject (hereditary : Hereditary kind) (allocator : AllocatorId)
    (entries : List (String × Json)) :
    Returns kind (readClauseObject allocator entries) := by
  rw [Payload.readClauseObject]
  refine returns_bind fun kind _ => ?_
  cases entries with
  | nil => exact returns_error _
  | cons entry rest =>
    obtain ⟨key, body⟩ := entry
    exact hereditary.readBody allocator kind body

theorem Hereditary.readBody (hereditary : Hereditary kind) (allocator : AllocatorId)
    (use : ClauseKind) (value : Json) :
    Returns kind (readBody allocator use value) := by
  cases use with
  | call =>
    -- text is spliced, and clauses become a body with nothing written in it
    cases value with
    | string text =>
      rw [Payload.readBody]
      exact returns_ok (hereditary.unbound (unbound_spliced _ text))
    | array items =>
      rw [Payload.readBody]
      refine returns_bind fun some passed => returns_bind fun clauses read => returns_ok ?_
      exact hereditary.nested rfl rfl
        (returns_ne_nil_readClauseList allocator (ne_nil_of_readArray passed) clauses read)
        (hereditary.readClauseList allocator items clauses read)
    | object entries =>
      rw [Payload.readBody]
      refine returns_bind fun clause read => returns_ok ?_
      refine hereditary.nested rfl rfl (List.cons_ne_nil clause []) ?_
      simpa using hereditary.readClauseObject allocator entries clause read
    | _ =>
      rw [Payload.readBody]
      · exact returns_error _
      all_goals nofun
  | forEach =>
    cases value with
    | string text =>
      rw [Payload.readBody]
      exact returns_ok (hereditary.unbound (unbound_spliced _ text))
    | object fields =>
      rw [Payload.readBody]
      refine returns_bind fun known _ => returns_bind fun item _ => returns_bind fun list _ => ?_
      refine returns_bind fun clauses read => returns_ok ?_
      exact hereditary.nested rfl rfl (returns_ne_nil_readLoopBody allocator fields clauses read)
        (hereditary.readLoopBody allocator fields clauses read)
    | _ =>
      rw [Payload.readBody]
      · exact returns_error _
      all_goals nofun
  | _ =>
    rw [Payload.readBody]
    · exact fun clause read => hereditary.unbound (returns_readPlain _ value clause read)
    all_goals nofun

theorem Hereditary.readLoopBody (hereditary : Hereditary kind) (allocator : AllocatorId)
    (fields : List (String × Json)) :
    Returns (fun clauses => ∀ clause ∈ clauses, kind clause)
      (readLoopBody allocator fields) := by
  cases fields with
  | nil =>
    rw [Payload.readLoopBody]
    exact returns_error _
  | cons field rest =>
    obtain ⟨name, value⟩ := field
    rw [Payload.readLoopBody]
    refine returns_ite ?_ (hereditary.readLoopBody allocator rest)
    cases value with
    | array items =>
      exact returns_bind fun some _ => hereditary.readClauses allocator (.array items)
    | _ => exact hereditary.readClauses allocator _

end

end Hereditary

/-- A payload is read into fresh clauses. -/
theorem returns_readClauses (allocator : AllocatorId) (value : Json) :
    Returns (fun clauses => ∀ clause ∈ clauses, clause.Fresh) (readClauses allocator value) :=
  hereditary_fresh.readClauses allocator value

end Cypher.Payload
