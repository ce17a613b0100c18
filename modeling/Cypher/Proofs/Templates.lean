import Cypher.Proofs.Atomicity
import Cypher.Proofs.TidyDrafts

/-!
# Statements are templates with names filled in

What the allocator holds decides nothing but the names that it hands out. A list
of clauses has one template, made of lexemes and of holes, and one list of
requests; a statement is the template with the granted names in its holes.
-/

namespace Cypher

open Lexing (Balanced lexemes)

/-- A lexeme of a statement, or the place of one. -/
inductive Slot
  /-- A lexeme that is the same whatever is granted. -/
  | text (lexeme : List Char)
  /-- A place for the name that answers the request with this number. -/
  | hole (request : Nat)

namespace Slot

/-- The lexeme, given the answers to the requests. -/
def fill (names : List String) : Slot → List Char
  | text lexeme => lexeme
  | hole request => Name.written (names.getD request "").toList

def isBlank : Slot → Prop
  | text lexeme => Lexing.Kind.of lexeme = .blank
  | hole _ => False

instance : DecidablePred isBlank
  | text lexeme => inferInstanceAs (Decidable (Lexing.Kind.of lexeme = .blank))
  | hole _ => inferInstanceAs (Decidable False)

/-- The place of a name. -/
def ofRef : Ref → Slot
  | .granted name => text (Name.written name.toList)
  | .asked request => hole request

/-- The slots with one space in the place of the blanks between two others. -/
def squeeze : Spacing.Mode → List Slot → List Slot
  | _, [] => []
  | mode, slot :: rest =>
      if slot.isBlank then squeeze (if mode = .blank then .blank else .gap) rest
      else if mode = .gap then .text [' '] :: slot :: squeeze .flush rest
      else slot :: squeeze .flush rest

/-- The slots of fragments that are joined. -/
def squeezeAll : Bool → List (List Slot) → List Slot
  | _, [] => []
  | begun, fragment :: rest =>
      let added := squeeze (if begun then .gap else .blank) fragment
      added ++ squeezeAll (begun || !added.isEmpty) rest

/-! ## Filling slots -/

@[simp] theorem fill_text (names : List String) (lexeme : List Char) :
    (text lexeme).fill names = lexeme := rfl

theorem fill_ofRef (names : List String) (ref : Ref) :
    (ofRef ref).fill names = Name.written (ref.resolve names).toList := by
  cases ref <;> rfl

theorem map_fill_text (names : List String) (lexemes : List (List Char)) :
    (lexemes.map text).map (fill names) = lexemes := by
  rw [List.map_map]
  exact List.map_id lexemes

/-- A name is not blank, whatever it is. -/
theorem isBlank_iff (names : List String) (slot : Slot) :
    slot.isBlank ↔ Lexing.Kind.of (slot.fill names) = .blank := by
  cases slot with
  | text lexeme => exact .rfl
  | hole request => simp [isBlank, fill, Lexing.Kind.of_written]

theorem squeeze_fill (names : List String) (mode : Spacing.Mode) (slots : List Slot) :
    Spacing.squeeze mode (slots.map (fill names)) = (squeeze mode slots).map (fill names) := by
  induction slots generalizing mode with
  | nil => rfl
  | cons slot rest ih =>
    simp only [List.map_cons, Spacing.squeeze, squeeze, ← isBlank_iff, ih]
    split
    · rfl
    · split <;> rfl

theorem squeezeAll_fill (names : List String) (begun : Bool) (fragments : List (List Slot)) :
    Spacing.squeezeAll begun (fragments.map (List.map (fill names))) =
      (squeezeAll begun fragments).map (fill names) := by
  induction fragments generalizing begun with
  | nil => rfl
  | cons fragment rest ih =>
    simp only [List.map_cons, Spacing.squeezeAll, squeezeAll, squeeze_fill, ih, List.map_append,
      List.isEmpty_map]

end Slot

namespace Fragment

mutual

/-- The slots of a fragment behind a text that is not cut yet. -/
def slotsFrom (run : List Char) : List (Piece Ref) → List Slot
  | [] => (lexemes run).map .text
  | .fixed text :: rest => slotsFrom (run ++ text.toList) rest
  | .raw text :: rest => slotsFrom (run ++ text.toList) rest
  | .name given :: rest =>
      (lexemes run).map .text ++ .text (Name.written given.toList) :: slotsFrom [] rest
  | .identifier ref :: rest => (lexemes run).map .text ++ .ofRef ref :: slotsFrom [] rest
  | .parameter ref :: rest =>
      (lexemes run).map .text ++ .text ['$'] :: .ofRef ref :: slotsFrom [] rest
  | .body fragments :: rest =>
      (lexemes run).map .text ++ (Slot.squeezeAll false (allSlots fragments) ++ slotsFrom [] rest)

def allSlots : List (List (Piece Ref)) → List (List Slot)
  | [] => []
  | fragment :: rest => slotsFrom [] fragment :: allSlots rest

end

mutual

theorem lexemesFrom_fill (names : List String) (run : List Char) (fragment : List (Piece Ref)) :
    lexemesFrom run (map (Ref.resolve names) fragment) =
      (slotsFrom run fragment).map (Slot.fill names) := by
  cases fragment with
  | nil => rw [map, lexemesFrom, slotsFrom, Slot.map_fill_text]
  | cons piece rest =>
    have behind (run : List Char) := lexemesFrom_fill names run rest
    cases piece with
    | body fragments =>
      rw [map, mapPiece, lexemesFrom, slotsFrom, behind, allLexemes_fill names fragments,
        Slot.squeezeAll_fill, List.map_append, List.map_append, Slot.map_fill_text]
    | _ =>
      simp only [map, mapPiece, lexemesFrom, slotsFrom, behind, List.map_append, List.map_cons,
        Slot.map_fill_text, Slot.fill_ofRef, Slot.fill_text]

theorem allLexemes_fill (names : List String) (fragments : List (List (Piece Ref))) :
    allLexemes (mapAll (Ref.resolve names) fragments) =
      (allSlots fragments).map (List.map (Slot.fill names)) := by
  cases fragments with
  | nil => rw [mapAll, allLexemes, allSlots, List.map_nil]
  | cons fragment rest =>
    rw [mapAll, allLexemes, allSlots, List.map_cons, lexemesFrom_fill names [] fragment,
      allLexemes_fill names rest]

end

end Fragment

/-! ## Clauses without written fragments -/

/-- Nothing in the bodies of the clause, at any depth, is written already. -/
inductive Clause.Unwritten : Clause → Prop
  | plain {clause : Clause} : clause.body? = none → Unwritten clause
  | nested {clause : Clause} {body : Body Clause} : clause.body? = some body →
      body.written = [] → (∀ inner ∈ body.pending, Unwritten inner) → Unwritten clause

theorem Clause.Unwritten.genuine {clause : Clause} (unwritten : clause.Unwritten) :
    clause.Genuine := by
  induction unwritten with
  | plain noBody => exact .plain noBody
  | nested nested nothing _ ih =>
    refine .nested nested (by simp [nothing]) fun inner member => ih inner ?_
    simpa [Query.clauses, nothing] using member

/-! ## Templates of clauses -/

/-- The text of slots with names in their holes. -/
def Slot.textOf (names : List String) (slots : List Slot) : String :=
  String.ofList (slots.map (Slot.fill names)).flatten

namespace Clause

/-- What the clauses ask for, in order. -/
def requested (clauses : List Clause) : List Request := ((askAll clauses).run []).2

/-- The statement of the clauses without the names that they ask for. -/
def template (clauses : List Clause) : List Slot :=
  Slot.squeezeAll false (Fragment.allSlots ((askAll clauses).run []).1)

/-- The lexemes of the statement that the filled drafts make. -/
theorem template_fill (names : List String) (clauses : List Clause) :
    Spacing.squeezeAll false
        (Fragment.allLexemes (Query.fillAll names ((askAll clauses).run []).1)) =
      (template clauses).map (Slot.fill names) := by
  have filled : Query.fillAll names ((askAll clauses).run []).1 =
      Fragment.mapAll (Ref.resolve names) ((askAll clauses).run []).1 :=
    (Fragment.mapAll_eq _ _).symm
  rw [filled, Fragment.allLexemes_fill, Slot.squeezeAll_fill, template]

/-- Rendering looks at no more names than it has asked for. -/
theorem fillAll_more {home : AllocatorId} {clauses : List Clause}
    (checked : checkAll home clauses = .ok ()) (allocator : Allocator) (more : List String) :
    Query.fillAll ((allocator.grantAll (requested clauses)).1 ++ more)
        ((askAll clauses).run []).1 =
      Query.fillAll (allocator.grantAll (requested clauses)).1 ((askAll clauses).run []).1 := by
  have rendered (names : List String)
      (granted : (allocator.grantAll (requested clauses)).1 <+: names) :
      (renderAll home clauses).run allocator =
        .ok (Query.fillAll names ((askAll clauses).run []).1)
          (allocator.grantAll (requested clauses)).2 := by
    obtain ⟨new, grown, ran⟩ := (renders_renderAll home clauses names).grants checked allocator []
    obtain rfl : requested clauses = new := grown
    exact ran granted
  have first := rendered _ (List.prefix_append _ more)
  have second := rendered _ (List.prefix_refl _)
  exact (EStateM.Result.ok.inj (first.symm.trans second)).1

/-- The holes of a template are answers to requests. -/
theorem lt_of_hole_mem {home : AllocatorId} {clauses : List Clause}
    (checked : checkAll home clauses = .ok ()) {request : Nat}
    (hole : .hole request ∈ template clauses) : request < (requested clauses).length := by
  by_contra beyond
  -- a hole beyond what is granted would be filled by more names
  have same := fillAll_more checked .empty (List.replicate (request + 1) "x")
  have unasked : (Allocator.empty.grantAll (requested clauses)).1.length ≤ request := by
    rw [length_grantAll]
    exact Nat.le_of_not_lt beyond
  generalize (Allocator.empty.grantAll (requested clauses)).1 = granted at same unasked
  have filled := congrArg (fun fragments =>
    Spacing.squeezeAll false (Fragment.allLexemes fragments)) same
  simp only [template_fill] at filled
  have written := List.map_inj_left.mp filled _ hole
  have inside : request - granted.length < request + 1 := by omega
  simp only [Slot.fill, List.getD_eq_getElem?_getD, List.getElem?_append_right unasked,
    List.getElem?_eq_none unasked, List.getElem?_replicate, if_pos inside, Option.getD] at written
  exact absurd written (by decide)

end Clause

/-- A query that is written for the first time says what its template says. -/
theorem Query.text_write {clauses : List Clause} {home : AllocatorId} {allocator after : Allocator}
    {done : Query} (unwritten : ∀ clause ∈ clauses, clause.Unwritten)
    (balanced : ∀ clause ∈ clauses, ∀ text ∈ clause.rawTexts, Balanced text.toList)
    (written : Query.write ⟨[], clauses, home⟩ allocator = .ok (done, after)) :
    done.text = Slot.textOf (allocator.grantAll (Clause.requested clauses)).1
      (Clause.template clauses) := by
  have genuine : Query.Genuine ⟨[], clauses, home⟩ :=
    ⟨nofun, fun clause member => (unwritten clause member).genuine⟩
  have texts : ∀ text ∈ Clause.rawTextsBody done, Balanced text.toList := by
    rw [Clause.rawTextsBody_eq, Query.clauses_write written, List.forall_mem_flatMap]
    exact balanced
  have tidy := (genuine.write written).tidy texts
  obtain ⟨_, rfl, _⟩ := Query.write_eq_ok written
  have fragments := Query.fragments_settled [] clauses home allocator
  rw [fragments] at tidy
  rw [Query.text, fragments, Slot.textOf, ← Clause.template_fill]
  exact congrArg String.ofList ((Lexing.flatten_lexemes _).symm.trans
    (congrArg List.flatten (Fragment.lexemes_joined_allChars tidy)))

/-- Clauses fail with one error whatever the allocator holds, and change nothing then; or they
make the same requests of every allocator, and their statement is one template with the written
forms of the granted names in its holes. -/
theorem Query.statement_template {clauses : List Clause}
    (unwritten : ∀ clause ∈ clauses, clause.Unwritten)
    (balanced : ∀ clause ∈ clauses, ∀ text ∈ clause.rawTexts, Balanced text.toList)
    (home : AllocatorId) :
    let query : Query := ⟨[], clauses, home⟩
    (∃ error, ∀ allocator, query.write allocator = .error error ∧
        query.statementInPlace allocator = .error error (query, allocator)) ∨
      (∀ request, .hole request ∈ Clause.template clauses →
          request < (Clause.requested clauses).length) ∧
        ∀ allocator : Allocator, ∃ done,
          let granted := allocator.grantAll (Clause.requested clauses)
          query.write allocator = .ok (done, granted.2) ∧
            query.statementInPlace allocator =
              .ok (Slot.textOf granted.1 (Clause.template clauses)) (done, granted.2) := by
  intro query
  cases checked : Clause.checkAll home clauses with
  | error error =>
    refine .inl ⟨error, fun allocator => ?_⟩
    have failed : query.write allocator = .error error := by
      rw [Query.write_eq]
      show (Clause.checkAll home clauses).map _ = _
      rw [checked]
      rfl
    refine ⟨failed, ?_⟩
    rw [Query.statementInPlace_eq, failed]
  | ok =>
    refine .inr ⟨fun request => Clause.lt_of_hole_mem checked, fun allocator => ?_⟩
    obtain ⟨done, after, written⟩ := @Query.exists_write query checked allocator
    have same := Query.text_write unwritten balanced written
    obtain ⟨_, _, rfl⟩ := Query.write_eq_ok written
    refine ⟨done, written, ?_⟩
    rw [Query.statementInPlace_eq, written, ← same]
    rfl

/-- A page, and a call that matches a node without an identifier, with a condition, and pages too. -/
def matchedCall : List Clause :=
  let older : Conditions := OrderedMap.empty.insert "b" (.operators [(.gt, .value (.int 1))])
  let body : Body Clause :=
    ⟨[], [.pattern .find (.node (.pattern ⟨none, none, .conditions older⟩)), .page .skip 3], 0⟩
  [.page .skip 2, .call body]

theorem Query.statement_template_matchedCall :
    let query : Query := ⟨[], matchedCall, 0⟩
    let taken := Allocator.ofValues [("b", .null), ("__n", .null)]
    (∃ left, query.statementInPlace .empty =
        .ok "SKIP $skip CALL \x7b MATCH (__n) WHERE __n.b > $b SKIP $skip__aaaa \x7d" left) ∧
      ∃ left, query.statementInPlace taken =
        .ok "SKIP $skip CALL \x7b MATCH (__n__aaaa) WHERE __n__aaaa.b > $b__aaaa SKIP $skip__aaaa \x7d"
          left := by
  intro query taken
  have plain (clause : Clause) (noBody : clause.body? = none) : clause.Unwritten := .plain noBody
  have unwritten : ∀ clause ∈ matchedCall, clause.Unwritten := by
    simp only [matchedCall, List.forall_mem_cons]
    refine ⟨plain _ rfl, .nested rfl rfl ?_, List.forall_mem_nil _⟩
    simp only [List.forall_mem_cons]
    exact ⟨plain _ rfl, plain _ rfl, List.forall_mem_nil _⟩
  have balanced : ∀ clause ∈ matchedCall, ∀ text ∈ clause.rawTexts, Balanced text.toList := by
    decide +kernel
  obtain ⟨error, failed⟩ | ⟨_, made⟩ := Query.statement_template unwritten balanced 0
  · obtain ⟨_, _, written⟩ := @Query.exists_write query rfl .empty
    cases written.symm.trans (failed .empty).1
  · obtain ⟨done, _, statement⟩ := made .empty
    obtain ⟨done', _, statement'⟩ := made taken
    have text : Slot.textOf (Allocator.empty.grantAll (Clause.requested matchedCall)).1
        (Clause.template matchedCall) =
          "SKIP $skip CALL \x7b MATCH (__n) WHERE __n.b > $b SKIP $skip__aaaa \x7d" := by
      decide +kernel
    have text' : Slot.textOf (taken.grantAll (Clause.requested matchedCall)).1
        (Clause.template matchedCall) =
          "SKIP $skip CALL \x7b MATCH (__n__aaaa) WHERE __n__aaaa.b > $b__aaaa SKIP $skip__aaaa \x7d" := by
      decide +kernel
    exact ⟨⟨_, text ▸ statement⟩, ⟨_, text' ▸ statement'⟩⟩

end Cypher
