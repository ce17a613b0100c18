import Cypher.Proofs.PlacedConditions

/-!
# Why a pattern is refused

One element of a pattern is refused for its range of hops, or because it is to
be created with more than one equality on each property. Nothing is bound before
that is known: the half that is written inside the pattern always fits there
(`Filter.renders`), so that a refused element leaves the allocator as it was. The
same goes for the properties that are set.
-/

namespace Cypher

open Asking (Yields yields_pure yields_true yields_bind)

/-! ## Reasons -/

/-- A property of the filter has a comparison besides one equality. -/
def Filter.Overfull : Filter → Prop
  | conditions required => ∃ entry ∈ required.entries,
      (∃ comparison ∈ entry.2.comparisons, comparison.1 ≠ .eq) ∨ 1 < entry.2.comparisons.length
  | _ => False

/-- The range ends before it begins. -/
def Hops.Inverted (hops : Hops) : Prop :=
  ∃ min max, hops.min = some (.finite min) ∧ hops.max = some (.finite max) ∧ max < min

/-- The range of hops of a relationship. -/
def PathElement.hops : PathElement → Hops
  | relationship (.pattern shape) => shape.hops
  | _ => ⟨none, none⟩

/-- What a filter hands on to the clause. -/
def Filter.hoistedHalf : Filter → Conditions
  | conditions required => required.hoistedHalf
  | _ => .empty

/-- Something is left besides the first equality when there is another comparison. -/
theorem dropFirstEquality_ne_nil_iff (comparisons : List (Operator × Operand)) :
    dropFirstEquality comparisons ≠ [] ↔
      (∃ comparison ∈ comparisons, comparison.1 ≠ .eq) ∨ 1 < comparisons.length := by
  cases comparisons with
  | nil => simp [dropFirstEquality]
  | cons comparison rest =>
    rw [dropFirstEquality]
    by_cases equality : comparison.1 = .eq
    · rw [if_pos (by simp [equality, Operator.isEq])]
      constructor
      · intro more
        exact .inr (Nat.succ_lt_succ (List.length_pos_iff.mpr more))
      · rintro (⟨other, member, differs⟩ | long) rfl
        · rw [List.mem_singleton.mp member] at differs
          exact differs equality
        · exact absurd long (Nat.lt_irrefl 1)
    · rw [if_neg (by simpa [Operator.isEq] using equality)]
      exact iff_of_true (List.cons_ne_nil _ _) (.inl ⟨comparison, List.mem_cons_self, equality⟩)

theorem Conditions.hoistedHalf_ne_nil_iff (conditions : Conditions) :
    conditions.hoistedHalf.entries ≠ [] ↔
      ∃ entry ∈ conditions.entries, dropFirstEquality entry.2.comparisons ≠ [] := by
  rw [hoistedHalf, OrderedMap.filterMap, Ne, List.filterMap_eq_nil_iff, not_forall]
  refine exists_congr fun entry => ?_
  rw [Classical.not_imp]
  cases dropFirstEquality entry.2.comparisons <;> simp

theorem Filter.overfull_iff (filter : Filter) :
    filter.Overfull ↔ filter.hoistedHalf.entries ≠ [] := by
  cases filter with
  | conditions required =>
    rw [hoistedHalf, Conditions.hoistedHalf_ne_nil_iff]
    simp only [dropFirstEquality_ne_nil_iff, Overfull]
  | _ => exact iff_of_false id fun something => something rfl

theorem Filter.check_eq_ok_iff (filter : Filter) (mode : Mode) :
    filter.check mode = .ok () ↔ ¬ (mode = .creating ∧ filter.Overfull) := by
  rw [filter.overfull_iff]
  cases filter with
  | conditions required =>
    cases mode with
    | matching => exact iff_of_true rfl fun both => nomatch both.1
    | creating =>
      cases handed : required.hoistedHalf.entries <;> simp [check, hoistedHalf, handed]
  | _ => simp [check, hoistedHalf]

theorem Hops.check_eq_ok_iff (hops : Hops) : hops.check = .ok () ↔ ¬ hops.Inverted := by
  rw [check]
  split
  · next min max first last =>
    rw [Inverted, first, last]
    by_cases inverted : max < min
    · rw [if_pos inverted]
      exact iff_of_false nofun fun fine => fine ⟨min, max, rfl, rfl, inverted⟩
    · rw [if_neg inverted]
      refine iff_of_true rfl ?_
      rintro ⟨_, _, ⟨⟩, ⟨⟩, less⟩
      exact inverted less
  · next open' =>
    refine iff_of_true rfl ?_
    rintro ⟨min, max, first, last, _⟩
    exact open' min max first last

theorem PathElement.check_eq_ok_iff (element : PathElement) (mode : Mode) :
    element.check mode = .ok () ↔
      ¬ (mode = .creating ∧ element.filter.Overfull ∨ element.hops.Inverted) := by
  have unbounded : ¬ Hops.Inverted ⟨none, none⟩ := by
    rintro ⟨_, _, ⟨⟩, _⟩
  have free : ¬ (mode = .creating ∧ Filter.nothing.Overfull) := fun both => both.2
  rw [not_or]
  cases element with
  | node node =>
    cases node with
    | raw text => exact iff_of_true rfl ⟨free, unbounded⟩
    | pattern shape =>
      exact (shape.filter.check_eq_ok_iff mode).trans (and_iff_left unbounded).symm
  | relationship relationship =>
    cases relationship with
    | raw text => exact iff_of_true rfl ⟨free, unbounded⟩
    | pattern shape =>
      rw [and_comm, PathElement.filter, Relationship.filter, PathElement.hops,
        ← shape.filter.check_eq_ok_iff, ← shape.hops.check_eq_ok_iff]
      constructor
      · intro fine
        obtain ⟨_, first, second⟩ := bind_eq_ok fine
        exact ⟨first, second⟩
      · rintro ⟨first, second⟩
        rw [PathElement.check, Relationship.check, first]
        exact second

/-! ## What a rendering leaves -/

/-- The rendering fails as the check does and changes nothing, or grants what the draft asks for. -/
def Settles {α β : Type} (check : Except Error Unit) (draft : Asking α)
    (fill : List String → α → β) (render : Rendering β) : Prop :=
  ∀ allocator, render.run allocator = match check with
    | .error error => .error error allocator
    | .ok () => .ok (settle fill draft allocator).1 (settle fill draft allocator).2

namespace Settles

variable {α β : Type} {check : Except Error Unit} {draft : Asking α}
  {fill : List String → α → β} {render : Rendering β} {allocator after : Allocator}

theorem refused_iff (settles : Settles check draft fill render) (allocator : Allocator) :
    (∃ error after, render.run allocator = .error error after) ↔ ¬ check = .ok () := by
  rw [settles]
  cases check with
  | error error => exact iff_of_true ⟨error, allocator, rfl⟩ nofun
  | ok => exact iff_of_false (by rintro ⟨_, _, ⟨⟩⟩) fun refused => refused rfl

theorem refused {error : Error} (settles : Settles check draft fill render)
    (failed : render.run allocator = .error error after) :
    check = .error error ∧ after = allocator := by
  rw [settles] at failed
  cases check with
  | error reason =>
    cases failed
    exact ⟨rfl, rfl⟩
  | ok => cases failed

theorem passed {done : β} (settles : Settles check draft fill render)
    (rendered : render.run allocator = .ok done after) :
    check = .ok () ∧ settle fill draft allocator = (done, after) := by
  rw [settles] at rendered
  cases check with
  | error error => cases rendered
  | ok =>
    cases rendered
    exact ⟨rfl, rfl⟩

end Settles

theorem Filter.run_render_error {filter : Filter} {mode : Mode} {error : Error}
    (failed : filter.check mode = .error error) (stem : String) (identifier : Option String)
    (allocator : Allocator) :
    (filter.render mode stem identifier).run allocator = .error error allocator := by
  cases filter with
  | conditions required =>
    rw [render, failed]
    rfl
  | _ => cases failed

theorem PathElement.run_render_error {element : PathElement} {mode : Mode} {error : Error}
    (failed : element.check mode = .error error) (allocator : Allocator) :
    (element.render mode).run allocator = .error error allocator := by
  -- a raw element has no check, and everything before the filter fails at once
  cases element with
  | node node =>
    cases node with
    | raw text => cases failed
    | pattern shape =>
      rw [render, Node.render, EStateM.run_bind, Filter.run_render_error failed]
  | relationship relationship =>
    cases relationship with
    | raw text => cases failed
    | pattern shape =>
      rw [render, Relationship.render]
      replace failed : (shape.hops.check >>= fun _ => shape.filter.check mode) = .error error := failed
      cases checked : shape.hops.check with
      | error reason =>
        rw [checked] at failed
        cases failed
        rfl
      | ok =>
        rw [checked] at failed
        rw [EStateM.run_bind]
        show EStateM.run (_ >>= _) allocator = _
        rw [EStateM.run_bind, Filter.run_render_error failed]

/-- An element is refused before anything is granted. -/
theorem PathElement.settles (element : PathElement) (mode : Mode) :
    Settles (element.check mode) element.ask PatternText.fill (element.render mode) := by
  intro allocator
  cases checked : element.check mode with
  | error error => exact PathElement.run_render_error checked allocator
  | ok => exact run_eq_settle (fun names => (element.renders mode names).grants checked) allocator

/-- Checks an element of a pattern and writes it, binding its values. -/
def PathElement.compile (mode : Mode) :
    PathElement → Allocator → Except Error (PatternText String × Allocator)
  | node element => element.compile mode
  | relationship element => element.compile mode

/-- What is compiled is what is rendered in place. -/
theorem PathElement.compile_eq (element : PathElement) (mode : Mode) (allocator : Allocator) :
    element.compile mode allocator = match (element.render mode).run allocator with
      | .ok done after => .ok (done, after)
      | .error error _ => .error error := by
  have written : element.compile mode allocator =
      element.check mode >>= fun _ => .ok (settle PatternText.fill element.ask allocator) := by
    cases element <;> rfl
  rw [written, element.settles]
  cases element.check mode <;> rfl

/-! ## Elements that hand nothing on -/

/-- The element is written with the identifier that it was given and no other, and hands no
condition on. -/
def PathElement.WrittenAlone (element : PathElement) (done : PatternText String) : Prop :=
  ∃ inside, done = Placement.done ⟨element, element.identifier?.map .given, inside, .empty⟩

theorem Filter.yields_hoisted {filter : Filter} (nothing : filter.hoistedHalf.entries = [])
    (stem : String) (identifier : Option String) :
    Yields (fun done => done.hoisted = .empty) (filter.ask stem identifier) := by
  cases filter with
  | nothing => exact yields_pure rfl
  | properties values => exact yields_bind (yields_true _) fun _ _ => yields_pure rfl
  | conditions required =>
    have empty : required.hoistedHalf.isEmpty = true := List.isEmpty_iff.mpr nothing
    refine yields_bind (yields_true _) fun inside _ => ?_
    rw [if_pos empty]
    exact yields_pure rfl

theorem PathElement.yields_hoisted {element : PathElement}
    (nothing : element.filter.hoistedHalf.entries = []) :
    Yields (fun done => done.hoisted = .empty) element.ask := by
  cases element with
  | node node =>
    cases node with
    | raw text => exact yields_pure rfl
    | pattern shape =>
      exact yields_bind (Filter.yields_hoisted nothing _ _) fun _ same => yields_pure same
  | relationship relationship =>
    cases relationship with
    | raw text => exact yields_pure rfl
    | pattern shape =>
      exact yields_bind (Filter.yields_hoisted nothing _ _) fun _ same => yields_pure same

/-- Where nothing is handed on, no name is reserved. -/
theorem PathElement.writtenAlone {element : PathElement} {mode : Mode} {allocator after : Allocator}
    {done : PatternText String} (nothing : element.filter.hoistedHalf.entries = [])
    (rendered : (element.render mode).run allocator = .ok done after) :
    element.WrittenAlone done ∧ after.reserved = allocator.reserved := by
  obtain ⟨_, names, reserved, placement, placed, own, rfl, complete⟩ :=
    element.makes_placement mode allocator done after (.refl allocator) rendered
  have bare : placement.filter.hoisted = .empty := by
    obtain ⟨_, written⟩ := (PathElement.settles _ mode).passed rendered
    have same := congrArg (fun result => result.1.hoisted) written
    rw [settle_eq, placed] at same
    refine same.symm.trans ?_
    rw [PatternText.fill, PathElement.yields_hoisted nothing []]
    rfl
  obtain ⟨element, subject, inside, hoisted⟩ := placement
  dsimp only at bare
  subst bare
  have given : subject = element.identifier?.map .given := by
    cases own : element.identifier? with
    | none => exact complete.nameless own
    | some name => exact complete.named name own
  subst given
  refine ⟨⟨inside, placed⟩, ?_⟩
  rw [reserved, own]
  show allocator.reserved ++ FilterText.names _ = _
  rw [FilterText.names_given, List.append_nil]

/-! ## Properties that are set -/

/-- The new values of properties, once both the identifier and the properties are there. -/
def Assignment.renderParts (assignment : Assignment) : Rendering (Fragment String) := do
  demand assignment.check
  assignment.render

theorem Assignment.check_eq_ok_iff (assignment : Assignment) :
    assignment.check = .ok () ↔ ¬ (Text.isBlankText assignment.identifier = true ∨
      assignment.properties.isEmpty = true) := by
  rw [check, checkNonBlank, not_or]
  by_cases blank : Text.isBlankText assignment.identifier = true
  · rw [if_pos blank]
    exact iff_of_false nofun fun both => both.1 blank
  · rw [if_neg blank]
    refine Iff.trans ?_ (and_iff_right blank).symm
    by_cases empty : assignment.properties.isEmpty = true
    · rw [if_pos empty]
      exact iff_of_false nofun fun filled => filled empty
    · rw [if_neg empty]
      exact iff_of_true rfl empty

theorem Assignment.settles (assignment : Assignment) :
    Settles assignment.check assignment.ask Fragment.fill assignment.renderParts := by
  intro allocator
  rw [renderParts, EStateM.run_bind]
  cases assignment.check with
  | error error => rfl
  | ok => exact run_eq_settle (fun _ => assignment.grants_render) allocator

/-- A clause that sets properties has its keyword before them. -/
theorem Clause.render_assign (home : AllocatorId) (moment : SetMoment) (assignment : Assignment) :
    (Clause.assign moment assignment).render home =
      assignment.renderParts >>= fun parts => pure (moment.keyword.before parts) := by
  rw [Clause.render, Assignment.renderParts, bind_assoc]

/-! ## Refusals -/

/-- An element is refused just when it is to be created with more than one equality on each
property, or when its range of hops ends before it begins; then the allocator is as it was. What is
created hands nothing on and is written with the identifier that it was given, if any. Properties
are not set just when there are none, or no identifier, and that leaves the allocator as it was,
too. -/
theorem PathElement.render_refused (element : PathElement) (mode : Mode) (allocator : Allocator) :
    ((∃ error after, (element.render mode).run allocator = .error error after) ↔
        mode = .creating ∧ element.filter.Overfull ∨ element.hops.Inverted) ∧
      (∀ error after, (element.render mode).run allocator = .error error after →
        after = allocator ∧ element.compile mode allocator = .error error) ∧
      (∀ done after, (element.render mode).run allocator = .ok done after →
        element.compile mode allocator = .ok (done, after) ∧
          (mode = .creating → element.WrittenAlone done ∧ after.reserved = allocator.reserved)) ∧
      ∀ assignment : Assignment,
        ((∃ error after, assignment.renderParts.run allocator = .error error after) ↔
          Text.isBlankText assignment.identifier = true ∨ assignment.properties.isEmpty = true) ∧
        (∀ error after, assignment.renderParts.run allocator = .error error after →
          after = allocator) ∧
        ∀ home moment, (Clause.assign moment assignment).render home =
          assignment.renderParts >>= fun parts => pure (moment.keyword.before parts) := by
  have settles := element.settles mode
  refine ⟨?_, fun error after failed => ?_, fun done after rendered => ?_, fun assignment => ?_⟩
  · rw [settles.refused_iff, element.check_eq_ok_iff, not_not]
  · refine ⟨(settles.refused failed).2, ?_⟩
    rw [element.compile_eq, failed]
  · refine ⟨by rw [element.compile_eq, rendered], ?_⟩
    rintro rfl
    refine PathElement.writtenAlone (Classical.not_not.mp fun something => ?_) rendered
    -- what an element hands on is refused when it is created
    have fine := (element.check_eq_ok_iff .creating).mp (settles.passed rendered).1
    exact fine (.inl ⟨rfl, element.filter.overfull_iff.mpr something⟩)
  · refine ⟨?_, fun error after failed => (assignment.settles.refused failed).2,
      fun home moment => Clause.render_assign home moment assignment⟩
    rw [assignment.settles.refused_iff, assignment.check_eq_ok_iff, not_not]

/-- A node with these comparisons on one of its properties. -/
def comparedNode (comparisons : List (Operator × Operand)) : PathElement :=
  .node (.pattern ⟨some "n", none, .conditions (.ofList [("age", .operators comparisons)])⟩)

theorem PathElement.render_refused_comparedNode :
    (∃ error, ((comparedNode [(.eq, .literal "1"), (.eq, .literal "2")]).render .creating).run .empty =
        .error error .empty) ∧
      ∃ done, ((comparedNode [(.eq, .literal "1")]).render .creating).run .empty = .ok done .empty ∧
        (comparedNode [(.eq, .literal "1")]).WrittenAlone done := by
  constructor
  · have refused := render_refused (comparedNode [(.eq, .literal "1"), (.eq, .literal "2")])
      .creating .empty
    obtain ⟨error, after, failed⟩ := refused.1.mpr
      (.inl ⟨rfl, _, List.mem_singleton_self _, .inr (by decide)⟩)
    obtain ⟨rfl, _⟩ := refused.2.1 error after failed
    exact ⟨error, failed⟩
  · obtain ⟨_, _, written, _⟩ := render_refused (comparedNode [(.eq, .literal "1")]) .creating .empty
    exact ⟨_, rfl, ((written _ _ rfl).2 rfl).1⟩

end Cypher
