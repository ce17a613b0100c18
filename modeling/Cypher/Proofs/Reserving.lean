import Cypher.Proofs.Backing

/-!
# Names that a rendering reserves

Only patterns reserve names, and most of what is rendered reserves none. `Makes`
tells of a rendering which names it reserves, in order, beside what `Ensures`
tells of its result.
-/

namespace Cypher

open List (Forall₂)

variable {α β κ : Type}

/-- A rendering that succeeds keeps all parameters and reserves these names, behind those that were
reserved before; this can be told of the names and of its result. -/
def Makes (start : Allocator) (told : Allocator → List String → α → Prop) (render : Rendering α) :
    Prop :=
  ∀ allocator result after, start.Keeps allocator → render.run allocator = .ok result after →
    allocator.Keeps after ∧
      ∃ names, after.reserved = allocator.reserved ++ names ∧ told after names result

/-- A rendering that succeeds keeps all parameters and reserves no name. -/
def Quiet (render : Rendering α) : Prop :=
  ∀ allocator result after, render.run allocator = .ok result after →
    allocator.Keeps after ∧ after.reserved = allocator.reserved

section Rules

variable {start : Allocator} {told : Allocator → List String → α → Prop}
  {told' : Allocator → List String → β → Prop}

theorem makes_pure {result : α} (holds : ∀ later, start.Keeps later → told later [] result) :
    Makes start told (pure result) := by
  intro allocator _ _ kept ran
  cases ran
  exact ⟨.refl allocator, [], (List.append_nil _).symm, holds allocator kept⟩

theorem makes_bind {render : Rendering α} {more : α → Rendering β}
    (first : Makes start told render)
    (second : ∀ between names result, start.Keeps between → told between names result →
      Makes between (fun after others => told' after (names ++ others)) (more result)) :
    Makes start told' (render >>= more) := by
  intro allocator result after kept ran
  obtain ⟨middle, between, ran, ran'⟩ := run_bind_ok ran
  obtain ⟨here, names, reserved, holds⟩ := first allocator middle between kept ran
  obtain ⟨there, others, reserved', holds'⟩ := second between names middle (kept.trans here) holds
    between result after (.refl between) ran'
  refine ⟨here.trans there, names ++ others, ?_, holds'⟩
  rw [reserved', reserved, List.append_assoc]

/-- A rendering that reserves nothing, with what it ensures. -/
theorem makes_of_quiet {tells : Allocator → α → Prop} {render : Rendering α} (quiet : Quiet render)
    (ensures : Ensures start tells render) :
    Makes start (fun after names result => names = [] ∧ tells after result) render := by
  intro allocator result after kept ran
  obtain ⟨keeps, same⟩ := quiet allocator result after ran
  refine ⟨keeps, [], ?_, rfl, (ensures allocator result after kept ran).2⟩
  rw [same, List.append_nil]

/-- First something that reserves nothing. -/
theorem makes_bind_quiet {tells : Allocator → α → Prop} {render : Rendering α}
    {more : α → Rendering β} (quiet : Quiet render) (ensures : Ensures start tells render)
    (second : ∀ between result, start.Keeps between → tells between result →
      Makes between told' (more result)) :
    Makes start told' (render >>= more) := by
  refine makes_bind (makes_of_quiet quiet ensures) ?_
  rintro between _ result kept ⟨rfl, holds⟩
  exact second between result kept holds

/-- A check before anything else. -/
theorem makes_check {check : Except Error Unit} {render : Rendering α}
    (makes : check = .ok () → Makes start told render) :
    Makes start told (demand check >>= fun _ => render) := by
  intro allocator result after kept ran
  cases check with
  | ok passed => exact makes rfl allocator result after kept ran
  | error error => cases ran

/-- A reserved name is the one that was asked for, with suffixes behind it. -/
theorem makes_identifier (name : String) :
    Makes start (fun _ names granted => names = [granted] ∧
      ∃ count, granted = name ++ Allocator.suffixes count) (obtainName (.identifier name)) := by
  intro allocator _ _ _ ran
  cases ran
  exact ⟨.refl allocator, _, rfl, rfl, allocator.exists_freshName_eq name⟩

/-- Each of the items becomes a part, and each part has its names. -/
theorem makes_each {tells : Allocator → α → κ → Prop} {make : κ → β} {made : κ → List String}
    {render : α → Rendering β} {items : List α}
    (stays : ∀ first later item part, first.Keeps later → tells first item part →
      tells later item part)
    (each : ∀ item ∈ items, ∀ start, Makes start (fun after names result =>
      ∃ part, result = make part ∧ names = made part ∧ tells after item part) (render item)) :
    Makes start (fun after names results => ∃ parts, results = parts.map make ∧
      names = parts.flatMap made ∧ Forall₂ (tells after) items parts) (renderEach render items) := by
  induction items generalizing start with
  | nil => exact makes_pure fun _ _ => ⟨[], rfl, rfl, .nil⟩
  | cons item rest ih =>
    simp only [List.forall_mem_cons] at each
    refine makes_bind (each.1 start) ?_
    rintro between _ _ _ ⟨part, rfl, rfl, holds⟩
    refine makes_bind (ih each.2) ?_
    rintro last _ _ kept ⟨parts, rfl, rfl, all⟩
    -- what is told of a part has to hold after the parts behind it, too
    refine makes_pure fun later kept' => ⟨part :: parts, rfl, ?_, .cons ?_ ?_⟩
    · rw [List.append_nil, List.flatMap_cons]
    · exact stays between later item part (kept.trans kept') holds
    · exact all.imp fun item part holds => stays last later item part kept' holds

end Rules

/-! ## Renderings that reserve nothing -/

theorem quiet_pure (result : α) : Quiet (pure result) := by
  intro allocator _ _ ran
  cases ran
  exact ⟨.refl allocator, rfl⟩

theorem quiet_bind {render : Rendering α} {more : α → Rendering β} (first : Quiet render)
    (second : ∀ result, Quiet (more result)) : Quiet (render >>= more) := by
  intro allocator result after ran
  obtain ⟨middle, between, ran, ran'⟩ := run_bind_ok ran
  obtain ⟨here, same⟩ := first allocator middle between ran
  obtain ⟨there, same'⟩ := second middle between result after ran'
  exact ⟨here.trans there, same'.trans same⟩

theorem quiet_demand (attempt : Except Error α) : Quiet (demand attempt) := by
  cases attempt with
  | ok passed => exact quiet_pure passed
  | error error =>
    intro allocator result after ran
    cases ran

theorem quiet_parameter (name : String) (value : Value) :
    Quiet (obtainName (.parameter name value)) := by
  intro allocator _ _ ran
  cases ran
  exact ⟨allocator.keeps_bind name value, rfl⟩

theorem quiet_each {render : α → Rendering β} {items : List α}
    (each : ∀ item ∈ items, Quiet (render item)) : Quiet (renderEach render items) := by
  induction items with
  | nil => exact quiet_pure []
  | cons item rest ih =>
    simp only [List.forall_mem_cons] at each
    exact quiet_bind each.1 fun _ => quiet_bind (ih each.2) fun _ => quiet_pure _

theorem Operand.quiet_render (operand : Operand) (property : String) :
    Quiet (operand.render property) := by
  cases operand with
  | value value => exact quiet_bind (quiet_parameter property value) fun _ => quiet_pure _
  | literal text => exact quiet_pure _

theorem Condition.quiet_render (condition : Condition) (subject : Subject String)
    (property : String) : Quiet (condition.render subject property) :=
  quiet_each fun comparison _ =>
    quiet_bind (comparison.2.quiet_render property) fun _ => quiet_pure _

theorem Conditions.quiet_render (conditions : Conditions) (subject : Subject String) :
    Quiet (conditions.render subject) :=
  quiet_bind (quiet_each fun entry _ => entry.2.quiet_render subject entry.1) fun _ => quiet_pure _

theorem Criteria.quiet_render (criteria : Criteria) : Quiet criteria.render :=
  quiet_bind (quiet_each fun entry _ => Conditions.quiet_render entry.2 (.given entry.1))
    fun _ => quiet_pure _

theorem Properties.quiet_render (properties : Properties) (separator : String)
    (owner : Fragment String) : Quiet (properties.render separator owner) :=
  quiet_each fun entry _ => quiet_bind (entry.2.quiet_render entry.1) fun _ => quiet_pure _

theorem Properties.quiet_renderInline (properties : Properties) : Quiet properties.renderInline :=
  quiet_bind (properties.quiet_render ": " []) fun _ => quiet_pure _

theorem Assignment.quiet_render (assignment : Assignment) : Quiet assignment.render :=
  quiet_bind (assignment.properties.quiet_render " = " _) fun _ => quiet_pure _

theorem Unwinding.quiet_render (source : Unwinding) : Quiet source.render := by
  cases source with
  | expression text => exact quiet_pure _
  | values items => exact quiet_bind (quiet_parameter _ _) fun _ => quiet_pure _

/-- A clause without a body that is no pattern clause reserves nothing. -/
theorem Clause.quiet_render {clause : Clause} (plain : clause.body? = none)
    (patternless : ∀ use pattern, clause ≠ .pattern use pattern) (home : AllocatorId) :
    Quiet (clause.render home) := by
  cases clause with
  | pattern use shape => exact absurd rfl (patternless use shape)
  | assign moment assignment =>
    exact quiet_bind (quiet_demand _) fun _ => quiet_bind assignment.quiet_render fun _ => quiet_pure _
  | unwind source newName =>
    exact quiet_bind (quiet_demand _) fun _ => quiet_bind (quiet_demand _) fun _ =>
      quiet_bind source.quiet_render fun _ => quiet_pure _
  | page part count =>
    exact quiet_bind (quiet_demand _) fun _ => quiet_bind (quiet_parameter _ _) fun _ => quiet_pure _
  | sort items =>
    exact quiet_bind (quiet_demand _) fun _ => quiet_bind (quiet_demand _) fun _ => quiet_pure _
  | restrict criteria => exact quiet_bind criteria.quiet_render fun _ => quiet_pure _
  | restrictBound condition => exact quiet_pure _
  | forEach item list body => cases plain
  | call body => cases plain
  | _ => exact quiet_bind (quiet_demand _) fun _ => quiet_pure _

end Cypher
