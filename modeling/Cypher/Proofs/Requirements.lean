import Cypher.Proofs.Backing
import Cypher.Proofs.RawTexts

/-!
# What is required of properties

Conditions, and the values of properties, are comparisons that properties have
to pass. They are split into two halves, and the halves are bound one after the
other; what comes out of it can be read back through the allocator, and is what
went in.
-/

namespace Cypher

open List (Forall₂)

variable {α β γ : Type}

/-! ## What is required -/

/-- A comparison that a property has to pass. -/
structure Requirement where
  property : String
  operator : Operator
  operand : Operand

def Condition.requirements (property : String) (condition : Condition) : List Requirement :=
  condition.comparisons.map fun comparison => ⟨property, comparison.1, comparison.2⟩

def Conditions.requirements (conditions : Conditions) : List Requirement :=
  conditions.entries.flatMap fun entry => entry.2.requirements entry.1

/-- Values of properties are required to be equal. -/
def Properties.requirements (properties : Properties) : List Requirement :=
  properties.entries.map fun entry => ⟨entry.1, .eq, entry.2⟩

def Filter.requirements : Filter → List Requirement
  | nothing => []
  | properties values => values.requirements
  | conditions required => required.requirements

/-! ## The two halves -/

/-- Nothing is lost when the first equality is taken out, and nothing is there twice. -/
theorem firstEquality?_perm (comparisons : List (Operator × Operand)) :
    ((firstEquality? comparisons).toList.map (fun operand => (Operator.eq, operand)) ++
      dropFirstEquality comparisons).Perm comparisons := by
  induction comparisons with
  | nil => exact .nil
  | cons comparison rest ih =>
    obtain ⟨operator, operand⟩ := comparison
    rw [firstEquality?, dropFirstEquality]
    split
    · next equality =>
      obtain rfl : operator = .eq := by simpa [Operator.isEq] using equality
      exact .rfl
    · exact List.perm_middle.trans (ih.cons _)

theorem OrderedMap.flatMap_filterMap {α β γ : Type} (select : α → Option β) (map : OrderedMap α)
    (write : String × β → List γ) :
    (map.filterMap select).entries.flatMap write =
      map.entries.flatMap fun entry => (select entry.2).toList.flatMap fun value =>
        write (entry.1, value) := by
  show (List.filterMap _ map.entries).flatMap write = _
  rw [List.filterMap_eq_flatMap_toList, List.flatMap_assoc]
  refine List.flatMap_congr fun entry _ => ?_
  cases select entry.2 <;> rfl

theorem Conditions.requirements_inlineHalf (conditions : Conditions) :
    conditions.inlineHalf.requirements = conditions.entries.flatMap fun entry =>
      (firstEquality? entry.2.comparisons).toList.map fun operand => ⟨entry.1, .eq, operand⟩ := by
  rw [inlineHalf, requirements, OrderedMap.flatMap_filterMap]
  refine List.flatMap_congr fun entry _ => ?_
  cases firstEquality? entry.2.comparisons <;> rfl

theorem Conditions.requirements_hoistedHalf (conditions : Conditions) :
    conditions.hoistedHalf.requirements = conditions.entries.flatMap fun entry =>
      (dropFirstEquality entry.2.comparisons).map fun comparison =>
        ⟨entry.1, comparison.1, comparison.2⟩ := by
  rw [hoistedHalf, requirements, OrderedMap.flatMap_filterMap]
  refine List.flatMap_congr fun entry _ => ?_
  cases dropFirstEquality entry.2.comparisons with
  | nil => rfl
  | cons comparison more => exact List.append_nil _

/-- Each of the properties that are handed on has a comparison. -/
theorem Conditions.isEmpty_hoistedHalf {conditions : Conditions}
    (nothing : conditions.hoistedHalf.requirements = []) :
    conditions.hoistedHalf.isEmpty = true := by
  refine List.isEmpty_iff.mpr (List.eq_nil_iff_forall_not_mem.mpr fun entry member => ?_)
  have none := List.flatMap_eq_nil_iff.mp nothing entry member
  obtain ⟨whole, _, selected⟩ := OrderedMap.mem_filterMap member
  cases rest : dropFirstEquality whole.comparisons with
  | nil =>
    rw [rest] at selected
    cases selected
  | cons comparison more =>
    rw [rest] at selected
    rw [← Option.some.inj selected] at none
    cases none

/-- The half that is written inside is one equality for each of its properties. -/
theorem Conditions.equalities_inlineHalf (conditions : Conditions) :
    conditions.inlineHalf.requirements.map (fun one => (one.property, one.operator)) =
      conditions.inlineHalf.names.map fun name => (name, .eq) := by
  rw [requirements_inlineHalf, List.map_flatMap, OrderedMap.names, List.map_map, inlineHalf,
    List.map_eq_flatMap, OrderedMap.flatMap_filterMap]
  refine List.flatMap_congr fun entry _ => ?_
  cases firstEquality? entry.2.comparisons <;> rfl

/-- The two halves require what the whole does. -/
theorem Conditions.requirements_halves (conditions : Conditions) :
    (conditions.inlineHalf.requirements ++ conditions.hoistedHalf.requirements).Perm
      conditions.requirements := by
  rw [requirements_inlineHalf, requirements_hoistedHalf]
  refine (List.flatMap_append_perm _ _ _).trans (List.Perm.flatMap_left _ fun entry _ => ?_)
  have halves := (firstEquality?_perm entry.2.comparisons).map fun comparison =>
    (⟨entry.1, comparison.1, comparison.2⟩ : Requirement)
  rw [List.map_append, List.map_map] at halves
  exact halves

/-! ## Comparisons that are read back -/

namespace Allocator

/-- The operand that was bound, if its parameter is there. -/
def operand? (allocator : Allocator) : BoundOperand String → Option Operand
  | .parameter name => (allocator.parameters.get? name).map .value
  | .literal text => some (.literal text)

/-- What a comparison requires of its property. -/
def requirement? (allocator : Allocator) (comparison : Comparison String) : Option Requirement :=
  (allocator.operand? comparison.operand).map fun operand =>
    ⟨comparison.property, comparison.operator, operand⟩

end Allocator

/-- The comparison is about that identifier and requires that. -/
def Comparison.Answers (allocator : Allocator) (subject : Subject String)
    (requirement : Requirement) (comparison : Comparison String) : Prop :=
  comparison.subject = subject ∧ allocator.requirement? comparison = some requirement

theorem Allocator.Keeps.operand? {before after : Allocator} (keeps : before.Keeps after)
    {bound : BoundOperand String} {operand : Operand}
    (found : before.operand? bound = some operand) : after.operand? bound = some operand := by
  cases bound with
  | literal text => exact found
  | parameter name =>
    obtain ⟨value, held, rfl⟩ := Option.map_eq_some_iff.mp found
    exact Option.map_eq_some_iff.mpr ⟨value, keeps name value held, rfl⟩

theorem Allocator.Keeps.requirement? {before after : Allocator} (keeps : before.Keeps after)
    {comparison : Comparison String} {requirement : Requirement}
    (found : before.requirement? comparison = some requirement) :
    after.requirement? comparison = some requirement := by
  obtain ⟨operand, bound, rfl⟩ := Option.map_eq_some_iff.mp found
  exact Option.map_eq_some_iff.mpr ⟨operand, keeps.operand? bound, rfl⟩

theorem Comparison.Answers.keeps {before after : Allocator} {subject : Subject String}
    {requirement : Requirement} {comparison : Comparison String}
    (answers : comparison.Answers before subject requirement) (keeps : before.Keeps after) :
    comparison.Answers after subject requirement :=
  ⟨answers.1, keeps.requirement? answers.2⟩

section Answers

variable {allocator after : Allocator} {subject : Subject String} {requirements : List Requirement}
  {comparisons : List (Comparison String)}

theorem answers_keeps
    (answers : Forall₂ (Comparison.Answers allocator subject) requirements comparisons)
    (keeps : allocator.Keeps after) :
    Forall₂ (Comparison.Answers after subject) requirements comparisons :=
  answers.imp fun _ _ answer => answer.keeps keeps

theorem map_requirement?_of_answers
    (answers : Forall₂ (Comparison.Answers allocator subject) requirements comparisons) :
    comparisons.map allocator.requirement? = requirements.map some := by
  induction answers with
  | nil => rfl
  | cons answer _ ih => rw [List.map_cons, List.map_cons, answer.2, ih]

/-- Each property is compared as it is required. -/
theorem map_operator_of_answers
    (answers : Forall₂ (Comparison.Answers allocator subject) requirements comparisons) :
    comparisons.map (fun one => (one.property, one.operator)) =
      requirements.map fun one => (one.property, one.operator) := by
  induction answers with
  | nil => rfl
  | cons answer _ ih =>
    obtain ⟨operand, _, read⟩ := Option.map_eq_some_iff.mp answer.2
    rw [List.map_cons, List.map_cons, ih, ← read]

/-- Equalities on different properties are still that when they are bound. -/
theorem equalities_of_answers
    (answers : Forall₂ (Comparison.Answers allocator subject) requirements comparisons)
    {names : List String} (distinct : names.Nodup)
    (equalities : requirements.map (fun one => (one.property, one.operator)) =
      names.map fun name => (name, .eq)) :
    (∀ comparison ∈ comparisons, comparison.operator = .eq) ∧
      (comparisons.map Comparison.property).Nodup := by
  have same : comparisons.map (fun one => (one.property, one.operator)) =
      names.map fun name => (name, .eq) :=
    (map_operator_of_answers answers).trans equalities
  constructor
  · intro comparison member
    have among := List.mem_map_of_mem (f := fun one : Comparison String =>
      (one.property, one.operator)) member
    rw [same] at among
    obtain ⟨name, _, pair⟩ := List.mem_map.mp among
    exact (congrArg Prod.snd pair).symm
  · have properties := congrArg (List.map Prod.fst) same
    rw [List.map_map, List.map_map] at properties
    have written : comparisons.map Comparison.property = names := properties.trans (List.map_id _)
    rwa [written]

theorem subject_of_answers
    (answers : Forall₂ (Comparison.Answers allocator subject) requirements comparisons) :
    ∀ comparison ∈ comparisons, comparison.subject = subject := by
  induction answers with
  | nil => exact nofun
  | cons answer _ ih => exact List.forall_mem_cons.mpr ⟨answer.1, ih⟩

end Answers

/-- Results that are made of something, one by one. -/
theorem exists_map_of_forall₂ {told : α → γ → Prop} {make : γ → β} {items : List α}
    {results : List β}
    (each : Forall₂ (fun item result => ∃ part, result = make part ∧ told item part) items results) :
    ∃ parts, results = parts.map make ∧ Forall₂ told items parts := by
  induction each with
  | nil => exact ⟨[], rfl, .nil⟩
  | cons first _ ih =>
    obtain ⟨part, rfl, holds⟩ := first
    obtain ⟨parts, rfl, all⟩ := ih
    exact ⟨part :: parts, rfl, .cons holds all⟩

section Rendered

variable {start : Allocator}

theorem Operand.ensures_operand? (operand : Operand) (property : String) :
    Ensures start (fun after bound => after.operand? bound = some operand)
      (operand.render property) := by
  cases operand with
  | literal text => exact ensures_pure fun _ _ => rfl
  | value value =>
    refine ensures_bind (ensures_parameter property value) fun _ name _ backs => ?_
    refine ensures_pure fun later keeps => Option.map_eq_some_iff.mpr ⟨value, ?_, rfl⟩
    cases backs with
    | cons held _ => exact keeps name value held

theorem Condition.ensures_answers (condition : Condition) (subject : Subject String)
    (property : String) :
    Ensures start (fun after comparisons => Forall₂ (Comparison.Answers after subject)
      (condition.requirements property) comparisons) (condition.render subject property) := by
  simp only [Condition.requirements, List.forall₂_map_left_iff]
  refine ensures_each (fun _ _ _ _ keeps answers => answers.keeps keeps) fun comparison _ start => ?_
  refine ensures_bind (comparison.2.ensures_operand? property) fun _ bound _ found => ?_
  exact ensures_pure fun later keeps =>
    ⟨rfl, Option.map_eq_some_iff.mpr ⟨_, keeps.operand? found, rfl⟩⟩

theorem Conditions.ensures_answers (conditions : Conditions) (subject : Subject String) :
    Ensures start (fun after bound => Forall₂ (Comparison.Answers after subject)
      conditions.requirements bound.comparisons) (conditions.render subject) := by
  have stays (first later : Allocator) (entry : String × Condition)
      (part : List (Comparison String)) (keeps : first.Keeps later)
      (answers : Forall₂ (Comparison.Answers first subject) (entry.2.requirements entry.1) part) :
      Forall₂ (Comparison.Answers later subject) (entry.2.requirements entry.1) part :=
    answers_keeps answers keeps
  refine ensures_bind (ensures_each stays fun entry _ start =>
    entry.2.ensures_answers subject entry.1) fun _ parts _ each => ?_
  refine ensures_pure fun later keeps => ?_
  rw [requirements, List.flatMap_def]
  exact answers_keeps (List.rel_flatten (List.forall₂_map_left_iff.mpr each)) keeps

/-- Property values are written like equalities. -/
theorem Properties.ensures_answers (properties : Properties) (subject : Subject String) :
    Ensures start (fun after inside => ∃ bound : Where String, inside = bound.inline ∧
      Forall₂ (Comparison.Answers after subject) properties.requirements bound.comparisons)
      properties.renderInline := by
  have stays (first later : Allocator) (entry : String × Operand) (part : Fragment String)
      (keeps : first.Keeps later)
      (written : ∃ comparison : Comparison String, part = comparison.entry ∧
        comparison.Answers first subject ⟨entry.1, .eq, entry.2⟩) :
      ∃ comparison : Comparison String, part = comparison.entry ∧
        comparison.Answers later subject ⟨entry.1, .eq, entry.2⟩ := by
    obtain ⟨comparison, same, answers⟩ := written
    exact ⟨comparison, same, answers.keeps keeps⟩
  refine ensures_bind (ensures_each stays fun entry _ start => ?_) fun _ parts _ each => ?_
  · refine ensures_bind (entry.2.ensures_operand? entry.1) fun _ bound _ found => ?_
    refine ensures_pure fun later keeps => ⟨⟨subject, entry.1, .eq, bound⟩, rfl, rfl, ?_⟩
    exact Option.map_eq_some_iff.mpr ⟨_, keeps.operand? found, rfl⟩
  · obtain ⟨comparisons, rfl, answers⟩ := exists_map_of_forall₂ each
    refine ensures_pure fun later keeps => ⟨⟨comparisons⟩, rfl, ?_⟩
    exact answers_keeps (List.forall₂_map_left_iff.mpr answers) keeps

end Rendered

end Cypher
