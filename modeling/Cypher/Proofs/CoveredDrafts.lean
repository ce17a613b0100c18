import Cypher.Proofs.Nesting
import Cypher.Proofs.References
import Mathlib.Data.List.Perm.Basic

/-!
# Drafts refer to what they ask for

A fresh clause has nothing in it that is bound already. Its draft refers to
every parameter that it asks for, and to no other, once each, although the
conditions handed on by patterns are written later than they are asked for.
-/

namespace Cypher

open Asking (Covers covers_pure covers_bind covers_before covers_congr covers_askAll issued)

namespace Fragment

variable {ρ σ : Type}

@[simp] theorem parameters_nil : parameters ([] : Fragment ρ) = [] := by
  rw [parameters]

@[simp] theorem parameters_cons (piece : Piece ρ) (rest : Fragment ρ) :
    parameters (piece :: rest) = pieceParameters piece ++ parameters rest := by
  rw [parameters]

attribute [simp] pieceParameters

@[simp] theorem parameters_append (first second : Fragment ρ) :
    parameters (first ++ second) = parameters first ++ parameters second := by
  induction first with
  | nil => simp
  | cons piece rest ih => simp [ih]

theorem parameters_joinedBy (separator : String) (fragments : List (Fragment ρ)) :
    parameters (joinedBy separator fragments) = fragments.flatMap parameters := by
  fun_induction joinedBy separator fragments with
  | case1 => simp
  | case2 => simp
  | case3 fragment next rest ih => simp [ih]

@[simp] theorem parameters_names (separator : String) (given : List String) :
    parameters (names separator given : Fragment ρ) = [] := by
  rw [names, parameters_joinedBy]
  simp

theorem parameters_braced (entries : List (Fragment ρ)) :
    parameters (braced entries) = entries.flatMap parameters := by
  cases entries with
  | nil => simp [braced]
  | cons entry rest => simp [braced, parameters_joinedBy]

theorem parameters_flatten (fragments : List (Fragment ρ)) :
    parameters fragments.flatten = fragments.flatMap parameters := by
  induction fragments with
  | nil => simp
  | cons fragment rest ih => simp [ih]

theorem allParameters_eq (fragments : List (Fragment ρ)) :
    allParameters fragments = fragments.flatMap parameters := by
  induction fragments with
  | nil => simp [allParameters]
  | cons fragment rest ih => simp [allParameters, ih]

mutual

theorem pieceParameters_map (f : ρ → σ) (piece : Piece ρ) :
    pieceParameters (mapPiece f piece) = (pieceParameters piece).map f := by
  cases piece with
  | body fragments => simpa [mapPiece] using allParameters_map f fragments
  | _ => simp [mapPiece]

theorem parameters_map (f : ρ → σ) (fragment : List (Piece ρ)) :
    parameters (map f fragment) = (parameters fragment).map f := by
  cases fragment with
  | nil => simp [map]
  | cons piece rest => simp [map, pieceParameters_map f piece, parameters_map f rest]

theorem allParameters_map (f : ρ → σ) (fragments : List (List (Piece ρ))) :
    allParameters (mapAll f fragments) = (allParameters fragments).map f := by
  cases fragments with
  | nil => simp [mapAll, allParameters]
  | cons fragment rest =>
    simp [mapAll, allParameters, parameters_map f fragment, allParameters_map f rest]

end

end Fragment

open Fragment (parameters pieceParameters)

/-! ## Conditions and properties -/

section Texts

variable {ρ : Type}

@[simp] theorem Subject.parameters_piece (subject : Subject ρ) :
    pieceParameters subject.piece = [] := by
  cases subject <;> simp [Subject.piece]

/-- The parameter of a comparison, if it has one. -/
def Comparison.parameters (comparison : Comparison ρ) : List ρ :=
  pieceParameters comparison.operand.piece

theorem Where.parameters_eq (condition : Where ρ) :
    condition.parameters = condition.comparisons.flatMap Comparison.parameters := by
  rw [Where.parameters, List.filterMap_eq_flatMap_toList]
  congr
  funext comparison
  cases operand : comparison.operand <;> simp [Comparison.parameters, operand, BoundOperand.piece]

theorem Comparison.parameters_fragment (comparison : Comparison ρ) :
    Fragment.parameters comparison.fragment = comparison.parameters := by
  rw [Comparison.fragment]
  split <;> simp [Comparison.parameters]

theorem Where.parameters_expression (condition : Where ρ) :
    Fragment.parameters condition.expression = condition.parameters := by
  rw [Where.expression, Fragment.parameters_joinedBy, Where.parameters_eq, List.flatMap_map]
  simp [Comparison.parameters_fragment]

theorem Where.parameters_inline (condition : Where ρ) :
    Fragment.parameters condition.inline = condition.parameters := by
  have entry (comparison : Comparison ρ) :
      Fragment.parameters comparison.entry = comparison.parameters := by
    simp [Comparison.entry, Comparison.parameters]
  rw [Where.inline, Fragment.parameters_braced, Where.parameters_eq, List.flatMap_map]
  simp [entry]

theorem Where.parameters_flatten (parts : List (List (Comparison ρ))) :
    (⟨parts.flatten⟩ : Where ρ).parameters =
      parts.flatMap fun part => (⟨part⟩ : Where ρ).parameters := by
  simp only [Where.parameters_eq]
  induction parts with
  | nil => rfl
  | cons part rest ih => simp [ih]

@[simp] theorem Where.parameters_empty : (Where.empty : Where ρ).parameters = [] := rfl

end Texts

theorem covers_ask_parameter (name : String) (value : Value) :
    Covers [] (fun ref => [ref]) (ask (.parameter name value)) :=
  fun _ => ⟨[.parameter name value], rfl, .rfl⟩

theorem covers_ask_identifier (before : List Ref) (name : String) :
    Covers before (fun _ => before) (ask (.identifier name)) :=
  fun _ => ⟨[.identifier name], rfl, by rw [issued, issued, List.append_nil]⟩

theorem Operand.covers_ask (operand : Operand) (property : String) :
    Covers [] (fun bound => pieceParameters bound.piece) (operand.ask property) := by
  cases operand with
  | value bound =>
    refine covers_bind (covers_ask_parameter property bound) fun ref => covers_pure ?_
    simp [BoundOperand.piece]
  | literal text => exact covers_pure (by simp [BoundOperand.piece])

theorem Condition.covers_ask (condition : Condition) (subject : Subject Ref) (property : String) :
    Covers [] (fun comparisons => (⟨comparisons⟩ : Where Ref).parameters)
      (condition.ask subject property) := by
  have each : Covers [] (fun comparisons => comparisons.flatMap Comparison.parameters)
      (condition.ask subject property) := by
    refine covers_askAll fun comparison _ => ?_
    exact covers_bind (Operand.covers_ask comparison.2 property) fun operand => covers_pure .rfl
  exact covers_congr each fun comparisons => by rw [Where.parameters_eq]

theorem Conditions.covers_ask (conditions : Conditions) (subject : Subject Ref) :
    Covers [] Where.parameters (conditions.ask subject) := by
  refine covers_bind (covers_askAll fun entry _ => Condition.covers_ask entry.2 subject entry.1)
    fun parts => covers_pure ?_
  rw [Where.parameters_flatten]

theorem Criteria.covers_ask (criteria : Criteria) : Covers [] Where.parameters criteria.ask := by
  refine covers_bind (covers_askAll fun entry _ => Conditions.covers_ask entry.2 (.given entry.1))
    fun parts => covers_pure ?_
  rw [Where.parameters_flatten, List.flatMap_map]

theorem Properties.covers_ask (properties : Properties) (separator : String)
    {owner : Fragment Ref} (calm : parameters owner = []) :
    Covers [] (fun parts => parts.flatMap parameters) (properties.ask separator owner) := by
  refine covers_askAll fun entry _ => ?_
  refine covers_bind (Operand.covers_ask entry.2 entry.1) fun operand => covers_pure ?_
  simp [calm]

theorem Properties.covers_askInline (properties : Properties) :
    Covers [] parameters properties.askInline := by
  refine covers_bind (Properties.covers_ask properties ": " Fragment.parameters_nil)
    fun parts => covers_pure ?_
  rw [Fragment.parameters_braced]

/-! ## Patterns -/

/-- All parameters of a filter. -/
def FilterText.parameters (filter : FilterText Ref) : List Ref :=
  Fragment.parameters filter.inside ++ filter.hoisted.parameters

/-- All parameters of a pattern. -/
def PatternText.parameters (pattern : PatternText Ref) : List Ref :=
  Fragment.parameters pattern.text ++ pattern.hoisted.parameters

theorem covers_askSubject (before : List Ref) (stem : String) (subject : Option (Subject Ref)) :
    Covers before (fun _ => before) (askSubject stem subject) := by
  cases subject with
  | none => exact covers_bind (covers_ask_identifier before stem) fun ref => covers_pure .rfl
  | some subject => exact covers_pure .rfl

theorem Filter.covers_ask (filter : Filter) (stem : String) (identifier : Option String) :
    Covers [] FilterText.parameters (filter.ask stem identifier) := by
  cases filter with
  | nothing => exact covers_pure (by simp [FilterText.parameters])
  | properties values =>
    refine covers_bind (Properties.covers_askInline values) fun inside => covers_pure ?_
    simp [FilterText.parameters]
  | conditions required =>
    -- what is inside is asked for first, and what is handed on is asked for behind it
    refine covers_bind (Conditions.covers_ask required.inlineHalf _) fun inside => ?_
    split
    · refine covers_pure ?_
      simp [FilterText.parameters, Where.parameters_inline]
    · refine covers_bind (covers_askSubject _ stem _) fun subject => ?_
      refine covers_bind (covers_before (Conditions.covers_ask required.hoistedHalf subject))
        fun hoisted => covers_pure ?_
      simp [FilterText.parameters, Where.parameters_inline]

@[simp] theorem Label.parameters_fragment {ρ : Type} (label : Label) :
    parameters (label.fragment : Fragment ρ) = [] := by
  cases label <;> simp [Label.fragment]

@[simp] theorem parameters_labelPart {ρ : Type} (label : Option Label) :
    parameters (labelPart label : Fragment ρ) = [] := by
  cases label with
  | none => simp [labelPart]
  | some label =>
    rw [labelPart]
    split <;> simp

@[simp] theorem parameters_typePart {ρ : Type} (types : List String) :
    parameters (typePart types : Fragment ρ) = [] := by
  cases types <;> simp [typePart]

@[simp] theorem Hops.parameters_fragment {ρ : Type} (hops : Hops) :
    parameters (hops.fragment : Fragment ρ) = [] := by
  rw [Hops.fragment]
  split <;> simp

@[simp] theorem parameters_subjectPart {ρ : Type} (subject : Option (Subject ρ)) :
    parameters (subjectPart subject) = [] := by
  cases subject <;> simp [subjectPart]

@[simp] theorem parameters_headAndInside {ρ : Type} (head inside : Fragment ρ) :
    parameters (headAndInside head inside) = parameters head ++ parameters inside := by
  rw [headAndInside]
  split
  · next empty => simp [List.isEmpty_iff.mp empty]
  · split
    · next empty => simp [List.isEmpty_iff.mp empty]
    · simp

theorem Node.covers_ask (node : Node) : Covers [] PatternText.parameters node.ask := by
  cases node with
  | raw text => exact covers_pure (by simp [PatternText.parameters])
  | pattern shape =>
    refine covers_bind (Filter.covers_ask shape.filter _ _) fun filter => covers_pure ?_
    simp [PatternText.parameters, FilterText.parameters]

theorem Relationship.covers_ask (relationship : Relationship) :
    Covers [] PatternText.parameters relationship.ask := by
  cases relationship with
  | raw text => exact covers_pure (by simp [PatternText.parameters])
  | pattern shape =>
    refine covers_bind (Filter.covers_ask shape.filter _ _) fun filter => covers_pure ?_
    cases shape.direction <;> simp [PatternText.parameters, FilterText.parameters, Direction.around]

theorem PathElement.covers_ask (element : PathElement) :
    Covers [] PatternText.parameters element.ask := by
  cases element with
  | node element => exact element.covers_ask
  | relationship element => exact element.covers_ask

/-- Patterns put together are written before all that they hand on. -/
theorem PatternText.parameters_together {join : List (Fragment Ref) → Fragment Ref}
    (joined : ∀ fragments,
      Fragment.parameters (join fragments) = fragments.flatMap Fragment.parameters)
    (parts : List (PatternText Ref)) :
    ((PatternText.together join parts).parameters).Perm
      (parts.flatMap PatternText.parameters) := by
  rw [PatternText.parameters, PatternText.together, joined, Where.parameters_flatten,
    List.flatMap_map, List.flatMap_map]
  exact List.flatMap_append_perm parts _ _

theorem Pattern.covers_ask (pattern : Pattern) : Covers [] PatternText.parameters pattern.ask := by
  cases pattern with
  | node single => exact single.covers_ask
  | nodes siblings =>
    refine covers_bind (covers_askAll fun node _ => node.covers_ask) fun parts => covers_pure ?_
    exact PatternText.parameters_together (Fragment.parameters_joinedBy ", ") parts
  | path elements =>
    refine covers_bind (covers_askAll fun element _ => element.covers_ask)
      fun parts => covers_pure ?_
    exact PatternText.parameters_together Fragment.parameters_flatten parts

/-! ## Clauses -/

/-- Nothing in the clause, at any depth, is bound or written already. -/
inductive Clause.Fresh : Clause → Prop
  | plain {clause : Clause} : clause.body? = none →
      (∀ condition, clause ≠ .restrictBound condition) → Fresh clause
  | nested {clause : Clause} {body : Body Clause} : clause.body? = some body →
      body.written = [] → (∀ inner ∈ body.pending, Fresh inner) → Fresh clause

theorem Clause.Fresh.inside {clause : Clause} {body : Body Clause} (fresh : clause.Fresh)
    (nested : clause.body? = some body) :
    body.written = [] ∧ ∀ inner ∈ body.pending, inner.Fresh := by
  cases fresh with
  | plain noBody => simp [nested] at noBody
  | nested nested' unwritten clauses =>
    obtain rfl := Option.some.inj (nested.symm.trans nested')
    exact ⟨unwritten, clauses⟩

@[simp] theorem Keyword.parameters_before {ρ : Type} (keyword : Keyword) (rest : Fragment ρ) :
    parameters (keyword.before rest) = parameters rest := by
  simp [Keyword.before]

theorem Where.parameters_of_isEmpty {ρ : Type} {condition : Where ρ}
    (empty : condition.isEmpty = true) : condition.parameters = [] := by
  rw [Where.isEmpty, List.isEmpty_iff] at empty
  simp [Where.parameters, empty]

@[simp] theorem parameters_hoistedPart {ρ : Type} (hoisted : Where ρ) :
    parameters (hoistedPart hoisted) = hoisted.parameters := by
  rw [hoistedPart]
  split
  · next empty => simp [Where.parameters_of_isEmpty empty]
  · simp [Where.parameters_expression]

@[simp] theorem Where.parameters_clause {ρ : Type} (condition : Where ρ) :
    Fragment.parameters condition.clause = condition.parameters := by
  rw [Where.clause]
  split
  · next empty => simp [Where.parameters_of_isEmpty empty]
  · simp [Where.parameters_expression]

@[simp] theorem parameters_propertyAccess {ρ : Type} (identifier : String)
    (property : Option String) : parameters (propertyAccess identifier property : Fragment ρ) = [] := by
  cases property <;> simp [propertyAccess]

@[simp] theorem Removal.parameters_fragment {ρ : Type} (removal : Removal) :
    parameters (removal.fragment : Fragment ρ) = [] := by
  cases removal <;> simp [Removal.fragment, Fragment.parameters_joinedBy]

@[simp] theorem Deletion.parameters_fragment {ρ : Type} (deletion : Deletion) :
    parameters (deletion.fragment : Fragment ρ) = [] := by
  cases deletion <;> simp [Deletion.fragment]

@[simp] theorem ProjectionItem.parameters_fragment {ρ : Type} (item : ProjectionItem) :
    parameters (item.fragment : Fragment ρ) = [] := by
  rw [ProjectionItem.fragment]
  split <;> simp

@[simp] theorem Projection.parameters_fragment {ρ : Type} (projection : Projection) :
    parameters (projection.fragment : Fragment ρ) = [] := by
  cases projection <;> simp [Projection.fragment, Fragment.parameters_joinedBy]

@[simp] theorem SortItem.parameters_fragment {ρ : Type} (item : SortItem) :
    parameters (item.fragment : Fragment ρ) = [] := by
  rw [SortItem.fragment]
  split <;> simp

theorem Assignment.covers_ask (assignment : Assignment) :
    Covers [] parameters assignment.ask := by
  refine covers_bind (Properties.covers_ask _ " = " (by simp)) fun parts => covers_pure ?_
  rw [Fragment.parameters_joinedBy]

theorem Unwinding.covers_ask (source : Unwinding) : Covers [] pieceParameters source.ask := by
  cases source with
  | expression text => exact covers_pure (by simp)
  | values items =>
    refine covers_bind (covers_ask_parameter _ _) fun ref => covers_pure ?_
    simp

theorem Clause.covers_ask_of_plain {clause : Clause} (plain : clause.body? = none)
    (unbound : ∀ condition, clause ≠ .restrictBound condition) :
    Covers [] parameters clause.ask := by
  cases clause with
  | pattern use shape =>
    refine covers_bind shape.covers_ask fun drafted => covers_pure ?_
    simp [PatternText.parameters]
  | assign moment assignment =>
    refine covers_bind assignment.covers_ask fun parts => covers_pure ?_
    simp
  | delete detach deletion =>
    rw [Clause.ask]
    refine covers_pure ?_
    split <;> simp
  | unwind source newName =>
    refine covers_bind source.covers_ask fun list => covers_pure ?_
    simp
  | page part count =>
    refine covers_bind (covers_ask_parameter _ _) fun ref => covers_pure ?_
    simp
  | restrict criteria =>
    refine covers_bind criteria.covers_ask fun condition => covers_pure ?_
    simp
  -- what it refers to was not asked for by the clause
  | restrictBound condition => exact absurd rfl (unbound condition)
  | sort items => exact covers_pure (by simp [Fragment.parameters_joinedBy])
  | forEach item list body => cases plain
  | call body => cases plain
  | _ => exact covers_pure (by simp)

theorem Clause.covers_askBody {body : Body Clause} (unwritten : body.written = [])
    (each : ∀ inner ∈ body.pending, Covers [] parameters inner.ask) :
    Covers [] pieceParameters (Clause.askBody body) := by
  obtain ⟨written, pending, allocator⟩ := body
  obtain rfl : written = [] := unwritten
  have all := covers_askAll each
  rw [← Clause.askAll_eq] at all
  rw [Clause.askBody]
  refine covers_bind all fun drafted => covers_pure ?_
  simp [Fragment.allParameters_eq]

/-- Fresh clauses refer to what they ask for. -/
theorem Clause.covers_ask {clause : Clause} (fresh : clause.Fresh) :
    Covers [] parameters clause.ask := by
  induction clause using Clause.induction with
  | plain clause noBody =>
    cases fresh with
    | plain _ unbound => exact Clause.covers_ask_of_plain noBody unbound
    | nested nested => simp [nested] at noBody
  | nested clause body nested ih =>
    obtain ⟨unwritten, clauses⟩ := fresh.inside nested
    have inside : Covers [] pieceParameters (Clause.askBody body) :=
      Clause.covers_askBody unwritten fun inner member =>
        ih inner (List.mem_append_right _ member) (clauses inner member)
    cases clause with
    | forEach item list loop =>
      obtain rfl := Option.some.inj nested
      refine covers_bind inside fun inner => covers_pure ?_
      simp
    | call called =>
      obtain rfl := Option.some.inj nested
      refine covers_bind inside fun inner => covers_pure ?_
      simp
    | _ => cases nested

end Cypher
