import Cypher.Proofs.Asking
import Cypher.Query

/-!
# Alike clauses

Two clauses are alike when they have the same shape and differ only where a
`Likeness` lets them: in their names, in the values that they bind, in counts,
and in what is written already. The same goes for fragments.
-/

namespace Cypher

/-- How two queries of one shape may differ. Names that no caller gives are the same in both, and
what is asked for in turn stays related. -/
structure Likeness where
  name : String → String → Prop
  value : Value → Value → Prop
  count : Nat → Nat → Prop
  home : AllocatorId → AllocatorId → Prop
  /-- Clauses with the fragments that they were written as. -/
  cached : Clause × Fragment String → Clause × Fragment String → Prop
  /-- What the two have asked for so far. -/
  before : List Request → List Request → Prop
  /-- Requests of the two that stand for each other. -/
  answer : Nat → Nat → Prop
  same : ∀ given, name given given
  page : ∀ {count' count'' : Nat}, count count' count'' →
    value (.int (Int64.ofNat count')) (.int (Int64.ofNat count''))
  parameter : ∀ {asked asked' : List Request} {wanted wanted' : String} {bound bound' : Value},
    before asked asked' → name wanted wanted' → value bound bound' →
      answer asked.length asked'.length ∧
        before (asked ++ [.parameter wanted bound]) (asked' ++ [.parameter wanted' bound'])
  identifier : ∀ {asked asked' : List Request} (stem : String), before asked asked' →
    answer asked.length asked'.length ∧
      before (asked ++ [.identifier stem]) (asked' ++ [.identifier stem])

/-! ## Fragments -/

section Fragments

variable {ρ σ : Type}

/-- The same text, but for names and references. -/
inductive Piece.Alike (name : String → String → Prop) (ref : ρ → σ → Prop) :
    Piece ρ → Piece σ → Prop
  | fixed (text : String) : Alike name ref (.fixed text) (.fixed text)
  | raw (text : String) : Alike name ref (.raw text) (.raw text)
  | name {given given' : String} : name given given' → Alike name ref (.name given) (.name given')
  | identifier {answer : ρ} {answer' : σ} : ref answer answer' →
      Alike name ref (.identifier answer) (.identifier answer')
  | parameter {answer : ρ} {answer' : σ} : ref answer answer' →
      Alike name ref (.parameter answer) (.parameter answer')
  | body {fragments : List (List (Piece ρ))} {fragments' : List (List (Piece σ))} :
      List.Forall₂ (List.Forall₂ (Alike name ref)) fragments fragments' →
      Alike name ref (.body fragments) (.body fragments')

/-- Fragments that are alike piece by piece. -/
abbrev Fragment.Alike (name : String → String → Prop) (ref : ρ → σ → Prop) :
    Fragment ρ → Fragment σ → Prop :=
  List.Forall₂ (Piece.Alike name ref)

/-- Answers to requests that stand for each other, or names granted before that are alike. -/
inductive Ref.Alike (like : Likeness) : Ref → Ref → Prop
  | granted {given given' : String} : like.name given given' →
      Alike like (.granted given) (.granted given')
  | asked {request request' : Nat} : like.answer request request' →
      Alike like (.asked request) (.asked request')

inductive Subject.Alike (name : String → String → Prop) (ref : ρ → σ → Prop) :
    Subject ρ → Subject σ → Prop
  | given {given given' : String} : name given given' → Alike name ref (.given given) (.given given')
  | synthesized {answer : ρ} {answer' : σ} : ref answer answer' →
      Alike name ref (.synthesized answer) (.synthesized answer')

inductive BoundOperand.Alike (ref : ρ → σ → Prop) : BoundOperand ρ → BoundOperand σ → Prop
  | parameter {answer : ρ} {answer' : σ} : ref answer answer' →
      Alike ref (.parameter answer) (.parameter answer')
  | literal (text : String) : Alike ref (.literal text) (.literal text)

structure Comparison.Alike (name : String → String → Prop) (ref : ρ → σ → Prop)
    (first : Comparison ρ) (second : Comparison σ) : Prop where
  subject : first.subject.Alike name ref second.subject
  property : name first.property second.property
  operator : first.operator = second.operator
  operand : first.operand.Alike ref second.operand

def Where.Alike (name : String → String → Prop) (ref : ρ → σ → Prop) (first : Where ρ)
    (second : Where σ) : Prop :=
  List.Forall₂ (Comparison.Alike name ref) first.comparisons second.comparisons

end Fragments

/-! ## Clauses -/

/-- The same number of entries, alike one by one. -/
def OrderedMap.Alike {α β : Type} (name : String → String → Prop) (value : α → β → Prop)
    (first : OrderedMap α) (second : OrderedMap β) : Prop :=
  List.Forall₂ (fun entry entry' => name entry.1 entry'.1 ∧ value entry.2 entry'.2)
    first.entries second.entries

variable (like : Likeness)

inductive Operand.Alike : Operand → Operand → Prop
  | value {bound bound' : Value} : like.value bound bound' → Alike (.value bound) (.value bound')
  | literal (text : String) : Alike (.literal text) (.literal text)

def Properties.Alike (first second : Properties) : Prop :=
  OrderedMap.Alike like.name (Operand.Alike like) first second

/-- The same operators with alike operands. -/
def Comparisons.Alike (first second : List (Operator × Operand)) : Prop :=
  List.Forall₂ (fun comparison comparison' =>
    comparison.1 = comparison'.1 ∧ Operand.Alike like comparison.2 comparison'.2) first second

def Condition.Alike (first second : Condition) : Prop :=
  Comparisons.Alike like first.comparisons second.comparisons

def Conditions.Alike (first second : Conditions) : Prop :=
  OrderedMap.Alike like.name (Condition.Alike like) first second

def Criteria.Alike (first second : Criteria) : Prop :=
  OrderedMap.Alike like.name (Conditions.Alike like) first second

inductive Filter.Alike : Filter → Filter → Prop
  | nothing : Alike .nothing .nothing
  | properties {values values' : Properties} : Properties.Alike like values values' →
      Alike (.properties values) (.properties values')
  | conditions {required required' : Conditions} : Conditions.Alike like required required' →
      Alike (.conditions required) (.conditions required')

inductive Label.Alike : Label → Label → Prop
  | all {names names' : List String} : List.Forall₂ like.name names names' →
      Alike (.all names) (.all names')
  | any {names names' : List String} : List.Forall₂ like.name names names' →
      Alike (.any names) (.any names')
  | resolved (text : String) : Alike (.resolved text) (.resolved text)

structure NodePattern.Alike (first second : NodePattern) : Prop where
  identifier : Option.Rel like.name first.identifier second.identifier
  label : Option.Rel (Label.Alike like) first.label second.label
  filter : Filter.Alike like first.filter second.filter

inductive Node.Alike : Node → Node → Prop
  | raw (text : String) : Alike (.raw text) (.raw text)
  | pattern {shape shape' : NodePattern} : NodePattern.Alike like shape shape' →
      Alike (.pattern shape) (.pattern shape')

structure RelationshipPattern.Alike (first second : RelationshipPattern) : Prop where
  direction : first.direction = second.direction
  identifier : Option.Rel like.name first.identifier second.identifier
  types : List.Forall₂ like.name first.types second.types
  filter : Filter.Alike like first.filter second.filter
  hops : first.hops = second.hops

inductive Relationship.Alike : Relationship → Relationship → Prop
  | raw (text : String) : Alike (.raw text) (.raw text)
  | pattern {shape shape' : RelationshipPattern} : RelationshipPattern.Alike like shape shape' →
      Alike (.pattern shape) (.pattern shape')

inductive PathElement.Alike : PathElement → PathElement → Prop
  | node {element element' : Node} : Node.Alike like element element' →
      Alike (.node element) (.node element')
  | relationship {element element' : Relationship} : Relationship.Alike like element element' →
      Alike (.relationship element) (.relationship element')

inductive Pattern.Alike : Pattern → Pattern → Prop
  | node {single single' : Node} : Node.Alike like single single' →
      Alike (.node single) (.node single')
  | nodes {siblings siblings' : List Node} : List.Forall₂ (Node.Alike like) siblings siblings' →
      Alike (.nodes siblings) (.nodes siblings')
  | path {elements elements' : List PathElement} :
      List.Forall₂ (PathElement.Alike like) elements elements' →
      Alike (.path elements) (.path elements')

structure Assignment.Alike (first second : Assignment) : Prop where
  identifier : like.name first.identifier second.identifier
  properties : Properties.Alike like first.properties second.properties

inductive Removal.Alike : Removal → Removal → Prop
  | properties {identifier identifier' : String} {names names' : List String} :
      like.name identifier identifier' → List.Forall₂ like.name names names' →
      Alike (.properties identifier names) (.properties identifier' names')
  | labels {identifier identifier' : String} {names names' : List String} :
      like.name identifier identifier' → List.Forall₂ like.name names names' →
      Alike (.labels identifier names) (.labels identifier' names')

inductive Deletion.Alike : Deletion → Deletion → Prop
  | identifiers {names names' : List String} : List.Forall₂ like.name names names' →
      Alike (.identifiers names) (.identifiers names')
  | literal (text : String) : Alike (.literal text) (.literal text)

structure ProjectionItem.Alike (first second : ProjectionItem) : Prop where
  identifier : like.name first.identifier second.identifier
  property : Option.Rel like.name first.property second.property
  newName : Option.Rel like.name first.newName second.newName

inductive Projection.Alike : Projection → Projection → Prop
  | names {names names' : List String} : List.Forall₂ like.name names names' →
      Alike (.names names) (.names names')
  | items {items items' : List ProjectionItem} :
      List.Forall₂ (ProjectionItem.Alike like) items items' → Alike (.items items) (.items items')

structure SortItem.Alike (first second : SortItem) : Prop where
  identifier : like.name first.identifier second.identifier
  property : Option.Rel like.name first.property second.property
  direction : first.direction = second.direction

inductive Unwinding.Alike : Unwinding → Unwinding → Prop
  | expression (text : String) : Alike (.expression text) (.expression text)
  | values {items items' : List Value} : like.value (.list items) (.list items') →
      Alike (.values items) (.values items')

mutual

inductive Clause.Alike : Clause → Clause → Prop
  | spliced (keyword : Keyword) (text : String) :
      Clause.Alike (.spliced keyword text) (.spliced keyword text)
  | raw (text : String) : Clause.Alike (.raw text) (.raw text)
  | pattern (use : PatternUse) {shape shape' : Pattern} : Pattern.Alike like shape shape' →
      Clause.Alike (.pattern use shape) (.pattern use shape')
  | assign (moment : SetMoment) {assignment assignment' : Assignment} :
      Assignment.Alike like assignment assignment' →
      Clause.Alike (.assign moment assignment) (.assign moment assignment')
  | remove {removal removal' : Removal} : Removal.Alike like removal removal' →
      Clause.Alike (.remove removal) (.remove removal')
  | delete (detach : Bool) {deletion deletion' : Deletion} : Deletion.Alike like deletion deletion' →
      Clause.Alike (.delete detach deletion) (.delete detach deletion')
  | project (stage : Stage) (distinct : Bool) {projection projection' : Projection} :
      Projection.Alike like projection projection' →
      Clause.Alike (.project stage distinct projection) (.project stage distinct projection')
  | sort {items items' : List SortItem} : List.Forall₂ (SortItem.Alike like) items items' →
      Clause.Alike (.sort items) (.sort items')
  | unwind {source source' : Unwinding} {newName newName' : String} :
      Unwinding.Alike like source source' → like.name newName newName' →
      Clause.Alike (.unwind source newName) (.unwind source' newName')
  | page (part : Page) {count count' : Nat} : like.count count count' →
      Clause.Alike (.page part count) (.page part count')
  | restrict {criteria criteria' : Criteria} : Criteria.Alike like criteria criteria' →
      Clause.Alike (.restrict criteria) (.restrict criteria')
  | restrictBound {condition condition' : Where String} :
      Where.Alike like.name like.name condition condition' →
      Clause.Alike (.restrictBound condition) (.restrictBound condition')
  | forEach {item item' : String} (list : String) {body body' : Body Clause} :
      like.name item item' → Body.Alike body body' →
      Clause.Alike (.forEach item list body) (.forEach item' list body')
  | call {body body' : Body Clause} : Body.Alike body body' → Clause.Alike (.call body) (.call body')

inductive Body.Alike : Body Clause → Body Clause → Prop
  | mk {written written' : List (Clause × Fragment String)} {pending pending' : List Clause}
      {home home' : AllocatorId} :
      List.Forall₂ Clause.Alike (written.map Prod.fst) (written'.map Prod.fst) →
      List.Forall₂ like.cached written written' → List.Forall₂ Clause.Alike pending pending' →
      like.home home home' → Body.Alike ⟨written, pending, home⟩ ⟨written', pending', home'⟩

end

end Cypher
