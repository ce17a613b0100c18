import Cypher.Proofs.Nesting

/-!
# Texts of the caller

The texts that a clause has of the caller and writes as they are, its own and
those of the clauses nested in it.
-/

namespace Cypher

def Operand.rawTexts : Operand → List String
  | value _ => []
  | literal text => [text]

def Properties.rawTexts (properties : Properties) : List String :=
  properties.entries.flatMap fun entry => entry.2.rawTexts

def Condition.rawTexts (condition : Condition) : List String :=
  condition.comparisons.flatMap fun comparison => comparison.2.rawTexts

def Conditions.rawTexts (conditions : Conditions) : List String :=
  conditions.entries.flatMap fun entry => entry.2.rawTexts

def Criteria.rawTexts (criteria : Criteria) : List String :=
  criteria.entries.flatMap fun entry => Conditions.rawTexts entry.2

def BoundOperand.rawTexts {ρ : Type} : BoundOperand ρ → List String
  | parameter _ => []
  | literal text => [text]

def Where.rawTexts {ρ : Type} (condition : Where ρ) : List String :=
  condition.comparisons.flatMap fun comparison => comparison.operand.rawTexts

def Label.rawTexts : Label → List String
  | resolved text => [text]
  | _ => []

def Filter.rawTexts : Filter → List String
  | nothing => []
  | properties values => values.rawTexts
  | conditions required => required.rawTexts

def Node.rawTexts : Node → List String
  | raw text => [text]
  | pattern shape => shape.label.elim [] Label.rawTexts ++ shape.filter.rawTexts

def Relationship.rawTexts : Relationship → List String
  | raw text => [text]
  | pattern shape => shape.filter.rawTexts

def PathElement.rawTexts : PathElement → List String
  | node element => element.rawTexts
  | relationship element => element.rawTexts

def Pattern.rawTexts : Pattern → List String
  | node single => single.rawTexts
  | nodes siblings => siblings.flatMap Node.rawTexts
  | path elements => elements.flatMap PathElement.rawTexts

def Deletion.rawTexts : Deletion → List String
  | identifiers _ => []
  | literal text => [text]

def Unwinding.rawTexts : Unwinding → List String
  | expression text => [text]
  | values _ => []

mutual

/-- The texts of the caller that are written as they are, at any depth. -/
def Clause.rawTexts : Clause → List String
  | .spliced _ text => [text]
  | .raw text => [text]
  | .pattern _ shape => shape.rawTexts
  | .assign _ assignment => assignment.properties.rawTexts
  | .delete _ deletion => deletion.rawTexts
  | .unwind source _ => source.rawTexts
  | .restrict criteria => criteria.rawTexts
  | .restrictBound condition => condition.rawTexts
  | .forEach _ list body => list :: Clause.rawTextsBody body
  | .call body => Clause.rawTextsBody body
  | .remove _ => []
  | .project _ _ _ => []
  | .sort _ => []
  | .page _ _ => []

def Clause.rawTextsBody : Body Clause → List String
  | ⟨written, pending, _⟩ => Clause.rawTextsWritten written ++ Clause.rawTextsAll pending

def Clause.rawTextsWritten : List (Clause × Fragment String) → List String
  | [] => []
  | (clause, _) :: rest => clause.rawTexts ++ Clause.rawTextsWritten rest

def Clause.rawTextsAll : List Clause → List String
  | [] => []
  | clause :: rest => clause.rawTexts ++ Clause.rawTextsAll rest

end

theorem Clause.rawTextsWritten_eq (written : List (Clause × Fragment String)) :
    Clause.rawTextsWritten written = (written.map Prod.fst).flatMap Clause.rawTexts := by
  induction written with
  | nil => simp [Clause.rawTextsWritten]
  | cons entry rest ih => simp [Clause.rawTextsWritten, ih]

theorem Clause.rawTextsAll_eq (clauses : List Clause) :
    Clause.rawTextsAll clauses = clauses.flatMap Clause.rawTexts := by
  induction clauses with
  | nil => simp [Clause.rawTextsAll]
  | cons clause rest ih => simp [Clause.rawTextsAll, ih]

theorem Clause.rawTextsBody_eq (body : Body Clause) :
    Clause.rawTextsBody body = (Query.clauses body).flatMap Clause.rawTexts := by
  obtain ⟨written, pending, allocator⟩ := body
  simp [Clause.rawTextsBody, Clause.rawTextsWritten_eq, Clause.rawTextsAll_eq, Query.clauses]

/-- The texts of a nested clause are among those of the clause that it stands in. -/
theorem Clause.rawTexts_of_body? {clause : Clause} {body : Body Clause}
    (nested : clause.body? = some body) {inner : Clause} (member : inner ∈ Query.clauses body) :
    inner.rawTexts ⊆ clause.rawTexts := by
  have among : inner.rawTexts ⊆ Clause.rawTextsBody body := by
    rw [Clause.rawTextsBody_eq]
    exact fun text there => List.mem_flatMap.mpr ⟨inner, member, there⟩
  cases clause with
  | forEach item list loop =>
    obtain rfl : loop = body := by simpa [Clause.body?] using nested
    exact List.Subset.trans among (List.subset_cons_self _ _)
  | call called =>
    obtain rfl : called = body := by simpa [Clause.body?] using nested
    exact among
  | _ => cases nested

/-! ## The halves of conditions -/

theorem firstEquality?_mem {comparisons : List (Operator × Operand)} {operand : Operand}
    (first : firstEquality? comparisons = some operand) :
    ∃ comparison ∈ comparisons, comparison.1 = .eq ∧ comparison.2 = operand := by
  induction comparisons with
  | nil => cases first
  | cons comparison rest ih =>
    rw [firstEquality?] at first
    split at first
    · next equality =>
      have operator : comparison.1 = .eq := by simpa [Operator.isEq] using equality
      exact ⟨comparison, List.mem_cons_self, operator, Option.some.inj first⟩
    · obtain ⟨other, member, found⟩ := ih first
      exact ⟨other, List.mem_cons_of_mem _ member, found⟩

theorem dropFirstEquality_sublist (comparisons : List (Operator × Operand)) :
    (dropFirstEquality comparisons).Sublist comparisons := by
  induction comparisons with
  | nil => exact .slnil
  | cons comparison rest ih =>
    rw [dropFirstEquality]
    split
    · exact List.sublist_cons_self _ _
    · exact ih.cons_cons _

theorem OrderedMap.mem_filterMap {α β : Type} {select : α → Option β} {map : OrderedMap α}
    {entry : String × β} (member : entry ∈ (map.filterMap select).entries) :
    ∃ whole, (entry.1, whole) ∈ map.entries ∧ select whole = some entry.2 := by
  obtain ⟨⟨name, whole⟩, there, selected⟩ := List.mem_filterMap.mp member
  obtain ⟨value, found, rfl⟩ := Option.map_eq_some_iff.mp selected
  exact ⟨whole, there, found⟩

theorem Conditions.rawTexts_inlineHalf (conditions : Conditions) :
    conditions.inlineHalf.rawTexts ⊆ conditions.rawTexts := by
  intro text there
  obtain ⟨entry, member, among⟩ := List.mem_flatMap.mp there
  obtain ⟨whole, member', selected⟩ := OrderedMap.mem_filterMap member
  obtain ⟨operand, first, same⟩ := Option.map_eq_some_iff.mp selected
  obtain ⟨comparison, found, _, rfl⟩ := firstEquality?_mem first
  rw [← same] at among
  simp only [Condition.rawTexts, Condition.comparisons, List.flatMap_singleton] at among
  exact List.mem_flatMap.mpr ⟨_, member', List.mem_flatMap.mpr ⟨_, found, among⟩⟩

theorem Conditions.rawTexts_hoistedHalf (conditions : Conditions) :
    conditions.hoistedHalf.rawTexts ⊆ conditions.rawTexts := by
  intro text there
  obtain ⟨entry, member, among⟩ := List.mem_flatMap.mp there
  obtain ⟨whole, member', selected⟩ := OrderedMap.mem_filterMap member
  have kept : entry.2.comparisons.Sublist whole.comparisons := by
    have fewer := dropFirstEquality_sublist whole.comparisons
    -- properties that have nothing left are not in this half
    cases rest : dropFirstEquality whole.comparisons with
    | nil =>
      simp only [rest] at selected
      cases selected
    | cons first more =>
      simp only [rest, Option.some.injEq] at selected
      rw [rest] at fewer
      rwa [← selected]
  obtain ⟨comparison, found, among⟩ := List.mem_flatMap.mp among
  exact List.mem_flatMap.mpr ⟨_, member', List.mem_flatMap.mpr ⟨_, kept.subset found, among⟩⟩

end Cypher
