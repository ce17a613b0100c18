import Cypher.Proofs.Requirements

/-!
# The halves of conditions

Conditions by identifier are split into the equalities that patterns have room
for and all the rest. Each half has its part of the comparisons on every
property and nothing else, in the order in which they were given. Bound one
after the other, the halves require what the whole requires, and what the first
half requires of one identifier can always be written inside a pattern.
-/

namespace Cypher

open List (Forall₂)

variable {α β : Type}

/-! ## Entries that are kept -/

namespace OrderedMap

theorem findNamed?_eq_none {name : String} {entries : List (String × α)}
    (absent : name ∉ entries.map Prod.fst) : findNamed? name entries = none := by
  rw [← Option.not_isSome_iff_eq_none, findNamed?_isSome]
  exact absent

theorem get?_filterMap (select : α → Option β) (map : OrderedMap α) (name : String) :
    (map.filterMap select).get? name = (map.get? name).bind select := by
  obtain ⟨entries, distinct⟩ := map
  unfold get? filterMap
  induction entries with
  | nil => rfl
  | cons entry rest ih =>
    rw [List.map_cons, List.nodup_cons] at distinct
    have later := ih distinct.2
    simp only at later
    by_cases same : entry.1 = name
    · -- no other entry has the name, so that nothing is found when this one is dropped
      have absent := findNamed?_eq_none (same ▸ distinct.1)
      rw [absent] at later
      rw [findNamed?, if_pos same]
      cases kept : select entry.2 with
      | none => simpa [kept] using later
      | some value => simp [kept, findNamed?, same]
    · rw [findNamed?, if_neg same, ← later]
      cases kept : select entry.2 with
      | none => simp [kept]
      | some value => simp [kept, findNamed?, same]

theorem names_filterMap_sublist (select : α → Option β) (map : OrderedMap α) :
    (map.filterMap select).names.Sublist map.names := by
  show (List.map Prod.fst (List.filterMap _ map.entries)).Sublist (List.map Prod.fst map.entries)
  induction map.entries with
  | nil => exact .slnil
  | cons entry rest ih =>
    cases kept : select entry.2 with
    | none => simpa [kept] using ih.cons entry.1
    | some value => simpa [kept] using ih.cons_cons entry.1

theorem mem_names {map : OrderedMap α} {name : String} :
    name ∈ map.names ↔ ∃ value, map.get? name = some value := by
  rw [← contains_iff, contains, Option.isSome_iff_exists]

end OrderedMap

/-! ## Parts of conditions -/

/-- What a property is compared with. -/
def Conditions.on (conditions : Conditions) (property : String) : List (Operator × Operand) :=
  ((conditions.get? property).map Condition.comparisons).getD []

/-- What is required of an identifier. -/
def Criteria.of (criteria : Criteria) (identifier : String) : Conditions :=
  (criteria.get? identifier).getD .empty

/-- The part has, of the comparisons on each property, the selected ones, the properties come in
the same order, and those that are left without comparisons are gone. -/
structure Conditions.Part (select : List (Operator × Operand) → List (Operator × Operand))
    (whole part : Conditions) : Prop where
  comparisons : ∀ property, part.on property = select (whole.on property)
  order : part.names.Sublist whole.names
  inhabited : ∀ property ∈ part.names, part.on property ≠ []

/-- The part of what is required of each identifier; the identifiers come in the same order, and
those that are left without comparisons are gone. -/
structure Criteria.Part (select : List (Operator × Operand) → List (Operator × Operand))
    (whole part : Criteria) : Prop where
  conditions : ∀ identifier, Conditions.Part select (whole.of identifier) (part.of identifier)
  order : part.names.Sublist whole.names
  inhabited : ∀ identifier ∈ part.names, (part.of identifier).names ≠ []

section Parts

variable {select : List (Operator × Operand) → List (Operator × Operand)}

theorem Conditions.part_filterMap {keep : Condition → Option Condition}
    (kept : ∀ condition,
      ((keep condition).map Condition.comparisons).getD [] = select condition.comparisons)
    (inhabited : ∀ condition left, keep condition = some left → left.comparisons ≠ [])
    (nothing : select [] = []) (conditions : Conditions) :
    Part select conditions (conditions.filterMap keep) where
  comparisons := by
    intro property
    unfold on
    rw [OrderedMap.get?_filterMap]
    cases conditions.get? property with
    | none => exact nothing.symm
    | some condition => exact kept condition
  order := OrderedMap.names_filterMap_sublist keep conditions
  inhabited := by
    intro property member
    obtain ⟨left, found⟩ := OrderedMap.mem_names.mp member
    unfold on
    rw [found]
    rw [OrderedMap.get?_filterMap] at found
    obtain ⟨condition, -, chosen⟩ := Option.bind_eq_some_iff.mp found
    exact inhabited condition left chosen

theorem Conditions.eq_empty_of_isEmpty {conditions : Conditions}
    (empty : conditions.isEmpty = true) : conditions = .empty :=
  OrderedMap.ext (List.isEmpty_iff.mp empty)

/-- What a half requires of an identifier is that half of what is required of it. -/
theorem Criteria.of_half {part : Conditions → Conditions} (nothing : part .empty = .empty)
    (criteria : Criteria) (identifier : String) :
    (criteria.half part).of identifier = part (criteria.of identifier) := by
  unfold of half
  rw [OrderedMap.get?_filterMap]
  cases criteria.get? identifier with
  | none => exact nothing.symm
  | some conditions =>
    show Option.getD (ite _ _ _) _ = part conditions
    split
    · next empty => exact (Conditions.eq_empty_of_isEmpty empty).symm
    · rfl

/-- Conditions are split as those on each identifier are. -/
theorem Criteria.part_half {part : Conditions → Conditions} (nothing : part .empty = .empty)
    (each : ∀ conditions, Conditions.Part select conditions (part conditions))
    (criteria : Criteria) : Part select criteria (criteria.half part) where
  conditions := by
    intro identifier
    rw [of_half nothing]
    exact each _
  order := OrderedMap.names_filterMap_sublist _ criteria
  inhabited := by
    intro identifier member
    obtain ⟨kept, found⟩ := OrderedMap.mem_names.mp member
    unfold of
    rw [found]
    unfold half at found
    rw [OrderedMap.get?_filterMap] at found
    obtain ⟨conditions, -, chosen⟩ := Option.bind_eq_some_iff.mp found
    obtain ⟨inhabited, same⟩ := Option.ite_none_left_eq_some.mp chosen
    cases same
    rw [OrderedMap.names, Option.getD_some, ne_eq, List.map_eq_nil_iff]
    rwa [OrderedMap.isEmpty, List.isEmpty_iff] at inhabited

end Parts

/-! ## The halves -/

/-- The first equality, if there is one. -/
def theEquality (comparisons : List (Operator × Operand)) : List (Operator × Operand) :=
  (comparisons.find? fun comparison => comparison.1.isEq).toList

/-- Everything else. -/
def theOthers (comparisons : List (Operator × Operand)) : List (Operator × Operand) :=
  comparisons.eraseP fun comparison => comparison.1.isEq

theorem map_firstEquality? (comparisons : List (Operator × Operand)) :
    (firstEquality? comparisons).toList.map (fun operand => (Operator.eq, operand)) =
      theEquality comparisons := by
  unfold theEquality
  induction comparisons with
  | nil => rfl
  | cons comparison rest ih =>
    obtain ⟨operator, operand⟩ := comparison
    rw [firstEquality?, List.find?_cons]
    cases equality : operator.isEq with
    | true =>
      obtain rfl : operator = .eq := by simpa [Operator.isEq] using equality
      rfl
    | false => exact ih

theorem dropFirstEquality_eq (comparisons : List (Operator × Operand)) :
    dropFirstEquality comparisons = theOthers comparisons := by
  unfold theOthers
  induction comparisons with
  | nil => rfl
  | cons comparison rest ih =>
    rw [dropFirstEquality, List.eraseP_cons, ih]
    cases comparison.1.isEq <;> rfl

theorem Conditions.part_inlineHalf (conditions : Conditions) :
    Part theEquality conditions conditions.inlineHalf := by
  refine part_filterMap (fun condition => ?_) (fun condition left chosen => ?_) rfl conditions
  · rw [← map_firstEquality?]
    cases firstEquality? condition.comparisons <;> rfl
  · obtain ⟨operand, -, rfl⟩ := Option.map_eq_some_iff.mp chosen
    exact List.cons_ne_nil _ _

theorem Conditions.part_hoistedHalf (conditions : Conditions) :
    Part theOthers conditions conditions.hoistedHalf := by
  refine part_filterMap (fun condition => ?_) (fun condition left chosen => ?_) rfl conditions
  · rw [← dropFirstEquality_eq]
    cases dropFirstEquality condition.comparisons <;> rfl
  · cases others : dropFirstEquality condition.comparisons with
    | nil =>
      rw [others] at chosen
      cases chosen
    | cons first more =>
      rw [others] at chosen
      cases chosen
      exact List.cons_ne_nil _ _

/-! ## What is bound -/

/-- What is required of identifiers, one comparison after the other. -/
def Criteria.requirements (criteria : Criteria) : List (Subject String × Requirement) :=
  criteria.entries.flatMap fun entry =>
    (Conditions.requirements entry.2).map fun one => (.given entry.1, one)

/-- The comparisons of a condition, each with its operand as it was before it was bound. -/
def Allocator.resolve (allocator : Allocator) (condition : Where String) :
    List (Option (Subject String × Requirement)) :=
  condition.comparisons.map fun comparison =>
    (allocator.requirement? comparison).map fun one => (comparison.subject, one)

theorem Criteria.requirements_half (criteria : Criteria) {part : Conditions → Conditions} :
    (criteria.half part).requirements = criteria.entries.flatMap fun entry =>
      (part entry.2).requirements.map fun one => (.given entry.1, one) := by
  rw [half, requirements, OrderedMap.flatMap_filterMap]
  refine List.flatMap_congr fun entry _ => ?_
  show List.flatMap _ (Option.toList (ite _ _ _)) = _
  split
  · next empty => rw [Conditions.eq_empty_of_isEmpty empty]; rfl
  · exact List.append_nil _

/-- The two halves require what the whole does. -/
theorem Criteria.requirements_halves (criteria : Criteria) :
    (criteria.inlineHalf.requirements ++ criteria.hoistedHalf.requirements).Perm
      criteria.requirements := by
  rw [inlineHalf, hoistedHalf, requirements_half, requirements_half]
  refine (List.flatMap_append_perm _ _ _).trans (List.Perm.flatMap_left _ fun entry _ => ?_)
  rw [← List.map_append]
  exact (Conditions.requirements_halves entry.2).map _

theorem resolve_of_answers {allocator : Allocator} {subject : Subject String}
    {requirements : List Requirement} {condition : Where String}
    (answers : Forall₂ (Comparison.Answers allocator subject) requirements condition.comparisons) :
    allocator.resolve condition = (requirements.map fun one => (subject, one)).map some := by
  unfold Allocator.resolve
  generalize condition.comparisons = comparisons at answers
  induction answers with
  | nil => rfl
  | cons answer _ ih =>
    obtain ⟨about, required⟩ := answer
    rw [List.map_cons, List.map_cons, List.map_cons, required, about, ih, Option.map_some]

theorem Criteria.ensures_resolve {start : Allocator} (criteria : Criteria) :
    Ensures start (fun after bound => ∀ later, after.Keeps later →
      later.resolve bound = criteria.requirements.map some) criteria.render := by
  have stays (first later : Allocator) (entry : String × Conditions) (part : Where String)
      (keeps : first.Keeps later)
      (answers : Forall₂ (Comparison.Answers first (.given entry.1))
        (Conditions.requirements entry.2) part.comparisons) :
      Forall₂ (Comparison.Answers later (.given entry.1))
        (Conditions.requirements entry.2) part.comparisons :=
    answers_keeps answers keeps
  refine ensures_bind (ensures_each stays fun entry _ start =>
    Conditions.ensures_answers entry.2 (.given entry.1)) fun between parts _ each => ?_
  refine ensures_pure fun after here later there => ?_
  -- identifier by identifier, what was bound answers what is required
  unfold requirements
  generalize criteria.entries = entries at each
  induction each with
  | nil => rfl
  | cons answers _ ih =>
    have first := resolve_of_answers (answers_keeps answers (here.trans there))
    rw [List.flatMap_cons, List.map_append, ← first, ← ih]
    exact List.map_append

/-- Once criteria are bound, they can be read back for as long as the parameters are there. -/
theorem Criteria.resolve_bind (criteria : Criteria) (allocator : Allocator) :
    allocator.Keeps (criteria.bind allocator).2 ∧
      ∀ later, (criteria.bind allocator).2.Keeps later →
        later.resolve (criteria.bind allocator).1 = criteria.requirements.map some :=
  criteria.ensures_resolve _ _ _ (.refl allocator)
    (run_eq_settle (fun _ => Criteria.grants_render criteria) allocator)

theorem Criteria.requirements_inlineHalf_isEq (criteria : Criteria) :
    ∀ one ∈ criteria.inlineHalf.requirements, one.2.operator = .eq := by
  rw [inlineHalf, requirements_half]
  intro one member
  obtain ⟨entry, -, among⟩ := List.mem_flatMap.mp member
  obtain ⟨requirement, inside, rfl⟩ := List.mem_map.mp among
  rw [Conditions.requirements_inlineHalf] at inside
  obtain ⟨condition, -, equality⟩ := List.mem_flatMap.mp inside
  obtain ⟨operand, -, rfl⟩ := List.mem_map.mp equality
  rfl

/-- What is resolved to equalities consists of equalities. -/
theorem Where.isEqualityOnly_of_resolve {allocator : Allocator} {condition : Where String}
    {requirements : List (Subject String × Requirement)}
    (resolved : allocator.resolve condition = requirements.map some)
    (equalities : ∀ one ∈ requirements, one.2.operator = .eq) :
    condition.isEqualityOnly = true := by
  refine List.all_eq_true.mpr fun comparison member => ?_
  have among := List.mem_map_of_mem (f := fun comparison : Comparison String =>
    (allocator.requirement? comparison).map fun one => (comparison.subject, one)) member
  rw [show List.map _ condition.comparisons = _ from resolved] at among
  obtain ⟨one, given, same⟩ := List.mem_map.mp among
  obtain ⟨requirement, required, rfl⟩ := Option.map_eq_some_iff.mp same.symm
  obtain ⟨operand, -, rfl⟩ := Option.map_eq_some_iff.mp required
  have equality : comparison.operator = .eq := equalities _ given
  rw [equality]
  rfl

/-- The conditions on one identifier that are in the first half fit inside a pattern. -/
theorem Conditions.inline?_bind_inlineHalf (conditions : Conditions) (identifier : String)
    (allocator : Allocator) :
    let bound := (conditions.inlineHalf.bind identifier allocator).1
    bound.inline? = .ok bound.inline := by
  intro bound
  -- whether they fit is known before the names of their parameters are
  have fits : Where.checkEntries [] bound.comparisons = .ok () :=
    (Where.checkEntries_map _ _ _).trans (conditions.yields_inlineHalf (.given identifier) [])
  unfold Where.inline?
  rw [fits]
  rfl

/-- The halves of criteria have, of the comparisons on every property, the first equality and all
the others. Bound one after the other they require what the whole requires, however that is bound;
what the first half requires are equalities, and for each identifier they fit inside a pattern. -/
theorem Criteria.halves_partition (criteria : Criteria) :
    Part theEquality criteria criteria.inlineHalf ∧ Part theOthers criteria criteria.hoistedHalf ∧
      (∀ first second : Allocator,
        let inside := criteria.inlineHalf.bind first
        let behind := criteria.hoistedHalf.bind inside.2
        let whole := criteria.bind second
        inside.1.isEqualityOnly = true ∧
          whole.2.resolve whole.1 = criteria.requirements.map some ∧
          (behind.2.resolve inside.1 ++ behind.2.resolve behind.1).Perm
            (whole.2.resolve whole.1)) ∧
      ∀ (identifier : String) (allocator : Allocator),
        let bound := ((criteria.inlineHalf.of identifier).bind identifier allocator).1
        bound.inline? = .ok bound.inline := by
  refine ⟨part_half rfl Conditions.part_inlineHalf criteria,
    part_half rfl Conditions.part_hoistedHalf criteria, ?_, ?_⟩
  · intro first second inside behind whole
    obtain ⟨-, insides⟩ := criteria.inlineHalf.resolve_bind first
    obtain ⟨stays, behinds⟩ := criteria.hoistedHalf.resolve_bind inside.2
    obtain ⟨-, wholes⟩ := criteria.resolve_bind second
    refine ⟨?_, wholes _ (.refl _), ?_⟩
    · exact Where.isEqualityOnly_of_resolve (insides _ (.refl _))
        criteria.requirements_inlineHalf_isEq
    · -- what the first half has bound is still there when the second one is bound
      rw [insides _ stays, behinds _ (.refl _), wholes _ (.refl _), ← List.map_append]
      exact criteria.requirements_halves.map some
  · intro identifier allocator
    rw [show criteria.inlineHalf.of identifier = _ from of_half rfl criteria identifier]
    exact Conditions.inline?_bind_inlineHalf _ identifier allocator

end Cypher
