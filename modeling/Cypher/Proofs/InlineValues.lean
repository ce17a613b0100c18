import Cypher.Proofs.RefusedPatterns

/-!
# Values inside a pattern

The values of properties can be given as they are, or as conditions that are
equalities. Whichever way they are written, the pattern asks for the same
parameters in the same order and has the same text, with no condition handed on
and no identifier made up.
-/

namespace Cypher

open Asking (Relates relates_pure relates_bind relates_askAll)

/-- Values as conditions, all of them spelled in one way. -/
def Properties.conditions (spell : Operand → Condition) (values : Properties) : Conditions :=
  values.filterMap fun operand => some (spell operand)

/-- What an element of a pattern says besides its filter. -/
inductive PatternHead
  | node (identifier : Option String) (label : Option Label)
  | relationship (direction : Direction) (identifier : Option String) (types : List String)
      (hops : Hops)

/-- The element with that filter. -/
def PatternHead.element : PatternHead → Filter → PathElement
  | node identifier label, filter => .node (.pattern ⟨identifier, label, filter⟩)
  | relationship direction identifier types hops, filter =>
      .relationship (.pattern ⟨direction, identifier, types, filter, hops⟩)

/-! ## Drafts that are the same -/

theorem eq_of_relates {α : Type} {first second : Asking α}
    (relates : Relates (· = ·) (· = ·) first second) : first = second := by
  funext asked
  obtain ⟨results, requests⟩ := relates asked asked rfl
  exact Prod.ext results requests

/-- The part is one comparison, which is this entry of a map. -/
def IsEntry (part : List (Comparison Ref)) (fragment : Fragment Ref) : Prop :=
  part.map Comparison.entry = [fragment]

theorem map_entry_flatten {parts : List (List (Comparison Ref))} {fragments : List (Fragment Ref)}
    (each : List.Forall₂ IsEntry parts fragments) :
    parts.flatten.map Comparison.entry = fragments := by
  induction each with
  | nil => rfl
  | cons first _ ih => rw [List.flatten_cons, List.map_append, first, ih, List.singleton_append]

/-- Values and equalities with them ask for the same, and are the same entries of a map. -/
theorem relates_equalities (entries : List (String × Operand)) (subject : Subject Ref) :
    Relates (· = ·) (fun parts fragments => parts.flatten.map Comparison.entry = fragments)
      (askAll (fun entry => entry.2.ask subject entry.1)
        (entries.map fun entry => (entry.1, Condition.value entry.2)))
      (askAll (fun entry => do
        let operand ← entry.2.ask entry.1
        return [] ++ [.name entry.1, .fixed ": ", operand.piece]) entries) := by
  have pairs : List.Forall₂ (fun condition entry => condition = (entry.1, Condition.value entry.2))
      (entries.map fun entry => (entry.1, Condition.value entry.2)) entries :=
    List.forall₂_map_left_iff.mpr (List.forall₂_same.mpr fun _ _ => rfl)
  have each (condition : String × Condition) (entry : String × Operand)
      (same : condition = (entry.1, Condition.value entry.2)) :
      Relates (· = ·) IsEntry (condition.2.ask subject condition.1) (do
        let operand ← entry.2.ask entry.1
        return [] ++ [.name entry.1, .fixed ": ", operand.piece]) := by
    subst same
    rintro asked _ rfl
    cases entry.2 <;> exact ⟨rfl, rfl⟩
  intro asked asked' before
  obtain ⟨results, requests⟩ := relates_askAll pairs each asked asked' before
  exact ⟨map_entry_flatten results, requests⟩

theorem Properties.entries_conditions (spell : Operand → Condition) (values : Properties) :
    (values.conditions spell).entries =
      values.entries.map fun entry => (entry.1, spell entry.2) := by
  show List.filterMap (some ∘ fun entry : String × Operand => (entry.1, spell entry.2)) _ = _
  rw [List.filterMap_eq_map]

/-! ## Spellings -/

section Spellings

variable {spell : Operand → Condition}
  (single : ∀ operand, (spell operand).comparisons = [(.eq, operand)])

include single

theorem Properties.inlineHalf_conditions (values : Properties) :
    (values.conditions spell).inlineHalf = values.conditions .value := by
  refine OrderedMap.ext ?_
  show List.filterMap _ (values.conditions spell).entries = _
  rw [entries_conditions, entries_conditions, List.filterMap_map, ← List.filterMap_eq_map]
  refine List.filterMap_congr fun entry _ => ?_
  simp [single, firstEquality?, Operator.isEq]

theorem Properties.hoistedHalf_conditions (values : Properties) :
    (values.conditions spell).hoistedHalf.entries = [] := by
  refine List.filterMap_eq_nil_iff.mpr fun entry member => ?_
  rw [entries_conditions] at member
  obtain ⟨value, _, rfl⟩ := List.mem_map.mp member
  simp [single, dropFirstEquality, Operator.isEq]

theorem Filter.ask_conditions (values : Properties) (stem : String) (identifier : Option String) :
    (Filter.conditions (values.conditions spell)).ask stem identifier =
      (Filter.properties values).ask stem identifier := by
  have empty : (values.conditions spell).hoistedHalf.isEmpty = true :=
    List.isEmpty_iff.mpr (values.hoistedHalf_conditions single)
  refine eq_of_relates ?_
  have inside : Relates (· = ·) (fun inside fragment => inside.inline = fragment)
      ((values.conditions spell).inlineHalf.ask (.given (identifier.getD ""))) values.askInline := by
    rw [values.inlineHalf_conditions single, Conditions.ask, Properties.entries_conditions]
    exact relates_bind (relates_equalities values.entries _) fun parts fragments same =>
      relates_pure (congrArg braced same)
  refine relates_bind inside fun bound fragment same => ?_
  rw [if_pos empty, same]
  exact relates_pure rfl

/-- An element whose values are spelled as equalities is checked and drafted as if they were not. -/
theorem PatternHead.element_conditions (head : PatternHead) (values : Properties) (mode : Mode) :
    (head.element (.conditions (values.conditions spell))).check mode =
        (head.element (.properties values)).check mode ∧
      (head.element (.conditions (values.conditions spell))).ask =
        (head.element (.properties values)).ask := by
  have checked : (Filter.conditions (values.conditions spell)).check mode = .ok () := by
    rw [Filter.check_eq_ok_iff, Filter.overfull_iff]
    exact fun both => both.2 (values.hoistedHalf_conditions single)
  cases head with
  | node identifier label =>
    refine ⟨checked, ?_⟩
    simp only [element, PathElement.ask, Node.ask, Filter.ask_conditions single]
  | relationship direction identifier types hops =>
    refine ⟨?_, ?_⟩
    · simp only [element, PathElement.check, Relationship.check, checked]
      rfl
    · simp only [element, PathElement.ask, Relationship.ask, Filter.ask_conditions single]

theorem PatternHead.run_render_conditions (head : PatternHead) (values : Properties) (mode : Mode)
    (allocator : Allocator) :
    ((head.element (.conditions (values.conditions spell))).render mode).run allocator =
      ((head.element (.properties values)).render mode).run allocator := by
  obtain ⟨checked, drafted⟩ := head.element_conditions single values mode
  rw [PathElement.settles, PathElement.settles, checked, drafted]

end Spellings

/-- Values of properties, the same values as conditions, and the same values each compared for
equality become the same element, with the same parameters, or are refused for the same reason.
What is written hands nothing on and has the identifier that it was given, if any. -/
theorem PatternHead.render_spellings (head : PatternHead) (values : Properties) (mode : Mode)
    (allocator : Allocator) :
    let plain := head.element (.properties values)
    let bare := head.element (.conditions (values.conditions .value))
    let compared := head.element
      (.conditions (values.conditions fun operand => .operators [(.eq, operand)]))
    (bare.render mode).run allocator = (plain.render mode).run allocator ∧
      (compared.render mode).run allocator = (plain.render mode).run allocator ∧
      bare.compile mode allocator = plain.compile mode allocator ∧
      compared.compile mode allocator = plain.compile mode allocator ∧
      ∀ done after, (plain.render mode).run allocator = .ok done after →
        plain.WrittenAlone done ∧ after.reserved = allocator.reserved := by
  intro plain bare compared
  have bareRun : (bare.render mode).run allocator = _ :=
    head.run_render_conditions (fun _ => rfl) values mode allocator
  have comparedRun : (compared.render mode).run allocator = _ :=
    head.run_render_conditions (fun _ => rfl) values mode allocator
  refine ⟨bareRun, comparedRun, ?_, ?_, fun done after rendered => ?_⟩
  · rw [PathElement.compile_eq, PathElement.compile_eq, bareRun]
  · rw [PathElement.compile_eq, PathElement.compile_eq, comparedRun]
  · refine PathElement.writtenAlone ?_ rendered
    cases head <;> rfl

/-- A value for a name that is taken and has to be quoted, and a literal. -/
def oddValues : Properties := .ofList [("a b", .value (.int 1)), ("since", .literal "date()")]

theorem PatternHead.render_spellings_oddValues :
    let head : PatternHead := .relationship .forward none ["KNOWS"] ⟨none, none⟩
    let taken : Allocator := .ofValues [("a b", .null)]
    ∃ done after, ((head.element (.properties oddValues)).render .creating).run taken = .ok done after ∧
      done.text.text = "-[:KNOWS \x7b `a b`: $`a b__aaaa`, since: date() \x7d]->" ∧
      (head.element (.conditions (oddValues.conditions .value))).compile .creating taken =
        .ok (done, after) ∧
      (head.element (.properties oddValues)).WrittenAlone done := by
  intro head taken
  have ran : ((head.element (.properties oddValues)).render .creating).run taken = .ok _ _ :=
    (head.element (.properties oddValues)).settles .creating taken
  obtain ⟨_, _, bare, _, alone⟩ := head.render_spellings oddValues .creating taken
  refine ⟨_, _, ran, by decide +kernel, ?_, (alone _ _ ran).1⟩
  rw [bare, PathElement.compile_eq, ran]

end Cypher
