import Cypher.Proofs.FieldOrder
import Cypher.Proofs.SharedAllocators
import Cypher.Proofs.SplitCriteria
import Mathlib.Data.List.Induction

/-!
# Conditions as they are given

Conditions are given call by call. A call on a property replaces the condition
on it, in its place, or adds a comparison and moves it to the end; conditions
given for an identifier are laid over those that it has. What is left after any
calls is told from the calls alone: what was given last, and everything that was
added since. Binding the result gives the allocator one parameter for each
operand that has a value, in the order of the comparisons, and nothing else.
-/

namespace Cypher

variable {α β : Type}

/-! ## Entries that are set in turn -/

theorem eraseDups_concat (names : List String) (name : String) :
    (names ++ [name]).eraseDups =
      if name ∈ names.eraseDups then names.eraseDups else names.eraseDups ++ [name] := by
  rw [List.eraseDups_append, List.removeAll]
  split
  · next present => simp [List.mem_eraseDups.mp present]
  · next absent => simp [mt List.mem_eraseDups.mpr absent, List.eraseDups_cons]

namespace OrderedMap

theorem names_erase (map : OrderedMap α) (name : String) :
    (map.erase name).names = map.names.erase name := by
  have distinct : map.names.Nodup := map.distinct
  rw [distinct.erase_eq_filter]
  show (map.entries.filter _).map Prod.fst = (map.entries.map Prod.fst).filter _
  rw [List.filter_map]
  rfl

theorem get?_erase_of_ne (map : OrderedMap α) {name other : String} (different : other ≠ name) :
    (map.erase name).get? other = map.get? other := by
  unfold get?
  rw [entries_erase]
  induction map.entries with
  | nil => rfl
  | cons entry rest ih =>
    by_cases same : entry.1 = name
    · have apart : entry.1 ≠ other := fun equal => different (equal.symm.trans same)
      rw [List.filter_cons_of_neg (by simp [same]), findNamed?, if_neg apart, ih]
    · rw [List.filter_cons_of_pos (by simp [same]), findNamed?, findNamed?, ih]

theorem insertAll_append (map : OrderedMap α) (first second : List (String × α)) :
    map.insertAll (first ++ second) = (map.insertAll first).insertAll second :=
  List.foldl_append

theorem ofList_concat (entries : List (String × α)) (entry : String × α) :
    ofList (entries ++ [entry]) = (ofList entries).insert entry.1 entry.2 :=
  insertAll_append empty entries [entry]

/-- A name stands where it was set first. -/
theorem names_ofList (entries : List (String × α)) :
    (ofList entries).names = (entries.map Prod.fst).eraseDups := by
  induction entries using List.reverseRecOn with
  | nil => rfl
  | append_singleton entries entry ih =>
    rw [ofList_concat, names_insert, ih, List.map_append, List.map_singleton, eraseDups_concat]

/-- A name has the value that was set last. -/
theorem get?_ofList (entries : List (String × α)) (name : String) :
    (ofList entries).get? name =
      (entries.reverse.find? fun entry => entry.1 == name).map Prod.snd := by
  induction entries using List.reverseRecOn with
  | nil => rfl
  | append_singleton entries entry ih =>
    rw [ofList_concat, List.reverse_append, List.reverse_singleton, List.singleton_append]
    by_cases same : name = entry.1
    · subst same
      rw [get?_insert_self, List.find?_cons_of_pos (by simp)]
      rfl
    · rw [get?_insert_of_ne _ _ same, ih, List.find?_cons_of_neg (by simp [Ne.symm same])]

/-- The entries of a map are what its names are found to be. -/
theorem flatMap_entries (map : OrderedMap α) (write : String × α → List β) :
    map.entries.flatMap write =
      map.names.flatMap fun name => ((map.get? name).map fun value => write (name, value)).getD [] := by
  rw [names, List.flatMap_map]
  refine List.flatMap_congr fun entry member => ?_
  have found : map.get? entry.1 = some entry.2 :=
    (Payload.findNamed?_eq_some_iff map.distinct).mpr member
  rw [found]
  rfl

end OrderedMap

/-! ## Conditions on properties -/

namespace Conditions

/-- What is called to give a condition. -/
inductive Call
  /-- Equality with an operand, in the place of what is there. -/
  | eq (property : String) (operand : Operand)
  /-- A condition, in the place of what is there. -/
  | set (property : String) (condition : Condition)
  /-- One more comparison. -/
  | op (property : String) (operator : Operator) (operand : Operand)

namespace Call

def property : Call → String
  | eq property _ | set property _ | op property _ _ => property

/-- The comparisons that the call sets or adds. -/
def comparisons : Call → List (Operator × Operand)
  | eq _ operand => [(.eq, operand)]
  | set _ condition => condition.comparisons
  | op _ operator operand => [(operator, operand)]

/-- Whether the call adds to what is there. -/
def adds : Call → Bool
  | op _ _ _ => true
  | eq _ _ | set _ _ => false

/-- Whether the call sets the condition on that property. -/
def sets (property : String) (call : Call) : Bool := call.property == property && !call.adds

end Call

def call (conditions : Conditions) : Call → Conditions
  | .eq property operand => conditions.insert property (.value operand)
  | .set property condition => conditions.insert property condition
  | .op property operator operand => conditions.addComparison property operator operand

/-- The conditions after all of the calls. -/
def given (calls : List Call) : Conditions := calls.foldl call .empty

/-- The last call that set the condition on a property. -/
def lastSet? (property : String) (calls : List Call) : Option Call :=
  calls.reverse.find? (Call.sets property)

/-- The calls on a property since then, in their order. -/
def addedSince (property : String) (calls : List Call) : List Call :=
  (calls.reverse.takeWhile fun call => !call.sets property).reverse.filter fun call =>
    call.property == property

theorem given_concat (calls : List Call) (call : Call) :
    given (calls ++ [call]) = (given calls).call call :=
  List.foldl_append

theorem on_insert_self (conditions : Conditions) (property : String) (condition : Condition) :
    Conditions.on (conditions.insert property condition) property = condition.comparisons := by
  unfold on
  rw [OrderedMap.get?_insert_self]
  rfl

theorem on_insert_of_ne (conditions : Conditions) {property other : String} (condition : Condition)
    (different : other ≠ property) :
    Conditions.on (conditions.insert property condition) other = conditions.on other := by
  unfold on
  rw [OrderedMap.get?_insert_of_ne _ _ different]

theorem on_addComparison_self (conditions : Conditions) (property : String) (operator : Operator)
    (operand : Operand) :
    (conditions.addComparison property operator operand).on property =
      conditions.on property ++ [(operator, operand)] := by
  rw [addComparison, on_insert_self, on]
  cases conditions.get? property <;> rfl

theorem on_addComparison_of_ne (conditions : Conditions) {property other : String}
    (operator : Operator) (operand : Operand) (different : other ≠ property) :
    (conditions.addComparison property operator operand).on other = conditions.on other := by
  rw [addComparison, on_insert_of_ne _ _ different]
  unfold on
  rw [OrderedMap.get?_erase_of_ne _ different]

/-- A call that sets the condition on a property leaves nothing of the old one. -/
theorem on_call_of_sets (conditions : Conditions) {property : String} {call : Call}
    (sets : call.sets property = true) : (conditions.call call).on property = call.comparisons := by
  obtain ⟨about, replaces⟩ := Bool.and_eq_true_iff.mp sets
  rw [beq_iff_eq] at about
  subst about
  cases call with
  | eq property operand => exact on_insert_self ..
  | set property condition => exact on_insert_self ..
  | op property operator operand => cases replaces

/-- Any other call on it only adds. -/
theorem on_call_of_adds (conditions : Conditions) {call : Call} (adds : call.adds = true) :
    (conditions.call call).on call.property = conditions.on call.property ++ call.comparisons := by
  cases call with
  | eq property operand => cases adds
  | set property condition => cases adds
  | op property operator operand => exact on_addComparison_self ..

theorem on_call_of_ne (conditions : Conditions) {property : String} {call : Call}
    (different : property ≠ call.property) :
    (conditions.call call).on property = conditions.on property := by
  cases call with
  | eq other operand => exact on_insert_of_ne _ _ different
  | set other condition => exact on_insert_of_ne _ _ different
  | op other operator operand => exact on_addComparison_of_ne _ _ _ different

/-- The comparisons on a property are those that were set last and those that were added since. -/
theorem on_given (calls : List Call) (property : String) :
    (given calls).on property =
      ((lastSet? property calls).map Call.comparisons).getD [] ++
        (addedSince property calls).flatMap Call.comparisons := by
  induction calls using List.reverseRecOn with
  | nil => rfl
  | append_singleton calls call ih =>
    rw [given_concat, lastSet?, addedSince, List.reverse_append, List.reverse_singleton,
      List.singleton_append]
    cases sets : call.sets property with
    | true =>
      rw [on_call_of_sets _ sets, List.find?_cons_of_pos sets,
        List.takeWhile_cons_of_neg (by simp [sets])]
      exact (List.append_nil _).symm
    | false =>
      rw [List.find?_cons_of_neg (by simp [sets]), List.takeWhile_cons_of_pos (by simp [sets]),
        List.reverse_cons, List.filter_append]
      rw [lastSet?, addedSince] at ih
      by_cases about : call.property = property
      · have adds : call.adds = true := by simpa [Call.sets, about] using sets
        rw [List.filter_cons_of_pos (by simp [about]), List.filter_nil, List.flatMap_append,
          ← List.append_assoc, ← ih, List.flatMap_singleton, ← about]
        exact on_call_of_adds _ adds
      · rw [List.filter_cons_of_neg (by simp [about]), List.filter_nil, List.append_nil, ← ih]
        exact on_call_of_ne _ (Ne.symm about)

/-- Setting a condition keeps the place of its property, adding a comparison moves it to the end. -/
theorem names_call (conditions : Conditions) (call : Call) :
    (conditions.call call).names =
      if call.adds then conditions.names.erase call.property ++ [call.property]
      else if call.property ∈ conditions.names then conditions.names
      else conditions.names ++ [call.property] := by
  cases call with
  | eq property operand => exact OrderedMap.names_insert ..
  | set property condition => exact OrderedMap.names_insert ..
  | op property operator operand =>
    have distinct : conditions.names.Nodup := conditions.distinct
    rw [call, addComparison, OrderedMap.names_insert, OrderedMap.names_erase,
      if_neg distinct.not_mem_erase]
    rfl

example :
    (given [.eq "a" (.literal "x"), .eq "b" (.literal "y"), .op "a" .gt (.literal "z"),
      .eq "b" (.literal "w")]).names = ["b", "a"] := by decide

end Conditions

/-! ## Conditions by identifier -/

namespace Criteria

/-- The criteria after conditions were given for each of the identifiers in turn. -/
def given (calls : List (String × Conditions)) : Criteria :=
  calls.foldl (fun criteria call => criteria.addConditions call.1 call.2) .empty

/-- The conditions that were given for an identifier, one after the other. -/
def entriesFor (identifier : String) (calls : List (String × Conditions)) :
    List (String × Condition) :=
  (calls.filter fun call => call.1 == identifier).flatMap fun call => call.2.entries

theorem given_concat (calls : List (String × Conditions)) (call : String × Conditions) :
    given (calls ++ [call]) = (given calls).addConditions call.1 call.2 :=
  List.foldl_append

/-- An identifier stands where it was given first. -/
theorem names_given (calls : List (String × Conditions)) :
    (given calls).names = (calls.map Prod.fst).eraseDups := by
  induction calls using List.reverseRecOn with
  | nil => rfl
  | append_singleton calls call ih =>
    rw [given_concat, addConditions, OrderedMap.names_insert, ih, List.map_append,
      List.map_singleton, eraseDups_concat]

/-- The conditions that were given for an identifier are laid over each other. -/
theorem of_given (calls : List (String × Conditions)) (identifier : String) :
    (given calls).of identifier = OrderedMap.ofList (entriesFor identifier calls) := by
  induction calls using List.reverseRecOn with
  | nil => rfl
  | append_singleton calls call ih =>
    rw [given_concat, addConditions, entriesFor, List.filter_append, List.flatMap_append]
    unfold of at ih ⊢
    by_cases same : identifier = call.1
    · subst same
      rw [OrderedMap.get?_insert_self, Option.getD_some, ih,
        List.filter_cons_of_pos (by simp), List.filter_nil, List.flatMap_singleton]
      exact (OrderedMap.insertAll_append _ _ _).symm
    · rw [OrderedMap.get?_insert_of_ne _ _ same, ih,
        List.filter_cons_of_neg (by simp [Ne.symm same]), List.filter_nil, List.flatMap_nil,
        List.append_nil]
      rfl

/-- What is required comes identifier by identifier and property by property. -/
theorem requirements_eq (criteria : Criteria) :
    criteria.requirements = criteria.names.flatMap fun identifier =>
      (criteria.of identifier).names.flatMap fun property =>
        ((criteria.of identifier).on property).map fun comparison =>
          (.given identifier, ⟨property, comparison.1, comparison.2⟩) := by
  rw [requirements, OrderedMap.flatMap_entries]
  refine List.flatMap_congr fun identifier _ => ?_
  unfold of
  cases criteria.get? identifier with
  | none => rfl
  | some conditions =>
    rw [Option.map_some, Option.getD_some, Option.getD_some, Conditions.requirements,
      OrderedMap.flatMap_entries, List.map_flatMap]
    refine List.flatMap_congr fun property _ => ?_
    unfold Conditions.on
    cases conditions.get? property with
    | none => rfl
    | some condition => exact List.map_map

/-- The values that are given are those of the operands of all comparisons. -/
theorem values_eq (criteria : Criteria) :
    criteria.values = criteria.requirements.flatMap fun one => one.2.operand.values := by
  rw [values, requirements, List.flatMap_assoc]
  refine List.flatMap_congr fun entry _ => ?_
  rw [Conditions.values, List.flatMap_map, Conditions.requirements, List.flatMap_assoc]
  refine List.flatMap_congr fun inner _ => ?_
  rw [Condition.values, Condition.requirements, List.flatMap_map]

end Criteria

/-! ## Parameters that are gained -/

/-- A rendering that succeeds has bound these values, one parameter for each of them and in this
order. Its result refers to these parameters, and nothing else has changed. -/
def Gains (refs : α → List String) (values : List Value) (render : Rendering α) : Prop :=
  ∀ allocator result after, render.run allocator = .ok result after →
    after.reserved = allocator.reserved ∧ (refs result).length = values.length ∧
      after.parameters.entries = allocator.parameters.entries ++ (refs result).zip values

section Rules

variable {refs : α → List String} {refs' : β → List String} {values : List Value}

theorem gains_pure {result : α} (calm : refs result = []) : Gains refs [] (pure result) := by
  intro allocator _ _ ran
  cases ran
  rw [calm]
  exact ⟨rfl, rfl, (List.append_nil _).symm⟩

theorem gains_parameter (name : String) (value : Value) :
    Gains (fun granted => [granted]) [value] (obtainName (.parameter name value)) := by
  intro allocator _ _ ran
  cases ran
  exact ⟨rfl, rfl, allocator.entries_bind name value⟩

theorem gains_map {render : Rendering α} {make : α → β} (gains : Gains refs values render)
    (same : ∀ result, refs' (make result) = refs result) :
    Gains refs' values (render >>= fun result => pure (make result)) := by
  intro allocator _ after ran
  obtain ⟨middle, between, ran, done⟩ := run_bind_ok ran
  cases done
  rw [same]
  exact gains allocator middle after ran

theorem gains_renderEach {given : α → List Value} {render : α → Rendering β} {items : List α}
    (each : ∀ item ∈ items, Gains refs' (given item) (render item)) :
    Gains (fun results => results.flatMap refs') (items.flatMap given) (renderEach render items) := by
  induction items with
  | nil => exact gains_pure rfl
  | cons item rest ih =>
    rw [List.forall_mem_cons] at each
    intro allocator _ after ran
    obtain ⟨first, between, here, ran⟩ := run_bind_ok ran
    obtain ⟨more, last, there, done⟩ := run_bind_ok ran
    cases done
    obtain ⟨reserved, long, entries⟩ := each.1 allocator first between here
    obtain ⟨reserved', long', entries'⟩ := ih each.2 between more after there
    refine ⟨reserved'.trans reserved, ?_, ?_⟩
    · show (List.flatMap refs' (first :: more)).length = _
      rw [List.flatMap_cons, List.flatMap_cons, List.length_append, List.length_append, long, long']
    · show _ = _ ++ (List.flatMap refs' (first :: more)).zip _
      rw [entries', entries, List.append_assoc, List.flatMap_cons, List.flatMap_cons,
        List.zip_append long]

end Rules

theorem Operand.gains_render (operand : Operand) (property : String) :
    Gains (fun bound => Fragment.pieceParameters bound.piece) operand.values
      (operand.render property) := by
  cases operand with
  | value bound =>
    exact gains_map (gains_parameter property bound) fun name => by simp [BoundOperand.piece]
  | literal text => exact gains_pure (by simp [BoundOperand.piece])

theorem Condition.gains_render (condition : Condition) (subject : Subject String)
    (property : String) :
    Gains (fun comparisons => (⟨comparisons⟩ : Where String).parameters) condition.values
      (condition.render subject property) := by
  simp only [Where.parameters_eq]
  refine gains_renderEach fun comparison _ => ?_
  exact gains_map (comparison.2.gains_render property) fun operand => rfl

theorem Conditions.gains_render (conditions : Conditions) (subject : Subject String) :
    Gains Where.parameters conditions.values (conditions.render subject) := by
  refine gains_map (gains_renderEach fun entry _ => entry.2.gains_render subject entry.1)
    fun parts => ?_
  rw [Where.parameters_flatten]

theorem Criteria.gains_render (criteria : Criteria) :
    Gains Where.parameters criteria.values criteria.render := by
  refine gains_map (gains_renderEach fun entry _ =>
    Conditions.gains_render entry.2 (.given entry.1)) fun parts => ?_
  rw [Where.parameters_flatten, List.flatMap_map]

theorem Criteria.gains_bind (criteria : Criteria) (allocator : Allocator) :
    let bound := criteria.bind allocator
    bound.2.reserved = allocator.reserved ∧ bound.1.parameters.length = criteria.values.length ∧
      bound.2.parameters.entries =
        allocator.parameters.entries ++ bound.1.parameters.zip criteria.values :=
  criteria.gains_render _ _ _ (run_eq_settle (fun _ => Criteria.grants_render criteria) allocator)

/-- Conditions on properties that are given call by call are, for each property, the comparisons
that were set last and all those that were added since; setting a condition keeps the place of its
property, and adding a comparison moves it to the end. Conditions that are given for identifiers
are laid over each other property by property: identifiers and properties stand where they came
first, and a property has the condition that was given last. Binding them makes comparisons in
exactly that order, each of which resolves to its operand, and the allocator gains one parameter
for each operand that has a value, in that order, and nothing else. -/
theorem given_conditions_kept :
    (∀ calls : List Conditions.Call,
      let conditions := Conditions.given calls
      conditions.names.Nodup ∧
        (∀ property, conditions.on property =
          ((Conditions.lastSet? property calls).map Conditions.Call.comparisons).getD [] ++
            (Conditions.addedSince property calls).flatMap Conditions.Call.comparisons) ∧
        ∀ call, (Conditions.given (calls ++ [call])).names =
          if call.adds then conditions.names.erase call.property ++ [call.property]
          else if call.property ∈ conditions.names then conditions.names
          else conditions.names ++ [call.property]) ∧
    ∀ calls : List (String × Conditions),
      let criteria := Criteria.given calls
      criteria.names = (calls.map Prod.fst).eraseDups ∧
        (∀ identifier,
          let conditions := criteria.of identifier
          let entries := Criteria.entriesFor identifier calls
          conditions.names = (entries.map Prod.fst).eraseDups ∧
            ∀ property, conditions.get? property =
              (entries.reverse.find? fun entry => entry.1 == property).map Prod.snd) ∧
        ∀ allocator : Allocator,
          let bound := criteria.bind allocator
          let required := criteria.names.flatMap fun identifier =>
            (criteria.of identifier).names.flatMap fun property =>
              ((criteria.of identifier).on property).map fun comparison =>
                (Subject.given identifier, Requirement.mk property comparison.1 comparison.2)
          let values := required.flatMap fun one => one.2.operand.values
          bound.2.resolve bound.1 = required.map some ∧
            bound.2.reserved = allocator.reserved ∧
            bound.1.parameters.length = values.length ∧
            bound.2.parameters.entries =
              allocator.parameters.entries ++ bound.1.parameters.zip values := by
  refine ⟨fun calls => ⟨(Conditions.given calls).distinct, Conditions.on_given calls, fun call => ?_⟩,
    fun calls => ⟨Criteria.names_given calls, fun identifier => ?_, fun allocator => ?_⟩⟩
  · rw [Conditions.given_concat]
    exact Conditions.names_call _ call
  · intro conditions entries
    have laid : conditions = OrderedMap.ofList entries := Criteria.of_given calls identifier
    rw [laid]
    exact ⟨OrderedMap.names_ofList entries, OrderedMap.get?_ofList entries⟩
  · intro bound required values
    have listed : (Criteria.given calls).requirements = required := Criteria.requirements_eq _
    have given : (Criteria.given calls).values = values := by rw [Criteria.values_eq, listed]
    rw [← listed, ← given]
    exact ⟨((Criteria.given calls).resolve_bind allocator).2 _ (.refl _),
      (Criteria.given calls).gains_bind allocator⟩

end Cypher
