import Cypher.Proofs.PayloadObjects

/-!
# What is read around a part

Two values that differ in one part are read in the same way around it. A relation
between two results `Spreads` when it goes past what is read before the part and
behind it. Such a relation goes from the items of a list to the list, from the
entries of an object with names of the caller to the object, and from what stands
in a condition to the condition.
-/

namespace Cypher.Payload

/-! ## How lists are read -/

section Lists

variable {home : AllocatorId}

theorem readClauseList_eq (items : List Json) :
    readClauseList home items = readEach (readClause home) items := by
  induction items with
  | nil => rw [readClauseList, readEach]
  | cons item rest ih =>
    rw [readEach, ← ih]
    cases item with
    | object entries =>
      rw [readClauseList]
      rfl
    | _ =>
      rw [readClauseList]
      · rfl
      · intro _ same
        cases same

theorem readArray_append (key : String) (before after : List Json) (item : Json) :
    readArray key (.array (before ++ item :: after)) = .ok (before ++ item :: after) := by
  cases before <;> rfl

/-- Nodes and relationships take turns. -/
theorem turn_succ (isNodeDue : Bool) (place : Nat) :
    (isNodeDue == ((place + 1) % 2 = 0 : Bool)) = ((!isNodeDue) == (place % 2 = 0 : Bool)) := by
  rcases Nat.mod_two_eq_zero_or_one place with even | odd
  · cases isNodeDue <;> simp [Nat.add_mod, even]
  · cases isNodeDue <;> simp [Nat.add_mod, odd]

end Lists

/-! ## Relations that spread -/

/-- The relation goes from what is read of a part to what is read around it. -/
structure Spreads (related : ∀ {α : Type}, Except Error α → Except Error α → Prop) : Prop where
  /-- Only what can be read counts. -/
  assuming {α : Type} {whole whole' : Except Error α} :
    (∀ result, whole = .ok result → related whole whole') → related whole whole'
  /-- Something else is read behind the part. -/
  first {α β : Type} {whole whole' : Except Error α} (next : α → Except Error β) :
    related whole whole' → related (whole >>= next) (whole' >>= next)
  /-- Something else is read before the part, which is the same in both. -/
  later {α β : Type} {whole : Except Error α} {next next' : α → Except Error β} :
    (∀ value, related (next value) (next' value)) → related (whole >>= next) (whole >>= next')

namespace Spreads

variable {related : ∀ {α : Type}, Except Error α → Except Error α → Prop}
  (spreads : Spreads related) {home : AllocatorId} {outer middle : Form} {name : String}
  {old new : Json} {α : Type}

include spreads

theorem map {β : Type} {whole whole' : Except Error α} (make : α → β) (once : related whole whole') :
    related (whole.map make) (whole'.map make) := by
  have same (whole : Except Error α) :
      whole.map make = whole >>= fun value => .ok (make value) := by
    cases whole <;> rfl
  rw [same, same]
  exact spreads.first _ once

/-! ## Lists -/

/-- One of several items. -/
theorem readEach {γ : Type} {read : γ → Except Error α} (before : List γ) {old new : γ}
    (after : List γ) (once : related (read old) (read new)) :
    related (Payload.readEach read (before ++ old :: after))
      (Payload.readEach read (before ++ new :: after)) := by
  induction before with
  | nil => exact spreads.first _ once
  | cons item rest ih => exact spreads.later fun _ => spreads.first _ ih

theorem clauseList (before after : List Json)
    (once : related (readClause home old) (readClause home new)) :
    related (readClauseList home (before ++ old :: after))
      (readClauseList home (before ++ new :: after)) := by
  rw [readClauseList_eq, readClauseList_eq]
  exact spreads.readEach before after once

theorem elements (isNodeDue : Bool) (before after : List Json)
    (once : related (readElement (isNodeDue == (before.length % 2 = 0 : Bool)) old)
      (readElement (isNodeDue == (before.length % 2 = 0 : Bool)) new)) :
    related (readElements isNodeDue (before ++ old :: after))
      (readElements isNodeDue (before ++ new :: after)) := by
  induction before generalizing isNodeDue with
  | nil =>
    have due : (isNodeDue == (([] : List Json).length % 2 = 0 : Bool)) = isNodeDue := by simp
    rw [due] at once
    exact spreads.first _ once
  | cons item rest ih =>
    rw [List.length_cons, turn_succ] at once
    exact spreads.later fun _ => spreads.first _ (ih _ once)

/-- What a stage hands on may be a list of names, which is not read item by item, so such lists need
a rule of their own. -/
theorem item {before after : List Json} (there : outer.item? before.length = some middle)
    (projection : ∀ key, related (readProjectionItem key old) (readProjectionItem key new) →
      related (readProjection key (before ++ old :: after))
        (readProjection key (before ++ new :: after)))
    (once : related (middle.result home old) (middle.result home new)) :
    related (outer.result home (.array (before ++ old :: after)))
      (outer.result home (.array (before ++ new :: after))) := by
  cases outer with
  | clauses =>
    cases there
    exact spreads.clauseList before after once
  | loopBody =>
    cases there
    show related (readArray "body" _ >>= fun _ => readClauseList home _)
      (readArray "body" _ >>= fun _ => readClauseList home _)
    rw [readArray_append, readArray_append]
    exact spreads.clauseList before after once
  | nodes =>
    cases there
    show related (readArray "multiple" _ >>= _) (readArray "multiple" _ >>= _)
    rw [readArray_append, readArray_append]
    exact spreads.readEach before after once
  | elements =>
    cases there
    show related (readArray "related" _ >>= _) (readArray "related" _ >>= _)
    rw [readArray_append, readArray_append]
    refine spreads.elements true before after ?_
    rw [Bool.true_beq]
    exact once
  | items stage =>
    cases there
    exact spreads.first _ (projection _ once)
  | body kind =>
    cases kind with
    | project stage =>
      cases there
      exact spreads.first _ (spreads.first _ (projection _ once))
    | sort =>
      cases there
      exact spreads.first _ (spreads.readEach before after once)
    | call =>
      cases there
      show related (readBody home .call _) (readBody home .call _)
      rw [readBody, readBody, readArray_append, readArray_append]
      show related (readClauseList home _ >>= _) (readClauseList home _ >>= _)
      exact spreads.first _ (spreads.clauseList before after once)
    | _ => cases there
  | _ => cases there

/-! ## Objects -/

theorem readEntries (read : String → Json → Except Error α) (before after : Fields)
    (once : related (read name old) (read name new)) :
    related (Payload.readEntries read (before ++ (name, old) :: after))
      (Payload.readEntries read (before ++ (name, new) :: after)) :=
  spreads.map _ (spreads.readEach before after (spreads.map _ once))

theorem entry {before after : Fields} (there : outer.entry? name = some middle)
    (once : related (middle.result home old) (middle.result home new)) :
    related (outer.result home (.object (before ++ (name, old) :: after)))
      (outer.result home (.object (before ++ (name, new) :: after))) := by
  cases outer with
  | body kind =>
    cases kind with
    | restrict =>
      cases there
      exact spreads.first _ (spreads.readEntries readConditions before after once)
    | _ => cases there
  | conditions key =>
    cases there
    exact spreads.readEntries readCondition before after once
  | properties =>
    cases there
    exact spreads.readEntries readOperand before after once
  | _ => cases there

theorem operand {fields fields' : Fields} (swapped : Swapped name old new fields fields')
    (key : String) (member : (name, middle) ∈ Form.table (.operand key))
    (once : related (middle.result home old) (middle.result home new)) :
    related (readOperand key (.object fields)) (readOperand key (.object fields')) := by
  cases List.mem_singleton.mp member
  refine spreads.assuming fun operand read => ?_
  obtain ⟨text, only⟩ := readOperand_object read
  obtain ⟨-, rfl, rfl⟩ := swapped.singleton only
  subst only
  rw [readOperand_literal, readOperand_literal]
  exact spreads.map _ once

/-- Text that is written as it is stands alone, and operators are read one by one. -/
theorem condition {before after : Fields} (first : ∀ entry ∈ before, entry.1 ≠ name)
    (property : String) (member : (name, middle) ∈ Form.table (.condition property))
    (once : related (middle.result home old) (middle.result home new)) :
    related (readCondition property (.object (before ++ (name, old) :: after)))
      (readCondition property (.object (before ++ (name, new) :: after))) := by
  have swapped := swapped_append first old new after
  have told := swapped.has literalKey
  unfold Fields.has Fields.get? at told
  rw [readCondition, readCondition, told]
  rcases List.mem_append.mp member with compared | literal
  · obtain ⟨operator, -, same⟩ := List.mem_map.mp compared
    cases same
    split
    · refine spreads.assuming fun condition read => ?_
      obtain ⟨operand, read, -⟩ := map_eq_ok read
      obtain ⟨text, only⟩ := readOperand_object read
      exact absurd (swapped.singleton only).1 (operator_key_ne_literal operator)
    · rw [if_neg (by simp), if_neg (by simp)]
      refine spreads.map _ (spreads.readEach before after ?_)
      rw [readComparison, readComparison, Operator.ofKey?_key]
      exact spreads.map _ once
  · cases List.mem_singleton.mp literal
    have there : (findNamed? literalKey (before ++ (literalKey, old) :: after)).isSome = true :=
      Fields.has_of_get? swapped.here
    rw [if_pos there, if_pos there]
    exact spreads.map _ (spreads.operand swapped property (List.mem_singleton.mpr rfl) once)

end Spreads

end Cypher.Payload
