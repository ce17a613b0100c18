import Cypher.Proofs.FieldOrder
import Cypher.Proofs.StrictPayloads

/-!
# Objects that agree read the same

Every reader of an object whose fields are looked up by their names is taken
through its fields, in the order in which it looks them up. Which fields there
are is asked before any of them is read, and is the same for both objects.
-/

namespace Cypher.Payload

namespace Agree

/-! ## Patterns -/

variable {home : AllocatorId} {table : List (String × Form)} {fields fields' : Fields}

theorem readFilter (agree : Agree home table fields fields')
    (conditions : ("where", Form.conditions "where") ∈ table)
    (properties : ("properties", Form.properties) ∈ table) :
    Repeats (Payload.readFilter fields) (Payload.readFilter fields') := by
  unfold Payload.readFilter
  rw [agree.notBoth]
  refine repeats_bind repeats_refl fun _ _ => ?_
  cases present : fields.get? "where" with
  | some value =>
    obtain ⟨value', there, once⟩ := agree.found _ _ present
    rw [there]
    exact repeats_bind (once _ conditions) fun _ _ => repeats_refl
  | none =>
    rw [agree.absent _ present]
    cases present : fields.get? "properties" with
    | some value =>
      obtain ⟨value', there, once⟩ := agree.found _ _ present
      rw [there]
      exact repeats_bind (once _ properties) fun _ _ => repeats_refl
    | none =>
      rw [agree.absent _ present]
      exact repeats_refl

theorem readNodeFields (agree : Agree home Form.nodeTable fields fields') :
    Repeats (Payload.readNodeFields fields) (Payload.readNodeFields fields') := by
  unfold Payload.readNodeFields
  refine repeats_bind (agree.read? (.text "identifier") (by decide)) fun _ _ => ?_
  refine repeats_bind (agree.read? .label (by decide)) fun _ _ => ?_
  exact repeats_bind (agree.readFilter (by decide) (by decide)) fun _ _ => repeats_refl

theorem readNode (agree : Agree home Form.nodeTable fields fields') (key : String) :
    Repeats (Payload.readNode key (.object fields)) (Payload.readNode key (.object fields')) :=
  agree.readFields (repeats_bind agree.readNodeFields fun _ _ => repeats_refl)

theorem readShape? (agree : Agree home table fields fields') :
    Repeats (Payload.readShape? fields) (Payload.readShape? fields') :=
  fun _ => readShape?_of_has (funext agree.has)

/-- A field with a list that is read item by item. -/
theorem requiredList {α β : Type} {name : String} (agree : Agree home table fields fields')
    (form : Form) (member : (name, form) ∈ table) {list : Json → Except Error α}
    {read : α → Except Error form.Result}
    (same : form.result home = fun value => list value >>= read) (next : form.Result → Except Error β) :
    Repeats (fields.required name >>= fun value => list value >>= fun items => read items >>= next)
      (fields'.required name >>= fun value => list value >>= fun items => read items >>= next) := by
  have repeats := agree.required form member fun result => (repeats_refl : Repeats (next result) _)
  simpa only [same, bind_assoc] using repeats

theorem readPatternFields (agree : Agree home (Form.nodeTable ++ Form.shapeTable) fields fields')
    (use : PatternUse) :
    Repeats (Payload.readPatternFields use fields) (Payload.readPatternFields use fields') := by
  unfold Payload.readPatternFields
  refine repeats_bind agree.readShape? fun shape _ => ?_
  cases shape with
  | none =>
    refine repeats_bind (readNodeFields (agree.mono ?_)) fun _ _ => repeats_refl
    exact List.subset_append_left _ _
  | some shape =>
    refine repeats_ite (fun _ => ?_) fun _ => repeats_ite (fun _ => ?_) fun _ => ?_
    · exact repeats_bind (agree.requiredString (by decide)) fun _ _ => repeats_refl
    · exact agree.requiredList .nodes (by decide) rfl _
    · exact agree.requiredList .elements (by decide) rfl _

theorem readCreation (agree : Agree home (Form.nodeTable ++ Form.shapeTable) fields fields')
    (use : PatternUse) :
    Repeats (Payload.readCreation use (.object fields)) (Payload.readCreation use (.object fields')) :=
  agree.readFields (agree.readPatternFields use)

theorem readMatch (agree : Agree home (Form.table (.body .find)) fields fields') :
    Repeats (Payload.readMatch (.object fields)) (Payload.readMatch (.object fields')) := by
  refine agree.readFields (repeats_bind (agree.flag (by decide)) fun _ _ => ?_)
  exact readPatternFields (agree.mono (List.subset_append_left _ _)) _

theorem readLabel (agree : Agree home (Form.table .label) fields fields') :
    Repeats (Payload.readLabel (.object fields)) (Payload.readLabel (.object fields')) := by
  refine agree.readFields ?_
  rw [agree.exactlyOne]
  refine repeats_bind repeats_refl fun _ _ => ?_
  refine repeats_bind (agree.read? (.names "any") (by decide)) fun names _ => ?_
  cases names with
  | none => exact repeats_bind (agree.read? (.names "all") (by decide)) fun _ _ => repeats_refl
  | some names => exact repeats_refl

/-- What is read behind the direction, the identifier and the types of a relationship. -/
theorem readBounds (agree : Agree home Form.relationshipTable fields fields')
    (make : Filter → Option HopBound → Option HopBound → RelationshipPattern) :
    Repeats
      (do
        let filter ← Payload.readFilter fields
        let min ← fields.read? (readHop "minHops") "minHops"
        let max ← fields.read? (readHop "maxHops") "maxHops"
        return make filter min max)
      (do
        let filter ← Payload.readFilter fields'
        let min ← fields'.read? (readHop "minHops") "minHops"
        let max ← fields'.read? (readHop "maxHops") "maxHops"
        return make filter min max) := by
  refine repeats_bind (agree.readFilter (by decide) (by decide)) fun _ _ => ?_
  refine repeats_bind (agree.read? (.hop "minHops") (by decide)) fun _ _ => ?_
  exact repeats_bind (agree.read? (.hop "maxHops") (by decide)) fun _ _ => repeats_refl

theorem readRelationship (agree : Agree home Form.relationshipTable fields fields') (key : String) :
    Repeats (Payload.readRelationship key (.object fields))
      (Payload.readRelationship key (.object fields')) := by
  refine agree.readFields ?_
  refine repeats_bind ?_ fun _ _ => ?_
  · exact repeats_bind (agree.requiredString (by decide)) fun _ _ => repeats_refl
  refine repeats_bind (agree.read? (.text "identifier") (by decide)) fun _ _ => ?_
  refine repeats_bind (agree.read? (.names "name") (by decide)) fun names _ => ?_
  cases names with
  | none => exact agree.readBounds _
  | some names => exact repeats_bind repeats_refl fun types _ => agree.readBounds _

/-- An element of a path is a relationship when it has a direction, else a node. -/
theorem readElement (agree : Agree home (Form.nodeTable ++ Form.relationshipTable) fields fields')
    (isNodeDue : Bool) :
    Repeats (Payload.readElement isNodeDue (.object fields))
      (Payload.readElement isNodeDue (.object fields')) := by
  have told : (findNamed? "direction" fields').isSome = (findNamed? "direction" fields).isSome :=
    agree.has "direction"
  rw [Payload.readElement, Payload.readElement, told]
  refine repeats_ite (fun _ => ?_) fun _ => ?_
  · refine repeats_bind (readRelationship (agree.mono ?_) _) fun _ _ => repeats_refl
    exact List.subset_append_right _ _
  · refine repeats_bind (readNode (agree.mono ?_) _) fun _ _ => repeats_refl
    exact List.subset_append_left _ _

/-! ## Clauses -/

theorem readAssignment (moment : SetMoment)
    (agree : Agree home (Form.table (.body (.assign moment))) fields fields') :
    Repeats (Payload.readAssignment moment (.object fields))
      (Payload.readAssignment moment (.object fields')) := by
  refine agree.readFields ?_
  refine repeats_bind (agree.requiredString (by simp [Form.table])) fun _ _ => ?_
  exact agree.required .properties (by simp [Form.table]) fun _ => repeats_refl

theorem readRemoval (agree : Agree home (Form.table (.body .remove)) fields fields') :
    Repeats (Payload.readRemoval (.object fields)) (Payload.readRemoval (.object fields')) := by
  refine agree.readFields ?_
  rw [agree.exactlyOne]
  refine repeats_bind repeats_refl fun _ _ => ?_
  refine repeats_bind (agree.requiredString (by decide)) fun _ _ => ?_
  refine repeats_bind (agree.read? (.names "labels") (by decide)) fun labels _ => ?_
  cases labels with
  | none => exact repeats_bind (agree.read? (.names "properties") (by decide)) fun _ _ => repeats_refl
  | some labels => exact repeats_refl

theorem readDeletion (agree : Agree home (Form.table (.body .delete)) fields fields') :
    Repeats (Payload.readDeletion (.object fields)) (Payload.readDeletion (.object fields')) := by
  refine agree.readFields ?_
  rw [agree.exactlyOne]
  refine repeats_bind repeats_refl fun _ _ => ?_
  refine repeats_bind (agree.flag (by decide)) fun _ _ => ?_
  refine repeats_bind (agree.read? (.text "literal") (by decide)) fun text _ => ?_
  cases text with
  | none => exact repeats_bind (agree.read? (.names "identifiers") (by decide)) fun _ _ => repeats_refl
  | some text => exact repeats_refl

theorem readStage (stage : Stage)
    (agree : Agree home (Form.table (.body (.project stage))) fields fields') :
    Repeats (Payload.readStage stage (.object fields)) (Payload.readStage stage (.object fields')) := by
  refine agree.readFields ?_
  refine agree.required (.items stage) (by simp [Form.table]) fun _ => ?_
  exact repeats_bind (agree.flag (by simp [Form.table])) fun _ _ => repeats_refl

theorem readProjectionItem (stage : Stage) (key : String)
    (agree : Agree home (Form.table (.projectionItem stage)) fields fields') :
    Repeats (Payload.readProjectionItem key (.object fields))
      (Payload.readProjectionItem key (.object fields')) := by
  refine agree.readFields ?_
  refine repeats_bind (agree.requiredString (by simp [Form.table])) fun _ _ => ?_
  refine repeats_bind (agree.read? (.text "property") (by simp [Form.table])) fun _ _ => ?_
  exact repeats_bind (agree.read? (.text "alias") (by simp [Form.table])) fun _ _ => repeats_refl

theorem readSortItem (agree : Agree home Form.sortTable fields fields') :
    Repeats (Payload.readSortItem (.object fields)) (Payload.readSortItem (.object fields')) := by
  have reference (direction : Option SortDirection) :
      Repeats
        (do
          let identifier ← fields.requiredString "identifier"
          let property ← fields.string? "property"
          return SortItem.mk identifier property direction)
        (do
          let identifier ← fields'.requiredString "identifier"
          let property ← fields'.string? "property"
          return SortItem.mk identifier property direction) := by
    refine repeats_bind (agree.requiredString (by decide)) fun _ _ => ?_
    exact repeats_bind (agree.read? (.text "property") (by decide)) fun _ _ => repeats_refl
  refine agree.readFields ?_
  refine repeats_bind (agree.read? (.text "direction") (by decide)) fun direction _ => ?_
  cases direction with
  | none => exact reference none
  | some name => exact repeats_bind repeats_refl fun direction _ => reference direction

theorem readUnwinding (agree : Agree home (Form.table (.body .unwind)) fields fields') :
    Repeats (Payload.readUnwinding (.object fields)) (Payload.readUnwinding (.object fields')) := by
  refine agree.readFields ?_
  rw [agree.exactlyOne]
  refine repeats_bind repeats_refl fun _ _ => ?_
  refine repeats_bind (agree.requiredString (by decide)) fun newName _ => ?_
  refine repeats_bind (agree.read? (.text "value") (by decide)) fun text _ => ?_
  cases text with
  | some text => exact repeats_refl
  | none =>
    have repeats : Repeats
        (fields.required "values" >>= fun value => readValues value >>= fun values =>
          pure (Clause.unwind (.values values) newName))
        (fields'.required "values" >>= fun value => readValues value >>= fun values =>
          pure (Clause.unwind (.values values) newName)) :=
      agree.required .values (by decide) fun _ => repeats_refl
    simp only [readValues_bind] at repeats
    exact repeats

theorem readForEach (agree : Agree home (Form.table (.body .forEach)) fields fields') :
    Repeats (readBody home .forEach (.object fields)) (readBody home .forEach (.object fields')) := by
  rw [readBody, readBody, readLoopBody_eq, readLoopBody_eq]
  refine repeats_bind (agree.checkFields _) fun _ _ => ?_
  refine repeats_bind (agree.requiredString (by decide)) fun _ _ => ?_
  refine repeats_bind (agree.requiredString (by decide)) fun _ _ => ?_
  rw [bind_assoc, bind_assoc]
  exact agree.required .loopBody (by decide) fun _ => repeats_refl

/-- An object with one clause has one field, which can only stand in one place. -/
theorem readClauseObject (agree : Agree home Form.clauseTable fields fields') :
    Repeats (Payload.readClauseObject home fields) (Payload.readClauseObject home fields') := by
  intro clause read
  have whole := read
  rw [Payload.readClauseObject] at whole
  obtain ⟨kind, told, -⟩ := bind_eq_ok whole
  obtain ⟨value, rfl, known⟩ := readKind_eq_ok told
  obtain ⟨value', there, once⟩ := agree.found kind.key value (if_pos rfl)
  have only : fields' = [(kind.key, value')] := by
    obtain ⟨⟨name, other⟩, rfl, same⟩ :=
      List.map_eq_singleton_iff.mp (List.perm_singleton.mp agree.names)
    subst same
    have here : some other = some value' := (if_pos rfl).symm.trans there
    cases here
    rfl
  subst only
  rw [readClauseObject_singleton known] at read ⊢
  refine once (.body kind) ?_ clause read
  exact List.mem_map_of_mem (List.mem_of_find?_eq_some known)

end Agree

/-- Objects that agree read the same, where fields are looked up by their names. -/
theorem Form.repeats_of_agree {home : AllocatorId} {form : Form} {fields fields' : Fields}
    (unordered : form.isUnordered = true) (agree : Agree home form.table fields fields') :
    Repeats (form.result home (.object fields)) (form.result home (.object fields')) := by
  cases form with
  | clauses => exact repeats_bind agree.readClauseObject fun _ _ => repeats_refl
  | clause => exact agree.readClauseObject
  | loopBody => exact repeats_bind agree.readClauseObject fun _ _ => repeats_refl
  | body kind =>
    cases kind with
    | find => exact agree.readMatch
    | create use => exact agree.readCreation use
    | assign moment => exact agree.readAssignment moment
    | remove => exact agree.readRemoval
    | delete => exact agree.readDeletion
    | project stage => exact agree.readStage stage
    | sort => exact repeats_bind agree.readSortItem fun _ _ => repeats_refl
    | unwind => exact agree.readUnwinding
    | forEach => exact agree.readForEach
    | call =>
      show Repeats (readBody home .call _) (readBody home .call _)
      rw [readBody, readBody]
      exact repeats_bind agree.readClauseObject fun _ _ => repeats_refl
    | restrict => cases unordered
    | page _ | raw => exact repeats_of_error
  | node key => exact agree.readNode key
  | element isNodeDue => exact agree.readElement isNodeDue
  | label => exact agree.readLabel
  | projectionItem stage => exact agree.readProjectionItem stage _
  | sortItem => exact agree.readSortItem
  | conditions _ | condition _ | operand _ | properties => cases unordered
  | nodes | elements | items _ | values | text _ | names _ | flag _ | hop _ => exact repeats_of_error

end Cypher.Payload
