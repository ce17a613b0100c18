import Cypher.Proofs.PayloadObjects

/-!
# Clauses in payloads

The body of every clause is read field by field, and an object with one clause
is told by its one name, which stays the same when its body is another one.
-/

namespace Cypher.Payload

section Bodies

variable {home : AllocatorId} {form : Form} {name : String} {old new : Json}
  {fields fields' : Fields}

theorem carries_assignment (swapped : Swapped name old new fields fields') (moment : SetMoment)
    (member : (name, form) ∈ Form.table (.body (.assign moment))) :
    Carries (form.read home old) (form.read home new) (readAssignment moment (.object fields))
      (readAssignment moment (.object fields')) := by
  refine swapped.carries_readFields _ _ fun _ => ?_
  change (name, form) ∈ [_, _] at member
  simp only [List.mem_cons, List.not_mem_nil, or_false, Prod.mk.injEq] at member
  rcases member with ⟨rfl, rfl⟩ | ⟨rfl, rfl⟩
  · exact carries_first swapped.carries_requiredString
  · refine carries_behind (swapped.requiredString (by decide)) fun _ _ => ?_
    exact swapped.carries_required _ _ _

theorem carries_removal (swapped : Swapped name old new fields fields')
    (member : (name, form) ∈ Form.table (.body .remove)) :
    Carries (form.read home old) (form.read home new) (readRemoval (.object fields))
      (readRemoval (.object fields')) := by
  refine swapped.carries_readFields _ _ fun _ => ?_
  refine carries_behind (swapped.exactlyOne _ _) fun _ fits => ?_
  change (name, form) ∈ [_, _, _] at member
  simp only [List.mem_cons, List.not_mem_nil, or_false, Prod.mk.injEq] at member
  rcases member with ⟨rfl, rfl⟩ | ⟨rfl, rfl⟩ | ⟨rfl, rfl⟩
  · exact carries_first swapped.carries_requiredString
  · refine carries_behind (swapped.requiredString (by decide)) fun _ _ => ?_
    refine carries_behind (swapped.read? (by decide) _) fun labels read => ?_
    cases swapped.read?_of_alone (Fields.get?_of_exactlyOne fits) read
    exact carries_first (swapped.carries_read? _)
  · refine carries_behind (swapped.requiredString (by decide)) fun _ _ => ?_
    exact carries_first (swapped.carries_read? _)

theorem carries_deletion (swapped : Swapped name old new fields fields')
    (member : (name, form) ∈ Form.table (.body .delete)) :
    Carries (form.read home old) (form.read home new) (readDeletion (.object fields))
      (readDeletion (.object fields')) := by
  refine swapped.carries_readFields _ _ fun _ => ?_
  refine carries_behind (swapped.exactlyOne _ _) fun _ fits => ?_
  change (name, form) ∈ [_, _, _] at member
  simp only [List.mem_cons, List.not_mem_nil, or_false, Prod.mk.injEq] at member
  rcases member with ⟨rfl, rfl⟩ | ⟨rfl, rfl⟩ | ⟨rfl, rfl⟩
  · refine carries_behind (swapped.flag (by decide)) fun _ _ => ?_
    refine carries_behind (swapped.read? (by decide) _) fun literal read => ?_
    cases swapped.read?_of_alone (Fields.get?_of_exactlyOne fits) read
    exact carries_first (swapped.carries_read? _)
  · refine carries_behind (swapped.flag (by decide)) fun _ _ => ?_
    exact carries_first (swapped.carries_read? _)
  · exact carries_first swapped.carries_flag

theorem carries_stage (swapped : Swapped name old new fields fields') (stage : Stage)
    (member : (name, form) ∈ Form.table (.body (.project stage))) :
    Carries (form.read home old) (form.read home new) (readStage stage (.object fields))
      (readStage stage (.object fields')) := by
  refine swapped.carries_readFields _ _ fun _ => ?_
  change (name, form) ∈ [_, _] at member
  simp only [List.mem_cons, List.not_mem_nil, or_false, Prod.mk.injEq] at member
  rcases member with ⟨rfl, rfl⟩ | ⟨rfl, rfl⟩
  · exact swapped.carries_required _ _ _
  · refine carries_behind (swapped.required (by decide)) fun _ _ => ?_
    exact carries_behind rfl fun _ _ => carries_first swapped.carries_flag

/-- An identifier, and perhaps one of its properties. -/
theorem carries_reference {α : Type} (swapped : Swapped name old new fields fields')
    (member : (name, form) ∈ [("identifier", Form.text "identifier"), ("property", .text "property")])
    (next next' : String → Option String → Except Error α) :
    Carries (form.read home old) (form.read home new)
      (do
        let identifier ← fields.requiredString "identifier"
        let property ← fields.string? "property"
        next identifier property)
      (do
        let identifier ← fields'.requiredString "identifier"
        let property ← fields'.string? "property"
        next' identifier property) := by
  simp only [List.mem_cons, List.not_mem_nil, or_false, Prod.mk.injEq] at member
  rcases member with ⟨rfl, rfl⟩ | ⟨rfl, rfl⟩
  · exact carries_first swapped.carries_requiredString
  · refine carries_behind (swapped.requiredString (by decide)) fun _ _ => ?_
    exact carries_first (swapped.carries_read? _)

theorem carries_projectionItem (swapped : Swapped name old new fields fields') (key : String)
    (stage : Stage) (member : (name, form) ∈ Form.table (.projectionItem stage)) :
    Carries (form.read home old) (form.read home new) (readProjectionItem key (.object fields))
      (readProjectionItem key (.object fields')) := by
  refine swapped.carries_readFields _ _ fun _ => ?_
  rcases List.mem_append.mp (show (name, form) ∈
    [("identifier", Form.text "identifier"), ("property", .text "property")] ++
      [("alias", .text "alias")] from member) with reference | newName
  · exact carries_reference swapped reference _ _
  · cases List.mem_singleton.mp newName
    refine carries_behind (swapped.requiredString (by decide)) fun _ _ => ?_
    refine carries_behind (swapped.read? (by decide) _) fun _ _ => ?_
    exact carries_first (swapped.carries_read? _)

theorem carries_sortItem (swapped : Swapped name old new fields fields')
    (member : (name, form) ∈ Form.sortTable) :
    Carries (form.read home old) (form.read home new) (readSortItem (.object fields))
      (readSortItem (.object fields')) := by
  refine swapped.carries_readFields _ _ fun _ => ?_
  rcases List.mem_append.mp (show (name, form) ∈
    [("identifier", Form.text "identifier"), ("property", .text "property")] ++
      [("direction", .text "direction")] from member) with reference | direction
  · have different : "direction" ≠ name := by
      rintro rfl
      simp at reference
    refine carries_behind (swapped.read? different _) fun direction _ => ?_
    cases direction with
    | none => exact carries_reference swapped reference _ _
    | some name => exact carries_behind rfl fun _ _ => carries_reference swapped reference _ _
  · cases List.mem_singleton.mp direction
    exact carries_first (swapped.carries_read? _)

theorem readValues_bind {α : Type} (value : Json) (next : List Value → Except Error α) :
    readValues value >>= next = match value with
      | .array items => readEach (readValue "values") items >>= next
      | other => .error (unexpected "values" .array other) := by
  cases value <;> rfl

theorem carries_unwinding (swapped : Swapped name old new fields fields')
    (member : (name, form) ∈ Form.table (.body .unwind)) :
    Carries (form.read home old) (form.read home new) (readUnwinding (.object fields))
      (readUnwinding (.object fields')) := by
  refine swapped.carries_readFields _ _ fun _ => ?_
  refine carries_behind (swapped.exactlyOne _ _) fun _ fits => ?_
  change (name, form) ∈ [_, _, _] at member
  simp only [List.mem_cons, List.not_mem_nil, or_false, Prod.mk.injEq] at member
  rcases member with ⟨rfl, rfl⟩ | ⟨rfl, rfl⟩ | ⟨rfl, rfl⟩
  · refine carries_behind (swapped.requiredString (by decide)) fun _ _ => ?_
    exact carries_first (swapped.carries_read? _)
  · refine carries_behind (swapped.requiredString (by decide)) fun newName _ => ?_
    refine carries_behind (swapped.read? (by decide) _) fun value read => ?_
    cases swapped.read?_of_alone (Fields.get?_of_exactlyOne fits).symm read
    have carries := swapped.carries_required readValues
      (fun values => pure (Clause.unwind (.values values) newName))
      (fun values => pure (Clause.unwind (.values values) newName))
    simp only [readValues_bind] at carries
    exact carries
  · exact carries_first swapped.carries_requiredString

/-! ### Clauses inside clauses -/

theorem readLoopBody_eq (entries : Fields) :
    readLoopBody home entries = entries.required "body" >>= readLoop home := by
  unfold Fields.required Fields.get?
  induction entries with
  | nil => rw [readLoopBody, findNamed?]; rfl
  | cons entry rest ih =>
    obtain ⟨other, value⟩ := entry
    rw [readLoopBody, findNamed?]
    split
    · rfl
    · exact ih

theorem carries_forEach (swapped : Swapped name old new fields fields')
    (member : (name, form) ∈ Form.table (.body .forEach)) :
    Carries (form.read home old) (form.read home new) (readBody home .forEach (.object fields))
      (readBody home .forEach (.object fields')) := by
  rw [readBody, readBody, readLoopBody_eq, readLoopBody_eq]
  refine swapped.carries_checkFields fun _ => ?_
  change (name, form) ∈ [_, _, _] at member
  simp only [List.mem_cons, List.not_mem_nil, or_false, Prod.mk.injEq] at member
  rcases member with ⟨rfl, rfl⟩ | ⟨rfl, rfl⟩ | ⟨rfl, rfl⟩
  · exact carries_first swapped.carries_requiredString
  · refine carries_behind (swapped.requiredString (by decide)) fun _ _ => ?_
    exact carries_first swapped.carries_requiredString
  · refine carries_behind (swapped.requiredString (by decide)) fun _ _ => ?_
    refine carries_behind (swapped.requiredString (by decide)) fun _ _ => ?_
    rw [bind_assoc, bind_assoc]
    exact swapped.carries_required _ _ _

theorem ClauseKind.ofKey?_key : ∀ kind ∈ all, ofKey? kind.key = some kind := by
  decide +kernel

theorem ClauseKind.key_of_ofKey? {key : String} {kind : ClauseKind}
    (found : ofKey? key = some kind) : kind.key = key := by
  unfold ofKey? at found
  have same := List.find?_some found
  exact beq_iff_eq.mp same

/-- An object with one clause has no field but that of the clause. -/
theorem readKind_eq_ok {kind : ClauseKind} (read : readKind fields = .ok kind) :
    ∃ value, fields = [(kind.key, value)] ∧ ClauseKind.ofKey? kind.key = some kind := by
  unfold readKind at read
  split at read
  · cases read
  · next known =>
    split at read
    · next entry =>
      obtain ⟨key, value⟩ := entry
      cases told : ClauseKind.ofKey? key with
      | none => simp [told] at known
      | some kind' =>
        rw [told] at read
        cases read
        obtain rfl := ClauseKind.key_of_ofKey? told
        exact ⟨value, rfl, told⟩
    · cases read

theorem readKind_singleton {kind : ClauseKind} (known : ClauseKind.ofKey? kind.key = some kind)
    (value : Json) : readKind [(kind.key, value)] = .ok kind := by
  simp [readKind, known]

theorem readClauseObject_singleton {kind : ClauseKind}
    (known : ClauseKind.ofKey? kind.key = some kind) (value : Json) :
    readClauseObject home [(kind.key, value)] = readBody home kind value := by
  rw [readClauseObject, readKind_singleton known]
  rfl

theorem carries_clauseObject (swapped : Swapped name old new fields fields')
    (member : (name, form) ∈ Form.clauseTable) :
    Carries (form.read home old) (form.read home new) (readClauseObject home fields)
      (readClauseObject home fields') := by
  obtain ⟨kind, among, same⟩ := List.mem_map.mp member
  cases same
  intro clause read
  have whole := read
  rw [readClauseObject] at whole
  obtain ⟨found, told, -⟩ := bind_eq_ok whole
  obtain ⟨value, only, known⟩ := readKind_eq_ok told
  obtain ⟨key, rfl, rfl⟩ := swapped.singleton only
  -- the name tells the clause
  obtain rfl : kind = found := by
    rw [← key, ClauseKind.ofKey?_key kind among] at known
    exact Option.some.inj known
  subst only
  rw [readClauseObject_singleton known] at read ⊢
  exact carries_read clause read

end Bodies

end Cypher.Payload
