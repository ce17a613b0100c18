import Cypher.Proofs.PayloadForms

/-!
# Objects in payloads

Every field of an object that is accepted has been read. Two objects that differ
in the value of one field have the same fields, so all that is told from which
fields there are is the same for both, and so is what is read before that field.
-/

namespace Cypher.Payload

/-! ## Fields with another value -/

/-- The fields differ in the value of the one with that name, and only there. -/
structure Swapped (name : String) (old new : Json) (fields fields' : Fields) : Prop where
  here : fields.get? name = some old
  there : fields'.get? name = some new
  others : ∀ other, other ≠ name → fields'.get? other = fields.get? other
  names : fields'.map Prod.fst = fields.map Prod.fst

theorem swapped_append {name : String} {before : Fields} (first : ∀ entry ∈ before, entry.1 ≠ name)
    (old new : Json) (after : Fields) :
    Swapped name old new (before ++ (name, old) :: after) (before ++ (name, new) :: after) := by
  have found (value : Json) :
      Fields.get? (before ++ (name, value) :: after) name = some value := by
    unfold Fields.get?
    induction before with
    | nil => exact if_pos rfl
    | cons entry rest ih =>
      rw [List.forall_mem_cons] at first
      rw [List.cons_append, findNamed?, if_neg first.1, ih first.2]
  refine ⟨found old, found new, ?_, by simp⟩
  intro other different
  unfold Fields.get?
  clear first found
  induction before with
  | nil => rw [List.nil_append, List.nil_append, findNamed?, findNamed?, if_neg different.symm,
      if_neg different.symm]
  | cons entry rest ih => rw [List.cons_append, List.cons_append, findNamed?, findNamed?, ih]

theorem checkFields_eq_ok {allowed : List String} {fields : Fields} :
    checkFields allowed fields = .ok () ↔ fields.map Prod.fst ⊆ allowed := by
  unfold checkFields
  split
  · next field found =>
    have refused := List.find?_some found
    refine ⟨nofun, fun every => ?_⟩
    simp [every (List.mem_map_of_mem (List.mem_of_find?_eq_some found))] at refused
  · next none =>
    refine ⟨fun _ name member => ?_, fun _ => rfl⟩
    obtain ⟨field, among, rfl⟩ := List.mem_map.mp member
    simpa using List.find?_eq_none.mp none field among

theorem readFields_bind {α : Type} (key : String) (allowed : List String) (fields : Fields)
    (next : Fields → Except Error α) :
    readFields key allowed (.object fields) >>= next =
      checkFields allowed fields >>= fun _ => next fields := by
  show (checkFields allowed fields >>= _) >>= next = _
  rw [bind_assoc]
  rfl

/-- Something else is read first, and does not differ. -/
theorem carries_behind {α β : Type} {part part' : Except Error Unit} {first first' : Except Error α}
    {next next' : α → Except Error β} (same : first' = first)
    (carries : ∀ value, first = .ok value → Carries part part' (next value) (next' value)) :
    Carries part part' (first >>= next) (first' >>= next') :=
  carries_later fun value read => ⟨same.trans read, carries value read⟩

namespace Swapped

variable {name : String} {old new : Json} {fields fields' : Fields} {α : Type}

theorem has (swapped : Swapped name old new fields fields') (other : String) :
    fields'.has other = fields.has other := by
  unfold Fields.has
  by_cases same : other = name
  · rw [same, swapped.here, swapped.there]
    rfl
  · rw [swapped.others other same]

theorem mem (swapped : Swapped name old new fields fields') : name ∈ fields.map Prod.fst := by
  rw [← OrderedMap.findNamed?_isSome]
  exact Option.isSome_iff_exists.mpr ⟨old, swapped.here⟩

theorem checkFields (swapped : Swapped name old new fields fields') {allowed : List String}
    (fits : Payload.checkFields allowed fields = .ok ()) :
    Payload.checkFields allowed fields' = .ok () := by
  rw [checkFields_eq_ok] at fits ⊢
  rw [swapped.names]
  exact fits

theorem read? (swapped : Swapped name old new fields fields') {other : String}
    (different : other ≠ name) (read : Json → Except Error α) :
    fields'.read? read other = fields.read? read other := by
  unfold Fields.read?
  rw [swapped.others other different]

theorem required (swapped : Swapped name old new fields fields') {other : String}
    (different : other ≠ name) : fields'.required other = fields.required other := by
  unfold Fields.required
  rw [swapped.others other different]

theorem requiredString (swapped : Swapped name old new fields fields') {other : String}
    (different : other ≠ name) : fields'.requiredString other = fields.requiredString other := by
  unfold Fields.requiredString Fields.string?
  rw [swapped.read? different]

theorem flag (swapped : Swapped name old new fields fields') {other : String}
    (different : other ≠ name) : fields'.flag other = fields.flag other := by
  unfold Fields.flag
  rw [swapped.others other different]

theorem notBoth (swapped : Swapped name old new fields fields') (first second : String) :
    fields'.notBoth first second = fields.notBoth first second := by
  unfold Fields.notBoth
  rw [swapped.has, swapped.has]

theorem exactlyOne (swapped : Swapped name old new fields fields') (first second : String) :
    fields'.exactlyOne first second = fields.exactlyOne first second := by
  unfold Fields.exactlyOne
  rw [swapped.notBoth, swapped.has, swapped.has]

theorem readFilter (swapped : Swapped name old new fields fields') (first : "where" ≠ name)
    (second : "properties" ≠ name) : Payload.readFilter fields' = Payload.readFilter fields := by
  unfold Payload.readFilter
  rw [swapped.notBoth, swapped.others _ first, swapped.others _ second]

/-- The field is read. -/
theorem carries_read? (swapped : Swapped name old new fields fields')
    (read : Json → Except Error α) :
    Carries (passed (read old)) (passed (read new)) (fields.read? read name)
      (fields'.read? read name) := by
  unfold Fields.read?
  rw [swapped.here, swapped.there]
  exact carries_map carries_read

theorem carries_requiredString (swapped : Swapped name old new fields fields') :
    Carries (passed (readString name old)) (passed (readString name new))
      (fields.requiredString name) (fields'.requiredString name) :=
  carries_first (swapped.carries_read? _)

theorem carries_required {β : Type} (swapped : Swapped name old new fields fields')
    (read : Json → Except Error α) (next next' : α → Except Error β) :
    Carries (passed (read old)) (passed (read new))
      (fields.required name >>= fun value => read value >>= next)
      (fields'.required name >>= fun value => read value >>= next') := by
  unfold Fields.required
  rw [swapped.here, swapped.there]
  show Carries _ _ (read old >>= next) (read new >>= next')
  exact carries_first carries_read

/-- The field is a list that is read item by item. -/
theorem carries_requiredList {β γ : Type} (swapped : Swapped name old new fields fields')
    (list : Json → Except Error α) (read : α → Except Error β) (next : β → Except Error γ) :
    Carries (passed (list old >>= read)) (passed (list new >>= read))
      (fields.required name >>= fun value => list value >>= fun items => read items >>= next)
      (fields'.required name >>= fun value => list value >>= fun items => read items >>= next) := by
  have carries := swapped.carries_required (fun value => list value >>= read) next next
  simpa only [bind_assoc] using carries

theorem carries_flag (swapped : Swapped name old new fields fields') :
    Carries (passed (readFlag name old)) (passed (readFlag name new)) (fields.flag name)
      (fields'.flag name) := by
  have flagged {fields : Fields} {value : Json} (found : fields.get? name = some value) :
      fields.flag name = readFlag name value := by
    unfold Fields.flag
    rw [found]
    cases value <;> rfl
  rw [flagged swapped.here, flagged swapped.there]
  exact carries_read

/-- The fields are known to be allowed before any of them is read. -/
theorem carries_checkFields (swapped : Swapped name old new fields fields') {allowed : List String}
    {part part' : Except Error Unit} {next next' : Except Error α}
    (carries : name ∈ allowed → Carries part part' next next') :
    Carries part part' (Payload.checkFields allowed fields >>= fun _ => next)
      (Payload.checkFields allowed fields' >>= fun _ => next') := by
  refine carries_later fun _ fits => ⟨swapped.checkFields fits, carries ?_⟩
  exact checkFields_eq_ok.mp fits swapped.mem

theorem carries_readFields (swapped : Swapped name old new fields fields') (key : String)
    (allowed : List String) {part part' : Except Error Unit} {next : Fields → Except Error α}
    (carries : name ∈ allowed → Carries part part' (next fields) (next fields')) :
    Carries part part' (readFields key allowed (.object fields) >>= next)
      (readFields key allowed (.object fields') >>= next) := by
  rw [readFields_bind, readFields_bind]
  exact swapped.carries_checkFields carries

end Swapped

theorem Fields.has_of_get? {fields : Fields} {name : String} {value : Json}
    (found : fields.get? name = some value) : fields.has name = true := by
  rw [has, found]
  rfl

namespace Fields

/-- Of two fields that exclude each other one is not there. -/
theorem get?_of_notBoth {fields : Fields} {first second : String}
    (fits : fields.notBoth first second = .ok ()) :
    fields.get? first = none ∨ fields.get? second = none := by
  unfold notBoth has at fits
  cases one : fields.get? first with
  | none => exact .inl rfl
  | some value =>
    cases other : fields.get? second with
    | none => exact .inr rfl
    | some value' =>
      rw [one, other] at fits
      cases fits

theorem get?_of_exactlyOne {fields : Fields} {first second : String}
    (fits : fields.exactlyOne first second = .ok ()) :
    fields.get? first = none ∨ fields.get? second = none := by
  obtain ⟨_, both, -⟩ := bind_eq_ok fits
  exact get?_of_notBoth both

end Fields

namespace Swapped

variable {name : String} {old new : Json} {fields fields' : Fields}

theorem get?_of_alone (swapped : Swapped name old new fields fields') {other : String}
    (alone : fields.get? name = none ∨ fields.get? other = none) : fields.get? other = none := by
  rcases alone with absent | absent
  · rw [swapped.here] at absent
    cases absent
  · exact absent

/-- The field that excludes this one has not been read. -/
theorem read?_of_alone {α : Type} (swapped : Swapped name old new fields fields') {other : String}
    (alone : fields.get? name = none ∨ fields.get? other = none) {read : Json → Except Error α}
    {value : Option α} (found : fields.read? read other = .ok value) : value = none := by
  unfold Fields.read? at found
  rw [swapped.get?_of_alone alone] at found
  cases found
  rfl

end Swapped

/-! ## Objects -/

section Objects

variable {home : AllocatorId} {form : Form} {name : String} {old new : Json}
  {fields fields' : Fields}

theorem carries_filter (swapped : Swapped name old new fields fields')
    (member : (name, form) ∈ [("where", Form.conditions "where"), ("properties", .properties)]) :
    Carries (form.read home old) (form.read home new) (readFilter fields) (readFilter fields') := by
  unfold readFilter
  refine carries_behind (swapped.notBoth _ _) fun _ fits => ?_
  simp only [List.mem_cons, List.not_mem_nil, or_false, Prod.mk.injEq] at member
  rcases member with ⟨rfl, rfl⟩ | ⟨rfl, rfl⟩
  · rw [swapped.here, swapped.there]
    exact carries_first carries_read
  · -- there are no conditions beside the properties
    have none := swapped.get?_of_alone (Fields.get?_of_notBoth fits).symm
    rw [swapped.others "where" (by decide), none, swapped.here, swapped.there]
    exact carries_first carries_read

theorem carries_nodeFields (swapped : Swapped name old new fields fields')
    (member : (name, form) ∈ Form.nodeTable) :
    Carries (form.read home old) (form.read home new) (readNodeFields fields)
      (readNodeFields fields') := by
  unfold readNodeFields
  simp only [Form.nodeTable, List.mem_cons, List.not_mem_nil, or_false, Prod.mk.injEq] at member
  rcases member with ⟨rfl, rfl⟩ | ⟨rfl, rfl⟩ | filter
  · exact carries_first (swapped.carries_read? _)
  · refine carries_behind (swapped.read? (by decide) _) fun _ _ => ?_
    exact carries_first (swapped.carries_read? _)
  · have different : "identifier" ≠ name ∧ "label" ≠ name := by
      rcases filter with ⟨rfl, -⟩ | ⟨rfl, -⟩ <;> decide
    refine carries_behind (swapped.read? different.1 _) fun _ _ => ?_
    refine carries_behind (swapped.read? different.2 _) fun _ _ => ?_
    refine carries_first (carries_filter swapped ?_)
    simpa using filter

theorem carries_node (swapped : Swapped name old new fields fields') (key : String)
    (member : name ∈ nodeFields → (name, form) ∈ Form.nodeTable) :
    Carries (form.read home old) (form.read home new) (readNode key (.object fields))
      (readNode key (.object fields')) :=
  swapped.carries_readFields _ _ fun allowed =>
    carries_first (carries_nodeFields swapped (member allowed))

/-! ### Patterns -/

theorem readShape?_eq_none (read : readShape? fields = .ok none) :
    shapeFields.filter fields.has = [] := by
  unfold readShape? at read
  split at read
  · next nothing => exact nothing
  · split at read
    · obtain ⟨_, -, ⟨⟩⟩ := bind_eq_ok read
    · cases read
  · obtain ⟨_, -, ⟨⟩⟩ := bind_eq_ok read

theorem readShape?_eq_some {shape : String} (read : readShape? fields = .ok (some shape)) :
    shapeFields.filter fields.has = [shape] ∧ nodeFields.find? fields.has = none := by
  unfold readShape? at read
  split at read
  · cases read
  · next only =>
    split at read
    · obtain ⟨_, -, ⟨⟩⟩ := bind_eq_ok read
    · next none =>
      cases read
      exact ⟨only, none⟩
  · obtain ⟨_, -, ⟨⟩⟩ := bind_eq_ok read

theorem readShape?_of_filter {shape : String} (only : shapeFields.filter fields.has = [shape])
    (none : nodeFields.find? fields.has = none) : readShape? fields = .ok (some shape) := by
  unfold readShape?
  rw [only, none]

/-- The shape of a pattern is told from the names of its fields. -/
theorem readShape?_of_has (same : fields'.has = fields.has) {shape : Option String}
    (read : readShape? fields = .ok shape) : readShape? fields' = .ok shape := by
  cases shape with
  | none =>
    have nothing := readShape?_eq_none read
    unfold readShape?
    rw [same, nothing]
  | some shape =>
    obtain ⟨only, none⟩ := readShape?_eq_some read
    exact readShape?_of_filter (same ▸ only) (same ▸ none)

theorem mem_nodeFields (member : (name, form) ∈ Form.nodeTable) : name ∈ nodeFields :=
  List.mem_map_of_mem (f := Prod.fst) member

theorem mem_shapeFields (member : (name, form) ∈ Form.shapeTable) : name ∈ shapeFields :=
  List.mem_map_of_mem (f := Prod.fst) member

theorem carries_patternFields (swapped : Swapped name old new fields fields') (use : PatternUse)
    (member : (name, form) ∈ Form.nodeTable ++ Form.shapeTable) :
    Carries (form.read home old) (form.read home new) (readPatternFields use fields)
      (readPatternFields use fields') := by
  have there : fields.has name = true := Fields.has_of_get? swapped.here
  unfold readPatternFields
  refine carries_later fun shape read => ⟨readShape?_of_has (funext swapped.has) read, ?_⟩
  rcases List.mem_append.mp member with node | shaped
  · cases shape with
    | none => exact carries_first (carries_nodeFields swapped node)
    | some shape =>
      have absent := List.find?_eq_none.mp (readShape?_eq_some read).2 name (mem_nodeFields node)
      exact absurd there absent
  · have among : name ∈ shapeFields.filter fields.has :=
      List.mem_filter.mpr ⟨mem_shapeFields shaped, there⟩
    cases shape with
    | none =>
      rw [readShape?_eq_none read] at among
      cases among
    | some shape =>
      rw [(readShape?_eq_some read).1, List.mem_singleton] at among
      subst among
      simp only [Form.shapeTable, List.mem_cons, List.not_mem_nil, or_false, Prod.mk.injEq] at shaped
      rcases shaped with ⟨rfl, rfl⟩ | ⟨rfl, rfl⟩ | ⟨rfl, rfl⟩
      · exact carries_first swapped.carries_requiredString
      · exact swapped.carries_requiredList (readArray "multiple") (readEach (readNode "multiple")) _
      · exact swapped.carries_requiredList (readArray "related") (readElements true) _

theorem carries_creation (swapped : Swapped name old new fields fields') (use : PatternUse)
    (member : (name, form) ∈ Form.nodeTable ++ Form.shapeTable) :
    Carries (form.read home old) (form.read home new) (readCreation use (.object fields))
      (readCreation use (.object fields')) :=
  swapped.carries_readFields _ _ fun _ => carries_patternFields swapped use member

theorem carries_match (swapped : Swapped name old new fields fields')
    (member : (name, form) ∈ Form.nodeTable ++ Form.shapeTable ++
      [("optional", Form.flag "optional")]) :
    Carries (form.read home old) (form.read home new) (readMatch (.object fields))
      (readMatch (.object fields')) := by
  refine swapped.carries_readFields _ _ fun _ => ?_
  rcases List.mem_append.mp member with pattern | optional
  · have different : "optional" ≠ name := by
      rintro rfl
      have among : "optional" ∈ (Form.nodeTable ++ Form.shapeTable).map Prod.fst :=
        List.mem_map_of_mem (f := Prod.fst) pattern
      exact absurd among (by decide)
    exact carries_behind (swapped.flag different) fun _ _ => carries_patternFields swapped _ pattern
  · cases List.mem_singleton.mp optional
    exact carries_first swapped.carries_flag

theorem carries_label (swapped : Swapped name old new fields fields')
    (member : (name, form) ∈ Form.table .label) :
    Carries (form.read home old) (form.read home new) (readLabel (.object fields))
      (readLabel (.object fields')) := by
  refine swapped.carries_readFields _ _ fun _ => ?_
  refine carries_behind (swapped.exactlyOne _ _) fun _ fits => ?_
  change (name, form) ∈ [_, _] at member
  simp only [List.mem_cons, List.not_mem_nil, or_false, Prod.mk.injEq] at member
  rcases member with ⟨rfl, rfl⟩ | ⟨rfl, rfl⟩
  · -- when all of some labels are meant, there are none of which any is
    refine carries_behind (swapped.read? (by decide) _) fun names read => ?_
    cases swapped.read?_of_alone (Fields.get?_of_exactlyOne fits) read
    exact carries_first (swapped.carries_read? _)
  · exact carries_first (swapped.carries_read? _)

/-- What is read behind the direction, the identifier and the types of a relationship. -/
theorem carries_bounds (swapped : Swapped name old new fields fields')
    (member : (name, form) ∈ [("where", Form.conditions "where"), ("properties", .properties),
      ("minHops", .hop "minHops"), ("maxHops", .hop "maxHops")])
    (make : Filter → Option HopBound → Option HopBound → RelationshipPattern) :
    Carries (form.read home old) (form.read home new)
      (do
        let filter ← readFilter fields
        let min ← fields.read? (readHop "minHops") "minHops"
        let max ← fields.read? (readHop "maxHops") "maxHops"
        return make filter min max)
      (do
        let filter ← readFilter fields'
        let min ← fields'.read? (readHop "minHops") "minHops"
        let max ← fields'.read? (readHop "maxHops") "maxHops"
        return make filter min max) := by
  rcases List.mem_append.mp (show (name, form) ∈
    [("where", Form.conditions "where"), ("properties", .properties)] ++
      [("minHops", Form.hop "minHops"), ("maxHops", .hop "maxHops")] from member) with filter | hops
  · exact carries_first (carries_filter swapped filter)
  · have different : "where" ≠ name ∧ "properties" ≠ name := by
      simp only [List.mem_cons, List.not_mem_nil, or_false, Prod.mk.injEq] at hops
      rcases hops with ⟨rfl, -⟩ | ⟨rfl, -⟩ <;> decide
    refine carries_behind (swapped.readFilter different.1 different.2) fun _ _ => ?_
    simp only [List.mem_cons, List.not_mem_nil, or_false, Prod.mk.injEq] at hops
    rcases hops with ⟨rfl, rfl⟩ | ⟨rfl, rfl⟩
    · exact carries_first (swapped.carries_read? _)
    · refine carries_behind (swapped.read? (by decide) _) fun _ _ => ?_
      exact carries_first (swapped.carries_read? _)

theorem carries_relationship (swapped : Swapped name old new fields fields') (key : String)
    (member : name ∈ relationshipFields → (name, form) ∈ Form.relationshipTable) :
    Carries (form.read home old) (form.read home new) (readRelationship key (.object fields))
      (readRelationship key (.object fields')) := by
  refine swapped.carries_readFields _ _ fun allowed => ?_
  have direction (different : "direction" ≠ name) :
      readDirection fields' = readDirection fields := by
    unfold readDirection
    rw [swapped.requiredString different]
  rcases List.mem_append.mp (show (name, form) ∈ [("direction", Form.text "direction"),
    ("identifier", .text "identifier"), ("name", .names "name")] ++
    [("where", .conditions "where"), ("properties", .properties), ("minHops", .hop "minHops"),
      ("maxHops", .hop "maxHops")] from member allowed) with naming | behind
  · simp only [List.mem_cons, List.not_mem_nil, or_false, Prod.mk.injEq] at naming
    rcases naming with ⟨rfl, rfl⟩ | ⟨rfl, rfl⟩ | ⟨rfl, rfl⟩
    · exact carries_first (carries_first swapped.carries_requiredString)
    · refine carries_behind (direction (by decide)) fun _ _ => ?_
      exact carries_first (swapped.carries_read? _)
    · refine carries_behind (direction (by decide)) fun _ _ => ?_
      refine carries_behind (swapped.read? (by decide) _) fun _ _ => ?_
      exact carries_first (swapped.carries_read? _)
  · have different : "direction" ≠ name ∧ "identifier" ≠ name ∧ "name" ≠ name := by
      simp only [List.mem_cons, List.not_mem_nil, or_false, Prod.mk.injEq] at behind
      rcases behind with ⟨rfl, -⟩ | ⟨rfl, -⟩ | ⟨rfl, -⟩ | ⟨rfl, -⟩ <;> decide
    refine carries_behind (direction different.1) fun _ _ => ?_
    refine carries_behind (swapped.read? different.2.1 _) fun _ _ => ?_
    refine carries_behind (swapped.read? different.2.2 _) fun names _ => ?_
    cases names with
    | none => exact carries_bounds swapped behind _
    | some names => exact carries_behind rfl fun types _ => carries_bounds swapped behind _

/-- An element of a path is a relationship when it has a direction, else a node. -/
theorem carries_element (swapped : Swapped name old new fields fields') (isNodeDue : Bool)
    (member : (name, form) ∈ Form.nodeTable ++ Form.relationshipTable) :
    Carries (form.read home old) (form.read home new) (readElement isNodeDue (.object fields))
      (readElement isNodeDue (.object fields')) := by
  have told : (findNamed? "direction" fields').isSome = (findNamed? "direction" fields).isSome :=
    swapped.has "direction"
  -- the fields that both have in common are of the same forms
  have node (allowed : name ∈ nodeFields) : (name, form) ∈ Form.nodeTable := by
    rcases List.mem_append.mp member with node | relationship
    · exact node
    · simp only [Form.relationshipTable, List.mem_cons, List.not_mem_nil, or_false,
        Prod.mk.injEq] at relationship
      rcases relationship with ⟨rfl, rfl⟩ | ⟨rfl, rfl⟩ | ⟨rfl, rfl⟩ | ⟨rfl, rfl⟩ | ⟨rfl, rfl⟩ |
        ⟨rfl, rfl⟩ | ⟨rfl, rfl⟩ <;> simp [nodeFields, Form.nodeTable] at allowed ⊢
  have relationship (allowed : name ∈ relationshipFields) :
      (name, form) ∈ Form.relationshipTable := by
    rcases List.mem_append.mp member with node | relationship
    · simp only [Form.nodeTable, List.mem_cons, List.not_mem_nil, or_false, Prod.mk.injEq] at node
      rcases node with ⟨rfl, rfl⟩ | ⟨rfl, rfl⟩ | ⟨rfl, rfl⟩ | ⟨rfl, rfl⟩ <;>
        simp [relationshipFields, Form.relationshipTable] at allowed ⊢
    · exact relationship
  rw [readElement, readElement, told]
  split
  · exact carries_first (carries_relationship swapped _ relationship)
  · exact carries_first (carries_node swapped _ node)

/-! ### Fields that stand alone -/

/-- A field that is the only one. -/
theorem Swapped.singleton {key : String} {value : Json} (swapped : Swapped name old new fields fields')
    (only : fields = [(key, value)]) : name = key ∧ old = value ∧ fields' = [(key, new)] := by
  subst only
  have same : name = key := by simpa using swapped.mem
  subst same
  have here : some value = some old := (if_pos rfl).symm.trans swapped.here
  have names := swapped.names
  obtain ⟨⟨other, value'⟩, rfl⟩ := List.length_eq_one_iff.mp
    ((List.length_map (f := Prod.fst)).symm.trans (congrArg List.length names))
  obtain rfl : other = name := by simpa using names
  have there : some value' = some new := (if_pos rfl).symm.trans swapped.there
  cases here
  cases there
  exact ⟨rfl, rfl, rfl⟩

theorem readOperand_object {key : String} {operand : Operand}
    (read : readOperand key (.object fields) = .ok operand) :
    ∃ text, fields = [(literalKey, text)] := by
  match fields with
  | [(name, text)] =>
    by_cases same : name = literalKey
    · exact ⟨text, same ▸ rfl⟩
    · rw [readOperand, if_neg same] at read
      cases read
  | [] => cases read
  | _ :: _ :: _ => cases read

theorem readOperand_literal (key : String) (text : Json) :
    readOperand key (.object [(literalKey, text)]) = (readString literalKey text).map .literal := by
  rw [readOperand, if_pos rfl]

theorem operator_key_ne_literal (operator : Operator) : operator.key ≠ literalKey := by
  cases operator <;> decide +kernel

end Objects

end Cypher.Payload
