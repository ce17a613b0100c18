import Cypher.Proofs.Atomicity
import Cypher.Proofs.ClauseObjects
import Cypher.Proofs.Surroundings

/-!
# Payloads are read strictly

A part that cannot be read makes the whole payload unreadable, for the same
reason and however deep the part is. An object cannot be read when it has a field
that nothing knows, and null cannot be read in the place of anything but data.
All that is in a payload that is accepted is of some form, so nothing in it is
passed over, and a payload that is refused adds no clause.
-/

namespace Cypher.Payload

/-! ## Lists -/

section Lists

variable {old new : Json}

theorem spreads_carries (part part' : Except Error Unit) : Spreads (Carries part part') where
  assuming only result read := only result read result read
  first _ := carries_first
  later rest := carries_later fun value read => ⟨read, rest value⟩

theorem readEach_ok {α : Type} {read : Json → Except Error α} {items : List Json}
    (every : ∀ item ∈ items, ∃ value, read item = .ok value) :
    ∃ values, readEach read items = .ok values := by
  induction items with
  | nil => exact ⟨[], rfl⟩
  | cons item rest ih =>
    rw [List.forall_mem_cons] at every
    obtain ⟨value, first⟩ := every.1
    obtain ⟨values, later⟩ := ih every.2
    refine ⟨value :: values, ?_⟩
    rw [readEach, first, later]
    rfl

/-- Identifiers alone are items as well. -/
theorem passed_readProjection (key : String) (items : List Json) :
    passed (readProjection key items) = passed (readEach (readProjectionItem key) items) := by
  unfold readProjection
  split
  · next strings =>
    rw [List.all_eq_true] at strings
    have texts (item : Json) (member : item ∈ items) : ∃ text, item = .string text := by
      cases item with
      | string text => exact ⟨text, rfl⟩
      | _ => cases strings _ member
    obtain ⟨names, read⟩ : ∃ names, readEach (readString key) items = .ok names :=
      readEach_ok fun item member => by
        obtain ⟨text, rfl⟩ := texts item member
        exact ⟨text, rfl⟩
    obtain ⟨projected, read'⟩ : ∃ projected, readEach (readProjectionItem key) items = .ok projected :=
      readEach_ok fun item member => by
        obtain ⟨text, rfl⟩ := texts item member
        exact ⟨⟨text, none, none⟩, rfl⟩
    rw [read, read']
    rfl
  · cases readEach (readProjectionItem key) items <;> rfl

theorem carries_projection {part part' : Except Error Unit} (key : String) (before after : List Json)
    (carries : Carries part part' (readProjectionItem key old) (readProjectionItem key new)) :
    Carries part part' (readProjection key (before ++ old :: after))
      (readProjection key (before ++ new :: after)) := by
  refine carries_of_passed ?_
  rw [passed_readProjection, passed_readProjection]
  exact carries_passed ((spreads_carries _ _).readEach before after carries)

end Lists

/-! ## Parts of parts -/

section Parts

variable {home : AllocatorId} {outer middle inner : Form} {name : String} {old new : Json}

theorem carries_field {before after : Fields} (member : (name, middle) ∈ outer.table)
    (first : ∀ entry ∈ before, entry.1 ≠ name) :
    Carries (middle.read home old) (middle.read home new)
      (outer.read home (.object (before ++ (name, old) :: after)))
      (outer.read home (.object (before ++ (name, new) :: after))) := by
  have swapped := swapped_append first old new after
  cases outer with
  | clauses => exact carries_passed (carries_first (carries_clauseObject swapped member))
  | clause => exact carries_passed (carries_clauseObject swapped member)
  | loopBody => exact carries_passed (carries_first (carries_clauseObject swapped member))
  | body kind =>
    refine carries_passed ?_
    cases kind with
    | find => exact carries_match swapped member
    | create use => exact carries_creation swapped use member
    | assign moment => exact carries_assignment swapped moment member
    | remove => exact carries_removal swapped member
    | delete => exact carries_deletion swapped member
    | project stage => exact carries_stage swapped stage member
    | sort => exact carries_first (carries_sortItem swapped member)
    | unwind => exact carries_unwinding swapped member
    | forEach => exact carries_forEach swapped member
    | call =>
      rw [readBody, readBody]
      exact carries_first (carries_clauseObject swapped member)
    | page _ => cases member
    | restrict => cases member
    | raw => cases member
  | node key => exact carries_passed (carries_node swapped key fun _ => member)
  | element isNodeDue => exact carries_passed (carries_element swapped isNodeDue member)
  | label => exact carries_passed (carries_label swapped member)
  | condition property =>
    exact carries_passed ((spreads_carries _ _).condition first property member carries_result)
  | operand key =>
    exact carries_passed ((spreads_carries _ _).operand swapped key member carries_result)
  | projectionItem stage => exact carries_passed (carries_projectionItem swapped _ stage member)
  | sortItem => exact carries_passed (carries_sortItem swapped member)
  | nodes | elements | conditions _ | properties | items _ | values | text _ | names _ | flag _
  | hop _ => cases member

theorem carries_entry {before after : Fields} (there : outer.entry? name = some middle) :
    Carries (middle.read home old) (middle.read home new)
      (outer.read home (.object (before ++ (name, old) :: after)))
      (outer.read home (.object (before ++ (name, new) :: after))) :=
  carries_of_result ((spreads_carries _ _).entry there carries_result)

theorem carries_item {before after : List Json} (there : outer.item? before.length = some middle) :
    Carries (middle.read home old) (middle.read home new)
      (outer.read home (.array (before ++ old :: after)))
      (outer.read home (.array (before ++ new :: after))) :=
  carries_of_result
    ((spreads_carries _ _).item there (fun key => carries_projection key before after) carries_result)

/-- What cannot be read spoils all that it is a part of. -/
theorem Within.carries {part part' : Json} (within : Within outer old new inner part part') :
    Carries (inner.read home part) (inner.read home part') (outer.read home old)
      (outer.read home new) := by
  induction within with
  | here => exact carries_refl
  | field member first _ ih => exact ih.trans (carries_field member first)
  | entry there _ ih => exact ih.trans (carries_entry there)
  | item there _ ih => exact ih.trans (carries_item there)

end Parts

/-! ## Fields that nothing knows -/

/-- No object of a known form has a field of that name. -/
def Unknown (key : String) : Prop := ∀ form : Form, key ∉ form.table.map Prod.fst

/-- What is blamed for a field that is not known: the field, or what text that is written as it is
stands for. -/
def Form.blamed (entries : Fields) (key : String) : Form → String
  | operand name => name
  | condition property => if entries.has literalKey then property else key
  | _ => key

/-- That name is blamed for something that cannot be read. -/
def Blames {α : Type} (blamed : String) (result : Except Error α) : Prop :=
  ∃ expected found, result = .error (.shape blamed expected found)

/-- The whole can be read, but not the other one, for which that name is blamed. -/
def Refuses {α : Type} (blamed : String) (whole whole' : Except Error α) : Prop :=
  ∀ result, whole = .ok result → Blames blamed whole'

section Refusals

variable {α β : Type} {blamed : String} {whole whole' : Except Error α}

theorem Blames.bind (refused : Blames blamed whole) (next : α → Except Error β) :
    Blames blamed (whole >>= next) := by
  obtain ⟨expected, found, failed⟩ := refused
  rw [failed]
  exact ⟨expected, found, rfl⟩

theorem Refuses.bind (refuses : Refuses blamed whole whole') (next next' : α → Except Error β) :
    Refuses blamed (whole >>= next) (whole' >>= next') := by
  intro result read
  obtain ⟨value, first, -⟩ := bind_eq_ok read
  exact (refuses value first).bind next'

theorem Refuses.map (refuses : Refuses blamed whole whole') (make : α → β) :
    Refuses blamed (whole.map make) (whole'.map make) := by
  intro result read
  obtain ⟨value, first, -⟩ := map_eq_ok read
  obtain ⟨expected, found, failed⟩ := refuses value first
  rw [failed]
  exact ⟨expected, found, rfl⟩

theorem refuses_of_error {error : Error} (failed : whole = .error error) :
    Refuses blamed whole whole' := by
  rw [failed]
  exact nofun

/-- The error of a part is the error of the whole. -/
theorem Carries.blames {part part' : Except Error Unit} (carries : Carries part part' whole whole')
    {result : α} (read : whole = .ok result) (refused : Blames blamed part') :
    Blames blamed whole' := by
  obtain ⟨expected, found, failed⟩ := refused
  exact ⟨expected, found, (carries result read).2 _ failed⟩

end Refusals

section Strays

variable {home : AllocatorId} {before after : Fields} {key : String} {value : Json} {α : Type}

theorem refuses_checkFields {allowed : List String} (stray : key ∉ allowed) :
    Refuses key (checkFields allowed (before ++ after))
      (checkFields allowed (before ++ (key, value) :: after)) := by
  intro _ fits
  rw [checkFields_eq_ok, List.map_append, List.append_subset] at fits
  have none : before.find? (fun field => !allowed.contains field.1) = none := by
    rw [List.find?_eq_none]
    intro field member
    simpa using fits.1 (List.mem_map_of_mem member)
  unfold checkFields
  rw [List.find?_append, none, Option.none_or, List.find?_cons_of_pos (by simpa using stray)]
  exact ⟨_, _, rfl⟩

theorem refuses_readFields {name : String} {allowed : List String}
    {next : Fields → Except Error α} (stray : key ∉ allowed) :
    Refuses key (readFields name allowed (.object (before ++ after)) >>= next)
      (readFields name allowed (.object (before ++ (key, value) :: after)) >>= next) := by
  rw [readFields_bind, readFields_bind]
  exact (refuses_checkFields stray).bind _ _

theorem mem_clauseKeys {kind : ClauseKind} (found : ClauseKind.ofKey? key = some kind) :
    key ∈ Form.clauseTable.map Prod.fst := by
  rw [← ClauseKind.key_of_ofKey? found, Form.clauseTable, List.map_map]
  exact List.mem_map_of_mem (List.mem_of_find?_eq_some found)

theorem mem_operatorKeys {operator : Operator} (found : Operator.ofKey? key = some operator) :
    key ∈ Operator.all.map Operator.key := by
  unfold Operator.ofKey? at found
  have same := List.find?_some found
  rw [beq_iff_eq] at same
  exact same ▸ List.mem_map_of_mem (List.mem_of_find?_eq_some found)

theorem refuses_clauseObject (stray : key ∉ Form.clauseTable.map Prod.fst) :
    Refuses key (readClauseObject home (before ++ after))
      (readClauseObject home (before ++ (key, value) :: after)) := by
  rw [readClauseObject, readClauseObject]
  refine Refuses.bind (fun kind read => ?_) _ _
  obtain ⟨body, only, known⟩ := readKind_eq_ok read
  have unknown : ClauseKind.ofKey? key = none := by
    rw [Option.eq_none_iff_forall_ne_some]
    exact fun kind found => stray (mem_clauseKeys found)
  have none : before.find? (fun entry => (ClauseKind.ofKey? entry.1).isNone) = none := by
    rw [List.find?_eq_none]
    intro entry member
    have same : entry = (kind.key, body) := by
      have among : entry ∈ before ++ after := List.mem_append_left after member
      rw [only] at among
      exact List.mem_singleton.mp among
    rw [same, known]
    simp
  unfold readKind
  rw [List.find?_append, none, Option.none_or, List.find?_cons_of_pos (by rw [unknown]; rfl)]
  exact ⟨_, _, rfl⟩

theorem has_stray {other : String} (different : other ≠ key) :
    Fields.has (before ++ (key, value) :: after) other = Fields.has (before ++ after) other := by
  unfold Fields.has Fields.get?
  rw [Bool.eq_iff_iff, OrderedMap.findNamed?_isSome, OrderedMap.findNamed?_isSome]
  simp [different]

theorem Unknown.ne_of_mem {form : Form} {other : String} (unknown : Unknown key)
    (known : other ∈ form.table.map Prod.fst) : other ≠ key := by
  rintro rfl
  exact unknown form known

theorem refuses_element (isNodeDue : Bool) (unknown : Unknown key) :
    Refuses key (readElement isNodeDue (.object (before ++ after)))
      (readElement isNodeDue (.object (before ++ (key, value) :: after))) := by
  have told : (findNamed? "direction" (before ++ (key, value) :: after)).isSome =
      (findNamed? "direction" (before ++ after)).isSome :=
    has_stray (unknown.ne_of_mem (show "direction" ∈ (Form.element true).table.map Prod.fst
      by decide))
  have stray := unknown (.element isNodeDue)
  rw [Form.table, List.map_append, List.mem_append, not_or] at stray
  rw [readElement, readElement, told]
  split
  · exact (refuses_readFields stray.2).bind _ _
  · exact Refuses.bind (refuses_readFields stray.1) _ _

theorem refuses_readEach {item : String × Json} {read : String × Json → Except Error α}
    {blamed : String} (refused : Blames blamed (read item)) :
    Refuses blamed (readEach read (before ++ after)) (readEach read (before ++ item :: after)) := by
  induction before with
  | nil =>
    intro _ _
    exact refused.bind _
  | cons entry rest ih =>
    rw [List.cons_append, List.cons_append, readEach, readEach]
    cases read entry with
    | error error => exact refuses_of_error rfl
    | ok first => exact ih.bind _ _

/-- Text that is written as it is stands alone. -/
theorem refuses_operand (name : String) :
    Refuses name (readOperand name (.object (before ++ after)))
      (readOperand name (.object (before ++ (key, value) :: after))) := by
  intro operand read
  obtain ⟨text, only⟩ := readOperand_object read
  rcases before with - | ⟨entry, rest⟩
  · rw [List.nil_append] at only
    rw [only]
    exact ⟨_, _, rfl⟩
  · rw [List.cons_append]
    cases rest <;> exact ⟨_, _, rfl⟩

theorem refuses_condition (property : String) (unknown : Unknown key) :
    Refuses (Form.blamed (before ++ after) key (.condition property))
      (readCondition property (.object (before ++ after)))
      (readCondition property (.object (before ++ (key, value) :: after))) := by
  have told : (findNamed? literalKey (before ++ (key, value) :: after)).isSome =
      Fields.has (before ++ after) literalKey :=
    has_stray (unknown.ne_of_mem (show literalKey ∈ (Form.operand "").table.map Prod.fst
      from List.mem_singleton_self literalKey))
  rw [readCondition, readCondition, told, Form.blamed]
  show Refuses _ (if Fields.has (before ++ after) literalKey = true then _ else _) _
  split
  · exact (refuses_operand property).map _
  · split
    · exact refuses_of_error rfl
    · rw [if_neg (by simp)]
      refine Refuses.map (refuses_readEach ?_) _
      have unread : Operator.ofKey? key = none := by
        rw [Option.eq_none_iff_forall_ne_some]
        intro operator found
        refine absurd (mem_operatorKeys found) fun among => unknown (.condition property) ?_
        rw [Form.table, List.map_append, List.map_map]
        exact List.mem_append_left _ among
      rw [readComparison, unread]
      exact ⟨_, _, rfl⟩

end Strays

theorem Form.read_stray {home : AllocatorId} {form : Form} {before after : Fields} {key : String}
    {value : Json} (closed : form.isOpen = false) (unknown : Unknown key) :
    Refuses (form.blamed (before ++ after) key) (form.read home (.object (before ++ after)))
      (form.read home (.object (before ++ (key, value) :: after))) := by
  cases form with
  | clauses => exact ((refuses_clauseObject (unknown .clauses)).bind _ _).map _
  | clause => exact (refuses_clauseObject (unknown .clause)).map _
  | loopBody => exact ((refuses_clauseObject (unknown .loopBody)).bind _ _).map _
  | body kind =>
    refine Refuses.map ?_ _
    cases kind with
    | find => exact refuses_readFields (unknown (.body .find))
    | create use => exact refuses_readFields (unknown (.body (.create use)))
    | assign moment => exact refuses_readFields (unknown (.body (.assign moment)))
    | remove => exact refuses_readFields (unknown (.body .remove))
    | delete => exact refuses_readFields (unknown (.body .delete))
    | project stage => exact refuses_readFields (unknown (.body (.project stage)))
    | sort => exact (refuses_readFields (unknown (.body .sort))).bind _ _
    | unwind => exact refuses_readFields (unknown (.body .unwind))
    | forEach =>
      rw [readBody, readBody]
      exact (refuses_checkFields (unknown (.body .forEach))).bind _ _
    | call =>
      rw [readBody, readBody]
      exact (refuses_clauseObject (unknown (.body .call))).bind _ _
    | page _ => exact refuses_of_error rfl
    | restrict => cases closed
    | raw => exact refuses_of_error rfl
  | node name => exact (refuses_readFields (unknown (.node name))).map _
  | element isNodeDue => exact (refuses_element isNodeDue unknown).map _
  | label => exact (refuses_readFields (unknown .label)).map _
  | condition property => exact (refuses_condition property unknown).map _
  | operand name => exact (refuses_operand name).map _
  | projectionItem stage => exact (refuses_readFields (unknown (.projectionItem stage))).map _
  | sortItem => exact (refuses_readFields (unknown .sortItem)).map _
  | conditions _ => cases closed
  | properties => cases closed
  | nodes | elements | items _ | values | text _ | names _ | flag _ | hop _ =>
    exact refuses_of_error rfl

theorem Form.read_null {home : AllocatorId} {form : Form} (structural : form.isData = false) :
    ∃ blamed, Blames blamed (form.read home .null) := by
  cases form with
  | body kind => cases kind <;> exact ⟨_, _, _, rfl⟩
  | condition _ => cases structural
  | operand _ => cases structural
  | _ => exact ⟨_, _, _, rfl⟩

/-! ## Every part has a form -/

/-- Whoever could read the whole knows this. -/
def Needs {α : Type} (whole : Except Error α) (known : Prop) : Prop :=
  ∀ result, whole = .ok result → known

section Needs

variable {home : AllocatorId} {fields : Fields} {α β : Type} {whole : Except Error α} {known : Prop}

theorem Needs.bind (needs : Needs whole known) (next : α → Except Error β) :
    Needs (whole >>= next) known := by
  intro result read
  obtain ⟨value, first, -⟩ := bind_eq_ok read
  exact needs value first

theorem Needs.map (needs : Needs whole known) (make : α → β) : Needs (whole.map make) known := by
  intro result read
  obtain ⟨value, first, -⟩ := map_eq_ok read
  exact needs value first

theorem needs_of_error {error : Error} : Needs (.error error : Except Error α) known := nofun

theorem needs_checkFields {allowed : List String} :
    Needs (checkFields allowed fields) (fields.map Prod.fst ⊆ allowed) := by
  intro _ fits
  exact checkFields_eq_ok.mp fits

theorem needs_readFields {name : String} {allowed : List String} {next : Fields → Except Error α} :
    Needs (readFields name allowed (.object fields) >>= next) (fields.map Prod.fst ⊆ allowed) := by
  rw [readFields_bind]
  exact needs_checkFields.bind _

theorem needs_clauseObject :
    Needs (readClauseObject home fields) (fields.map Prod.fst ⊆ Form.clauseTable.map Prod.fst) := by
  rw [readClauseObject]
  refine Needs.bind (fun kind read => ?_) _
  obtain ⟨body, rfl, known⟩ := readKind_eq_ok read
  exact List.cons_subset.mpr ⟨mem_clauseKeys known, List.nil_subset _⟩

theorem needs_element (isNodeDue : Bool) :
    Needs (readElement isNodeDue (.object fields))
      (fields.map Prod.fst ⊆ (Form.element isNodeDue).table.map Prod.fst) := by
  rw [readElement, Form.table, List.map_append]
  split
  · exact Needs.bind (fun _ read => List.Subset.trans (needs_readFields _ read)
      (List.subset_append_right _ _)) _
  · exact Needs.bind (fun _ read => List.Subset.trans (needs_readFields _ read)
      (List.subset_append_left _ _)) _

theorem needs_operand (name : String) :
    Needs (readOperand name (.object fields)) (fields.map Prod.fst ⊆ [literalKey]) := by
  intro operand read
  obtain ⟨text, rfl⟩ := readOperand_object read
  exact List.Subset.refl _

theorem needs_comparisons :
    Needs (readEach readComparison fields) (fields.map Prod.fst ⊆ Operator.all.map Operator.key) := by
  induction fields with
  | nil => exact fun _ _ => List.nil_subset _
  | cons entry rest ih =>
    rw [List.map_cons, List.cons_subset, readEach]
    cases first : readComparison entry with
    | error error => exact needs_of_error
    | ok comparison =>
      intro _ read
      refine ⟨?_, ih.bind _ _ read⟩
      unfold readComparison at first
      split at first
      · next operator found => exact mem_operatorKeys found
      · cases first

theorem needs_condition (property : String) :
    Needs (readCondition property (.object fields))
      (fields.map Prod.fst ⊆ (Form.condition property).table.map Prod.fst) := by
  rw [readCondition, Form.table, List.map_append, List.map_map]
  split
  · exact Needs.map (fun _ read => List.Subset.trans (needs_operand _ _ read)
      (List.subset_append_right _ _)) _
  · split
    · exact needs_of_error
    · exact Needs.map (fun _ read => List.Subset.trans (needs_comparisons _ read)
        (List.subset_append_left _ _)) _

end Needs

theorem Form.names_known {home : AllocatorId} {form : Form} {fields : Fields}
    (closed : form.isOpen = false) :
    Needs (form.read home (.object fields)) (fields.map Prod.fst ⊆ form.table.map Prod.fst) := by
  cases form with
  | clauses => exact (needs_clauseObject.bind _).map _
  | clause => exact needs_clauseObject.map _
  | loopBody => exact (needs_clauseObject.bind _).map _
  | body kind =>
    refine Needs.map ?_ _
    cases kind with
    | forEach =>
      rw [readBody]
      exact needs_checkFields.bind _
    | call =>
      rw [readBody]
      exact needs_clauseObject.bind _
    | sort => exact needs_readFields.bind _
    | restrict => cases closed
    | page _ => exact needs_of_error
    | raw => exact needs_of_error
    | _ => exact needs_readFields
  | node _ => exact needs_readFields.map _
  | element isNodeDue => exact (needs_element isNodeDue).map _
  | label => exact needs_readFields.map _
  | condition property => exact (needs_condition property).map _
  | operand name => exact (needs_operand name).map _
  | projectionItem _ => exact needs_readFields.map _
  | sortItem => exact needs_readFields.map _
  | conditions _ => cases closed
  | properties => cases closed
  | nodes | elements | items _ | values | text _ | names _ | flag _ | hop _ => exact needs_of_error

theorem Form.entry?_of_isOpen {form : Form} (opened : form.isOpen = true) (name : String) :
    ∃ inner, form.entry? name = some inner := by
  cases form with
  | body kind =>
    cases kind with
    | restrict => exact ⟨_, rfl⟩
    | _ => cases opened
  | conditions _ => exact ⟨_, rfl⟩
  | properties => exact ⟨_, rfl⟩
  | _ => cases opened

/-- All that an object has is a part of it. -/
theorem Form.entries_known {home : AllocatorId} {form : Form} {entries : Fields}
    (read : form.read home (.object entries) = .ok ()) :
    ∀ entry ∈ entries, ∃ inner,
      (entry.1, inner) ∈ form.table ∨ form.entry? entry.1 = some inner := by
  intro entry member
  cases closed : form.isOpen with
  | true =>
    obtain ⟨inner, there⟩ := entry?_of_isOpen closed entry.1
    exact ⟨inner, .inr there⟩
  | false =>
    have known := names_known closed () read (List.mem_map_of_mem member)
    obtain ⟨⟨_, inner⟩, among, rfl⟩ := List.mem_map.mp known
    exact ⟨inner, .inl among⟩

/-- All that a list has is a part of it, or the list is one of names or of data. -/
theorem Form.items_known {home : AllocatorId} {form : Form} {items : List Json}
    (read : form.read home (.array items) = .ok ()) :
    form.isFlat = true ∨ ∀ place, ∃ inner, form.item? place = some inner := by
  cases form with
  | clauses => exact .inr fun _ => ⟨_, rfl⟩
  | loopBody => exact .inr fun _ => ⟨_, rfl⟩
  | nodes => exact .inr fun _ => ⟨_, rfl⟩
  | elements => exact .inr fun _ => ⟨_, rfl⟩
  | items _ => exact .inr fun _ => ⟨_, rfl⟩
  | body kind =>
    cases kind with
    | project _ => exact .inr fun _ => ⟨_, rfl⟩
    | sort => exact .inr fun _ => ⟨_, rfl⟩
    | call => exact .inr fun _ => ⟨_, rfl⟩
    | _ => cases read
  | label => exact .inl rfl
  | values => exact .inl rfl
  | names _ => exact .inl rfl
  | condition _ => exact .inl rfl
  | operand _ => exact .inl rfl
  | _ => cases read

/-! ## Strictness -/

/-- Nothing in a payload that is accepted is passed over, however deep it is: all that it has is of
some form. An object of a known form with a field that nothing knows makes the whole payload
unreadable, and so does null in the place of anything that is not data. -/
theorem readClauses_strict {home : AllocatorId} {payload altered : Json} {clauses : List Clause}
    {form : Form} {part part' : Json} (accepted : readClauses home payload = .ok clauses)
    (within : Within .clauses payload altered form part part') :
    (∀ before after key value, form.isOpen = false → Unknown key →
      part = .object (before ++ after) → part' = .object (before ++ (key, value) :: after) →
      Blames (form.blamed (before ++ after) key) (readClauses home altered)) ∧
    (form.isData = false → part' = .null → ∃ blamed, Blames blamed (readClauses home altered)) ∧
    (∀ entries, part = .object entries → ∀ entry ∈ entries, ∃ inner,
      (entry.1, inner) ∈ form.table ∨ form.entry? entry.1 = some inner) ∧
    (∀ items, part = .array items →
      form.isFlat = true ∨ ∀ place, ∃ inner, form.item? place = some inner) ∧
    (∀ error, readClauses home altered = .error error → ∀ (workspace : Workspace) name query,
      workspace.queries.get? name = some query → query.allocator = home →
      workspace.stepInPlace name (.addPayload altered) = (.refused error, workspace)) := by
  have carries : Carries (form.read home part) (form.read home part') (readClauses home payload)
      (readClauses home altered) := carries_of_passed within.carries
  have read : form.read home part = .ok () := (carries clauses accepted).1
  refine ⟨?_, ?_, ?_, ?_, ?_⟩
  · rintro before after key value closed unknown rfl rfl
    exact carries.blames accepted (Form.read_stray closed unknown () read)
  · rintro structural rfl
    obtain ⟨blamed, refused⟩ : ∃ blamed, Blames blamed (form.read home .null) :=
      Form.read_null structural
    exact ⟨blamed, carries.blames accepted refused⟩
  · rintro entries rfl
    exact Form.entries_known read
  · rintro items rfl
    exact Form.items_known read
  · rintro error failed workspace name query found rfl
    rw [Workspace.stepInPlace_eq, Workspace.step_eq, Workspace.openQuery_of_get? found,
      Workspace.stepOn, Query.addPayload, failed]
    rfl

/-- A call of a loop over a path, whose last node is compared with an operand. -/
def comparedInLoop (operand : Json) : Json :=
  .object [("call", .array [.object [("forEach", .object
    [("variable", .string "x"), ("list", .string "xs"), ("body", .object [("match", .object
      [("related", .array [.string "(a)", .object [("direction", .string "out")], .object
        [("identifier", .string "b"), ("where", .object [("age", .object [("gt", operand)])])]])])])])]])]

theorem within_comparedInLoop (old new : Json) :
    Within .clauses (comparedInLoop old) (comparedInLoop new) (.operand "gt") old new := by
  refine @Within.field _ (.body .call) _ _ _ _ _ _ [] [] (by decide +kernel) nofun ?_
  refine @Within.item _ .clause _ _ _ _ _ [] [] rfl ?_
  refine @Within.field _ (.body .forEach) _ _ _ _ _ _ [] [] (by decide +kernel) nofun ?_
  refine @Within.field _ .loopBody _ _ _ _ _ _ [("variable", .string "x"), ("list", .string "xs")] []
    (by decide +kernel) (by simp) ?_
  refine @Within.field _ (.body .find) _ _ _ _ _ _ [] [] (by decide +kernel) nofun ?_
  refine @Within.field _ .elements _ _ _ _ _ _ [] [] (by decide +kernel) nofun ?_
  refine @Within.item _ (.element true) _ _ _ _ _
    [.string "(a)", .object [("direction", .string "out")]] [] rfl ?_
  refine @Within.field _ (.conditions "where") _ _ _ _ _ _ [("identifier", .string "b")] []
    (by decide +kernel) (by simp) ?_
  refine @Within.entry _ (.condition "age") _ _ _ _ _ _ [] [] rfl ?_
  exact @Within.field _ (.operand "gt") _ _ _ _ _ _ [] [] (by decide +kernel) nofun .here

theorem readClauses_strict_comparedInLoop :
    (∃ clauses, readClauses 0 (comparedInLoop (.object [("$literal", .string "a.age")])) =
      .ok clauses) ∧
    Blames "gt" (readClauses 0
      (comparedInLoop (.object [("or", .null), ("$literal", .string "a.age")]))) := by
  have unknown : Unknown "or" := by
    intro form
    cases form with
    | body kind => cases kind <;> exact of_decide_eq_true rfl
    | _ => exact of_decide_eq_true rfl
  have accepted : ∃ clauses,
      readClauses 0 (comparedInLoop (.object [("$literal", .string "a.age")])) = .ok clauses :=
    ⟨_, rfl⟩
  refine ⟨accepted, ?_⟩
  obtain ⟨clauses, read⟩ := accepted
  obtain ⟨strict, -⟩ := readClauses_strict read (within_comparedInLoop _
    (.object [("or", .null), ("$literal", .string "a.age")]))
  exact strict [] [("$literal", .string "a.age")] "or" .null rfl unknown rfl rfl

end Cypher.Payload
