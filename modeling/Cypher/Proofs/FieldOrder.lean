import Cypher.Proofs.ClauseObjects
import Mathlib.Data.List.Nodup
import Mathlib.Data.String.Basic

/-!
# Fields in another order

The entries of an object that is data stand in the order of their names once it
is bound, and the fields of any other object are looked up by their names. So an
object can be read with its entries in any other order, and what is read is the
same.

`Repeats` says that what can be read once is read again. It has one rule for
each way in which readers are put together. Objects `Agree` when they have the
same fields with values that read the same.
-/

namespace Cypher

/-! ## Reading the same twice -/

/-- What can be read first can be read then, too, and is the same. -/
def Repeats {ε α : Type} (first then' : Except ε α) : Prop :=
  ∀ result, first = .ok result → then' = .ok result

section Rules

variable {ε α β : Type} {first then' other other' : Except ε α}

theorem repeats_refl : Repeats first first := fun _ read => read

theorem Repeats.trans {last : Except ε α} (once : Repeats first then') (again : Repeats then' last) :
    Repeats first last :=
  fun result read => again result (once result read)

theorem repeats_bind {next next' : α → Except ε β} (once : Repeats first then')
    (rest : ∀ value, first = .ok value → Repeats (next value) (next' value)) :
    Repeats (first >>= next) (then' >>= next') := by
  intro result read
  obtain ⟨value, passed, more⟩ := bind_eq_ok read
  rw [once value passed]
  exact rest value passed result more

theorem repeats_map {make : α → β} (once : Repeats first then') :
    Repeats (first.map make) (then'.map make) := by
  intro result read
  obtain ⟨value, passed, rfl⟩ := map_eq_ok read
  rw [once value passed]
  rfl

theorem repeats_ite {condition : Prop} [Decidable condition] (yes : condition → Repeats first then')
    (no : ¬condition → Repeats other other') :
    Repeats (if condition then first else other) (if condition then then' else other') := by
  split
  · next holds => exact yes holds
  · next fails => exact no fails

theorem repeats_of_error {error : ε} : Repeats (.error error) then' := nofun

end Rules

/-! ## Data -/

/-- The values differ in the order in which objects have their entries, however deep these are, and
in nothing else. -/
inductive Json.Rearranged : Json → Json → Prop
  | refl {value : Json} : Rearranged value value
  | trans {first second third : Json} :
      Rearranged first second → Rearranged second third → Rearranged first third
  | entries {entries entries' : List (String × Json)} :
      (entries.map Prod.fst).Nodup → entries.Perm entries' →
      Rearranged (.object entries) (.object entries')
  | entry {name : String} {old new : Json} {before after : List (String × Json)} :
      Rearranged old new →
      Rearranged (.object (before ++ (name, old) :: after)) (.object (before ++ (name, new) :: after))
  | item {old new : Json} {before after : List Json} : Rearranged old new →
      Rearranged (.array (before ++ old :: after)) (.array (before ++ new :: after))

namespace Value

/-- Entries of different names can be put in place in any order. -/
theorem insertSorted_comm {α : Type} {name other : String} (different : name ≠ other)
    (value value' : α) (entries : List (String × α)) :
    insertSorted name value (insertSorted other value' entries) =
      insertSorted other value' (insertSorted name value entries) := by
  induction entries with
  | nil => grind [insertSorted]
  | cons entry rest ih => grind [insertSorted]

theorem sortEntries_perm {α : Type} {entries entries' : List (String × α)}
    (distinct : (entries.map Prod.fst).Nodup) (same : entries.Perm entries') :
    sortEntries entries = sortEntries entries' := by
  refine same.foldl_eq' (fun first member second member' sorted => ?_) []
  by_cases equal : first.1 = second.1
  · rw [List.inj_on_of_nodup_map distinct member member' equal]
  · exact insertSorted_comm (Ne.symm equal) _ _ sorted

theorem ofItems_cons_eq_ok {item : Json} {rest : List Json} {values : List Value} :
    ofItems (item :: rest) = .ok values ↔
      ∃ value more, ofJson item = .ok value ∧ ofItems rest = .ok more ∧ value :: more = values := by
  rw [ofItems]
  exact both_eq_ok

theorem ofFields_cons_eq_ok {entry : String × Json} {rest : List (String × Json)}
    {values : List (String × Value)} :
    ofFields (entry :: rest) = .ok values ↔
      ∃ value more, ofJson entry.2 = .ok value ∧ ofFields rest = .ok more ∧
        (entry.1, value) :: more = values := by
  rw [ofFields]
  exact both_eq_ok

theorem map_fst_ofFields {entries : List (String × Json)} {values : List (String × Value)}
    (read : ofFields entries = .ok values) : values.map Prod.fst = entries.map Prod.fst := by
  induction entries generalizing values with
  | nil =>
    rw [ofFields] at read
    cases read
    rfl
  | cons entry rest ih =>
    obtain ⟨value, more, -, others, rfl⟩ := ofFields_cons_eq_ok.mp read
    exact congrArg (entry.1 :: ·) (ih others)

/-- Entries can be read in any order. -/
theorem ofFields_perm {entries entries' : List (String × Json)} (same : entries.Perm entries') :
    ∀ {values : List (String × Value)}, ofFields entries = .ok values →
      ∃ values', ofFields entries' = .ok values' ∧ values.Perm values' := by
  induction same with
  | nil => exact fun read => ⟨_, read, .rfl⟩
  | cons entry _ ih =>
    intro values read
    obtain ⟨value, more, first, others, rfl⟩ := ofFields_cons_eq_ok.mp read
    obtain ⟨more', others', perm⟩ := ih others
    exact ⟨_, ofFields_cons_eq_ok.mpr ⟨value, more', first, others', rfl⟩, perm.cons _⟩
  | swap entry other rest =>
    intro values read
    obtain ⟨value, more, first, others, rfl⟩ := ofFields_cons_eq_ok.mp read
    obtain ⟨value', more', second, rest', rfl⟩ := ofFields_cons_eq_ok.mp others
    refine ⟨_, ofFields_cons_eq_ok.mpr ⟨value', _, second, ?_, rfl⟩, .swap _ _ _⟩
    exact ofFields_cons_eq_ok.mpr ⟨value, more', first, rest', rfl⟩
  | trans _ _ ih ih' =>
    intro values read
    obtain ⟨middle, read, perm⟩ := ih read
    obtain ⟨last, read, perm'⟩ := ih' read
    exact ⟨last, read, perm.trans perm'⟩

theorem repeats_ofFields {name : String} {old new : Json} (before after : List (String × Json))
    (once : Repeats (ofJson old) (ofJson new)) :
    Repeats (ofFields (before ++ (name, old) :: after)) (ofFields (before ++ (name, new) :: after)) := by
  induction before with
  | nil =>
    rw [List.nil_append, List.nil_append, ofFields, ofFields]
    exact repeats_bind once fun _ _ => repeats_refl
  | cons entry rest ih =>
    rw [List.cons_append, List.cons_append, ofFields, ofFields]
    exact repeats_bind repeats_refl fun _ _ => repeats_bind ih fun _ _ => repeats_refl

theorem repeats_ofItems {old new : Json} (before after : List Json)
    (once : Repeats (ofJson old) (ofJson new)) :
    Repeats (ofItems (before ++ old :: after)) (ofItems (before ++ new :: after)) := by
  induction before with
  | nil =>
    rw [List.nil_append, List.nil_append, ofItems, ofItems]
    exact repeats_bind once fun _ _ => repeats_refl
  | cons item rest ih =>
    rw [List.cons_append, List.cons_append, ofItems, ofItems]
    exact repeats_bind repeats_refl fun _ _ => repeats_bind ih fun _ _ => repeats_refl

/-- Data that is rearranged is the same value. -/
theorem repeats_ofJson {old new : Json} (rearranged : Json.Rearranged old new) :
    Repeats (ofJson old) (ofJson new) := by
  induction rearranged with
  | refl => exact repeats_refl
  | trans _ _ ih ih' => exact ih.trans ih'
  | @entries entries entries' distinct same =>
    rw [ofJson, ofJson]
    intro value read
    obtain ⟨values, fields, rfl⟩ := map_eq_ok read
    obtain ⟨values', fields', perm⟩ := ofFields_perm same fields
    have distinct' : (values.map Prod.fst).Nodup := by
      rw [map_fst_ofFields fields]
      exact distinct
    rw [fields']
    show Except.ok (ofEntries values') = .ok (ofEntries values)
    rw [ofEntries, ofEntries, sortEntries_perm distinct' perm]
  | entry _ ih =>
    rw [ofJson, ofJson]
    exact repeats_map (repeats_ofFields _ _ ih)
  | item _ ih =>
    rw [ofJson, ofJson]
    exact repeats_map (repeats_ofItems _ _ ih)

end Value

namespace Payload

/-! ## Forms of which the order does not count -/

namespace Form

/-- The fields of an object of this form are looked up by their names. -/
def isUnordered (form : Form) : Bool := !form.isOpen && !form.isData

theorem field_unique {form : Form} {name : String} {inner inner' : Form}
    (member : (name, inner) ∈ form.table) (member' : (name, inner') ∈ form.table) :
    inner = inner' := by
  have unique {table : List (String × Form)}
      (single : ∀ first ∈ table, ∀ second ∈ table, first.1 = second.1 → first.2 = second.2)
      (member : (name, inner) ∈ table) (member' : (name, inner') ∈ table) : inner = inner' :=
    single _ member _ member' rfl
  cases form with
  | body kind =>
    cases kind with
    | project stage => cases stage <;> exact unique (of_decide_eq_true rfl) member member'
    | _ => exact unique (of_decide_eq_true rfl) member member'
  | _ => exact unique (of_decide_eq_true rfl) member member'

end Form

/-! ## Objects that agree -/

/-- The objects have the same fields, and the values of those that stand in the table read the
same. -/
structure Agree (home : AllocatorId) (table : List (String × Form)) (fields fields' : Fields) :
    Prop where
  names : (fields'.map Prod.fst).Perm (fields.map Prod.fst)
  absent : ∀ name, fields.get? name = none → fields'.get? name = none
  found : ∀ name value, fields.get? name = some value → ∃ value', fields'.get? name = some value' ∧
    ∀ form, (name, form) ∈ table → Repeats (form.result home value) (form.result home value')

section Agreeing

variable {home : AllocatorId} {table : List (String × Form)} {fields fields' : Fields}

/-- A field of an object that has no name twice is found wherever it stands. -/
theorem findNamed?_eq_some_iff {α : Type} {entries : List (String × α)}
    (distinct : (entries.map Prod.fst).Nodup) {name : String} {value : α} :
    findNamed? name entries = some value ↔ (name, value) ∈ entries := by
  induction entries with
  | nil => exact iff_of_false nofun List.not_mem_nil
  | cons entry rest ih =>
    rw [List.map_cons, List.nodup_cons] at distinct
    rw [findNamed?, List.mem_cons]
    split
    · next same =>
      subst same
      constructor
      · rintro ⟨⟩
        exact .inl rfl
      · rintro (same | member)
        · rw [← same]
        · exact absurd (List.mem_map_of_mem member) distinct.1
    · next other =>
      rw [ih distinct.2]
      refine ⟨.inr, ?_⟩
      rintro (rfl | member)
      · exact absurd rfl other
      · exact member

theorem findNamed?_perm {α : Type} {entries entries' : List (String × α)}
    (distinct : (entries.map Prod.fst).Nodup) (same : entries.Perm entries') (name : String) :
    findNamed? name entries' = findNamed? name entries := by
  have distinct' : (entries'.map Prod.fst).Nodup := (same.map Prod.fst).nodup_iff.mp distinct
  refine Option.ext fun value => ?_
  rw [findNamed?_eq_some_iff distinct, findNamed?_eq_some_iff distinct', same.mem_iff]

/-- The same fields in another order. -/
theorem agree_of_perm (distinct : (fields.map Prod.fst).Nodup) (same : fields.Perm fields') :
    Agree home table fields fields' where
  names := (same.map Prod.fst).symm
  absent name none := (findNamed?_perm distinct same name).trans none
  found name value some :=
    ⟨value, (findNamed?_perm distinct same name).trans some, fun _ _ => repeats_refl⟩

/-- One value is another one that reads the same. -/
theorem agree_of_swapped {name : String} {old new : Json}
    (swapped : Swapped name old new fields fields')
    (once : ∀ form, (name, form) ∈ table → Repeats (form.result home old) (form.result home new)) :
    Agree home table fields fields' where
  names := by rw [swapped.names]
  absent other none := by
    have different : other ≠ name := by
      rintro rfl
      rw [swapped.here] at none
      cases none
    exact (swapped.others other different).trans none
  found other value some := by
    by_cases same : other = name
    · subst same
      rw [swapped.here] at some
      cases some
      exact ⟨new, swapped.there, once⟩
    · exact ⟨value, (swapped.others other same).trans some, fun _ _ => repeats_refl⟩

namespace Agree

variable {α : Type} {name : String}

theorem mono {smaller : List (String × Form)} (agree : Agree home table fields fields')
    (among : smaller ⊆ table) : Agree home smaller fields fields' where
  names := agree.names
  absent := agree.absent
  found name value some := by
    obtain ⟨value', some', once⟩ := agree.found name value some
    exact ⟨value', some', fun form member => once form (among member)⟩

theorem has (agree : Agree home table fields fields') (name : String) :
    fields'.has name = fields.has name := by
  unfold Fields.has
  cases here : fields.get? name with
  | none => rw [agree.absent name here]
  | some value =>
    obtain ⟨value', there, -⟩ := agree.found name value here
    rw [there]
    rfl

theorem notBoth (agree : Agree home table fields fields') (first second : String) :
    fields'.notBoth first second = fields.notBoth first second := by
  unfold Fields.notBoth
  rw [agree.has, agree.has]

theorem exactlyOne (agree : Agree home table fields fields') (first second : String) :
    fields'.exactlyOne first second = fields.exactlyOne first second := by
  unfold Fields.exactlyOne
  rw [agree.notBoth, agree.has, agree.has]

theorem checkFields (agree : Agree home table fields fields') (allowed : List String) :
    Repeats (Payload.checkFields allowed fields) (Payload.checkFields allowed fields') := by
  intro _ fits
  rw [checkFields_eq_ok] at fits ⊢
  exact List.Subset.trans agree.names.subset fits

theorem readFields {key : String} {allowed : List String} {next : Fields → Except Error α}
    (agree : Agree home table fields fields') (rest : Repeats (next fields) (next fields')) :
    Repeats (Payload.readFields key allowed (.object fields) >>= next)
      (Payload.readFields key allowed (.object fields') >>= next) := by
  rw [readFields_bind, readFields_bind]
  exact repeats_bind (agree.checkFields allowed) fun _ _ => rest

theorem read? (agree : Agree home table fields fields') (form : Form)
    (member : (name, form) ∈ table) :
    Repeats (fields.read? (form.result home) name) (fields'.read? (form.result home) name) := by
  unfold Fields.read?
  cases here : fields.get? name with
  | none =>
    rw [agree.absent name here]
    exact repeats_refl
  | some value =>
    obtain ⟨value', there, once⟩ := agree.found name value here
    rw [there]
    exact repeats_map (once form member)

theorem requiredString (agree : Agree home table fields fields')
    (member : (name, .text name) ∈ table) :
    Repeats (fields.requiredString name) (fields'.requiredString name) :=
  repeats_bind (agree.read? (.text name) member) fun _ _ => repeats_refl

theorem required (agree : Agree home table fields fields') (form : Form)
    (member : (name, form) ∈ table) {next next' : form.Result → Except Error α}
    (rest : ∀ result, Repeats (next result) (next' result)) :
    Repeats (fields.required name >>= fun value => form.result home value >>= next)
      (fields'.required name >>= fun value => form.result home value >>= next') := by
  unfold Fields.required
  cases here : fields.get? name with
  | none => exact nofun
  | some value =>
    obtain ⟨value', there, once⟩ := agree.found name value here
    rw [there]
    show Repeats (form.result home value >>= next) (form.result home value' >>= next')
    exact repeats_bind (once form member) fun result _ => rest result

theorem flag (agree : Agree home table fields fields') (member : (name, .flag name) ∈ table) :
    Repeats (fields.flag name) (fields'.flag name) := by
  have flagged (fields : Fields) :
      fields.flag name = (fields.read? (readFlag name) name).map (Option.getD · false) := by
    unfold Fields.flag Fields.read?
    split
    · next none => rw [none]; rfl
    · next set => rw [set]; rfl
    · next value notFlag set =>
      rw [set]
      cases value with
      | bool flag => exact absurd rfl (notFlag flag)
      | _ => rfl
  rw [flagged, flagged]
  exact repeats_map (agree.read? (.flag name) member)

end Agree

end Agreeing
end Payload
end Cypher
