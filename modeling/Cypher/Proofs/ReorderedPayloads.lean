import Cypher.Proofs.AgreeingObjects
import Mathlib.Logic.Relation

/-!
# Payloads with their fields in another order

Where an object of a payload has names that are known, they can stand in any
order; where the names are those of the caller, their order is that of what is
written. Data that is bound is the same in every order.

A part that reads the same does not change what is read of the whole, and this
is carried outwards part by part.
-/

namespace Cypher.Payload

/-! ## Parts of parts -/

section Parts

variable {home : AllocatorId} {outer middle inner : Form} {name : String} {old new : Json}

theorem spreads_repeats : Spreads Repeats where
  assuming only result read := only result read result read
  first _ once := repeats_bind once fun _ _ => repeats_refl
  later rest := repeats_bind repeats_refl fun value _ => rest value

theorem repeats_field {before after : Fields} (member : (name, middle) ∈ outer.table)
    (first : ∀ entry ∈ before, entry.1 ≠ name)
    (once : Repeats (middle.result home old) (middle.result home new)) :
    Repeats (outer.result home (.object (before ++ (name, old) :: after)))
      (outer.result home (.object (before ++ (name, new) :: after))) := by
  have swapped := swapped_append first old new after
  cases unordered : outer.isUnordered with
  | true =>
    refine Form.repeats_of_agree unordered (agree_of_swapped swapped fun form other => ?_)
    rw [Form.field_unique other member]
    exact once
  | false =>
    -- the order of operators counts, and there is one way only to write text as it is
    cases outer with
    | condition property => exact spreads_repeats.condition first property member once
    | operand key => exact spreads_repeats.operand swapped key member once
    | body kind =>
      cases kind with
      | restrict => cases member
      | _ => cases unordered
    | conditions _ | properties => cases member
    | _ => cases unordered

/-- Items that are not identifiers alone. -/
theorem repeats_projection {key : String} (before after : List Json) (item : old.isString = false)
    (item' : new.isString = false)
    (once : Repeats (readProjectionItem key old) (readProjectionItem key new)) :
    Repeats (readProjection key (before ++ old :: after))
      (readProjection key (before ++ new :: after)) := by
  unfold readProjection
  rw [if_neg (by simp [item]), if_neg (by simp [item'])]
  exact spreads_repeats.first _ (spreads_repeats.readEach before after once)

/-- A part that reads the same makes the whole read the same. -/
theorem Within.repeats {part part' : Json} (within : Within outer old new inner part part')
    (shaped : part.isString = false ∧ part'.isString = false)
    (once : Repeats (inner.result home part) (inner.result home part')) :
    (old.isString = false ∧ new.isString = false) ∧
      Repeats (outer.result home old) (outer.result home new) := by
  induction within with
  | here => exact ⟨shaped, once⟩
  | field member first _ ih => exact ⟨⟨rfl, rfl⟩, repeats_field member first (ih shaped once).2⟩
  | entry there _ ih => exact ⟨⟨rfl, rfl⟩, spreads_repeats.entry there (ih shaped once).2⟩
  | item there _ ih =>
    obtain ⟨⟨item, item'⟩, read⟩ := ih shaped once
    exact ⟨⟨rfl, rfl⟩, spreads_repeats.item there
      (fun _ => repeats_projection _ _ item item') read⟩

end Parts

/-! ## Lists of data -/

theorem readValue_eq_ok {key : String} {json : Json} {value : Value} :
    readValue key json = .ok value ↔ Value.ofJson json = .ok value := by
  unfold readValue
  cases Value.ofJson json with
  | ok other => rw [Except.ok.injEq, Except.ok.injEq]
  | error number => exact iff_of_false nofun nofun

/-- Values that are read one by one are those of the list. -/
theorem readEach_readValue {key : String} {items : List Json} {values : List Value} :
    readEach (readValue key) items = .ok values ↔ Value.ofItems items = .ok values := by
  induction items generalizing values with
  | nil => rw [readEach, Value.ofItems, Except.ok.injEq, Except.ok.injEq]
  | cons item rest ih =>
    rw [readEach]
    refine both_eq_ok.trans ?_
    rw [Value.ofItems_cons_eq_ok]
    simp only [readValue_eq_ok, ih]

theorem repeats_readValue {key : String} {old new : Json} (rearranged : Json.Rearranged old new) :
    Repeats (readValue key old) (readValue key new) := by
  intro value read
  rw [readValue_eq_ok] at read ⊢
  exact Value.repeats_ofJson rearranged value read

theorem repeats_readValues {items items' : List Json}
    (rearranged : Json.Rearranged (.array items) (.array items')) :
    Repeats (readValues (.array items)) (readValues (.array items')) := by
  intro values read
  have together : Value.ofJson (.array items) = .ok (.list values) := by
    rw [Value.ofJson, readEach_readValue.mp read]
    rfl
  have again := Value.repeats_ofJson rearranged _ together
  rw [Value.ofJson] at again
  obtain ⟨values', read', same⟩ := map_eq_ok again
  cases same
  exact readEach_readValue.mpr read'

/-! ## Payloads -/

/-- A list of this form is data. -/
def Form.holdsData : Form → Bool
  | values | condition _ | operand _ => true
  | _ => false

/-- Something of the form has its fields in another order, or it is a list of data in which objects
have. -/
inductive Shuffled (form : Form) : Json → Json → Prop
  | fields {fields fields' : Fields} : form.isUnordered = true → (fields.map Prod.fst).Nodup →
      fields.Perm fields' → Shuffled form (.object fields) (.object fields')
  | data {items items' : List Json} : form.holdsData = true →
      Json.Rearranged (.array items) (.array items') → Shuffled form (.array items) (.array items')

/-- Some parts of the payload, one after another, are shuffled. -/
def Reordered : Json → Json → Prop :=
  Relation.ReflTransGen fun payload altered => ∃ form part part',
    Within .clauses payload altered form part part' ∧ Shuffled form part part'

theorem Shuffled.repeats {form : Form} {part part' : Json} (shuffled : Shuffled form part part')
    (home : AllocatorId) :
    (part.isString = false ∧ part'.isString = false) ∧
      Repeats (form.result home part) (form.result home part') := by
  cases shuffled with
  | fields unordered distinct same =>
    exact ⟨⟨rfl, rfl⟩, Form.repeats_of_agree unordered (agree_of_perm distinct same)⟩
  | data held rearranged =>
    refine ⟨⟨rfl, rfl⟩, ?_⟩
    cases form with
    | values => exact repeats_readValues rearranged
    | operand key => exact repeats_map (repeats_readValue rearranged)
    | condition property => exact repeats_map (repeats_map (repeats_readValue rearranged))
    | _ => cases held

theorem Reordered.repeats {home : AllocatorId} {payload altered : Json}
    (reordered : Reordered payload altered) :
    Repeats (readClauses home payload) (readClauses home altered) := by
  induction reordered with
  | refl => exact repeats_refl
  | tail _ step ih =>
    obtain ⟨form, part, part', within, shuffled⟩ := step
    obtain ⟨shaped, once⟩ := shuffled.repeats home
    exact ih.trans (within.repeats shaped once).2

/-- The order in which the fields of objects stand does not matter, nor does that of data in lists. A
payload that is accepted is accepted in every such order, has the same clauses, and compiles to the
same statement with the same parameters, or is refused for the same reason. -/
theorem readClauses_reordered {home : AllocatorId} {payload altered : Json} {clauses : List Clause}
    (accepted : readClauses home payload = .ok clauses) (reordered : Reordered payload altered) :
    readClauses home altered = .ok clauses ∧
    (∀ query : Query, query.allocator = home → query.addPayload altered = query.addPayload payload) ∧
    (home = soleAllocator → compile altered = compile payload) := by
  have again := reordered.repeats clauses accepted
  have same (query : Query) (there : query.allocator = home) :
      query.addPayload altered = query.addPayload payload := by
    unfold Query.addPayload
    rw [there, accepted, again]
  refine ⟨again, same, ?_⟩
  rintro rfl
  unfold compile
  rw [same (Query.empty soleAllocator) rfl]

/-- A path that begins with that node. -/
def linked (node : Json) : Json :=
  .array [.object [("match", .object [("related", .array [node, .object [("direction", .string "out")],
    .string "(b)"])])], .object [("return", .string "a")]]

theorem within_linked {old new part part' : Json} {form : Form}
    (within : Within (.element true) old new form part part') :
    Within .clauses (linked old) (linked new) form part part' := by
  refine @Within.item _ .clause _ _ _ _ _ [] [.object [("return", .string "a")]] rfl ?_
  refine @Within.field _ (.body .find) _ _ _ _ _ _ [] [] (by decide +kernel) nofun ?_
  refine @Within.field _ .elements _ _ _ _ _ _ [] [] (by decide +kernel) nofun ?_
  exact @Within.item _ (.element true) _ _ _ _ _ []
    [.object [("direction", .string "out")], .string "(b)"] rfl within

/-- The fields of a node that has one of those tags. -/
def tagged (tags : List Json) : Fields :=
  [("identifier", .string "a"), ("where", .object [("tags", .object [("in", .array tags)])])]

theorem within_tagged (tags tags' : List Json) :
    Within (.element true) (.object (tagged tags).reverse) (.object (tagged tags').reverse)
      (.operand "in") (.array tags) (.array tags') := by
  refine @Within.field _ (.conditions "where") _ _ _ _ _ _ [] [("identifier", .string "a")]
    (by decide +kernel) nofun ?_
  refine @Within.entry _ (.condition "tags") _ _ _ _ _ _ [] [] rfl ?_
  exact @Within.field _ (.operand "in") _ _ _ _ _ _ [] [] (by decide +kernel) nofun .here

theorem readClauses_reordered_linked :
    let point : Fields := [("x", .bool true), ("y", .null)]
    let payload := linked (.object (tagged [.object point]))
    let altered := linked (.object (tagged [.object point.reverse]).reverse)
    (∃ clauses, readClauses soleAllocator payload = .ok clauses) ∧
      compile altered = compile payload := by
  intro point payload altered
  have fields : Shuffled (.element true) (.object (tagged [.object point]))
      (.object (tagged [.object point]).reverse) :=
    .fields rfl (by decide) (List.reverse_perm _).symm
  have data : Shuffled (.operand "in") (.array [.object point]) (.array [.object point.reverse]) :=
    .data rfl (@Json.Rearranged.item _ _ [] [] (.entries (by decide) (List.reverse_perm _).symm))
  have reordered : Reordered payload altered :=
    .tail (.single ⟨_, _, _, within_linked .here, fields⟩)
      ⟨_, _, _, within_linked (within_tagged _ _), data⟩
  have accepted : ∃ clauses, readClauses soleAllocator payload = .ok clauses := ⟨_, rfl⟩
  refine ⟨accepted, ?_⟩
  obtain ⟨clauses, read⟩ := accepted
  exact (readClauses_reordered read reordered).2.2 rfl

end Cypher.Payload
