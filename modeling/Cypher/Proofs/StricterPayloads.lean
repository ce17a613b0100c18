import Cypher.Proofs.Nesting
import Cypher.Proofs.StrictPayloads

/-!
# Stricter payloads

Two payloads may differ in a clause that is written the same in both, and of which
more is checked in the second one. Wherever that clause stands, in a body at any
depth, both payloads are read to clauses that are written the same, and more is
checked of the second ones: they are compiled to the same statement and parameters
unless the additional check fails, and then to its error.
-/

namespace Cypher

/-! ## Checks -/

/-- Where the first check passes, the second one comes to what is checked in addition, and it passes
nowhere else. -/
def Tightens (extra check check' : Except Error Unit) : Prop :=
  (check = .ok () → check' = extra) ∧ (check' = .ok () → check = .ok ())

section Checks

variable {extra check check' : Except Error Unit}

theorem Tightens.later (tightens : Tightens extra check check') (first : Except Error Unit) :
    Tightens extra (first >>= fun _ => check) (first >>= fun _ => check') := by
  cases first with
  | ok passed => exact tightens
  | error error => exact ⟨nofun, nofun⟩

theorem Tightens.first (tightens : Tightens extra check check') (last : Except Error Unit) :
    Tightens extra (check >>= fun _ => last) (check' >>= fun _ => last) := by
  constructor
  · intro passed
    obtain ⟨⟨⟩, here, there⟩ := bind_eq_ok passed
    rw [tightens.1 here, there]
    cases extra <;> rfl
  · intro passed
    obtain ⟨⟨⟩, here, there⟩ := bind_eq_ok passed
    rw [tightens.2 here]
    exact there

end Checks

/-- The clauses are written the same, and the second one is checked for more. -/
structure Clause.Tightened (extra : Except Error Unit) (clause clause' : Clause) : Prop where
  ask : clause'.ask = clause.ask
  check : ∀ home, Tightens extra (clause.check home) (clause'.check home)

theorem Clause.tightened_refl (clause : Clause) : Clause.Tightened (.ok ()) clause clause :=
  ⟨rfl, fun _ => ⟨id, id⟩⟩

/-- The same for several clauses in a row. -/
structure Clause.TightenedAll (extra : Except Error Unit) (clauses clauses' : List Clause) :
    Prop where
  ask : Clause.askAll clauses' = Clause.askAll clauses
  check : ∀ home, Tightens extra (Clause.checkAll home clauses) (Clause.checkAll home clauses')

namespace Clause

variable {extra : Except Error Unit} {clause clause' : Clause} {clauses clauses' : List Clause}

theorem Tightened.cons (tightened : Tightened extra clause clause') (rest : List Clause) :
    TightenedAll extra (clause :: rest) (clause' :: rest) := by
  constructor
  · rw [askAll, askAll, tightened.ask]
  · intro home
    rw [checkAll, checkAll]
    exact (tightened.check home).first _

theorem TightenedAll.behind (tightened : TightenedAll extra clauses clauses') (clause : Clause) :
    TightenedAll extra (clause :: clauses) (clause :: clauses') := by
  constructor
  · rw [askAll, askAll, tightened.ask]
  · intro home
    rw [checkAll, checkAll]
    exact (tightened.check home).later _

theorem TightenedAll.checkBody (tightened : TightenedAll extra clauses clauses')
    (home allocator : AllocatorId) (key : String) :
    Tightens extra (checkBody home key ⟨[], clauses, allocator⟩)
      (checkBody home key ⟨[], clauses', allocator⟩) := by
  rw [Clause.checkBody, Clause.checkBody]
  split
  · exact ⟨nofun, nofun⟩
  · exact tightened.check allocator

theorem TightenedAll.call (tightened : TightenedAll extra clauses clauses')
    (allocator : AllocatorId) :
    Tightened extra (.call ⟨[], clauses, allocator⟩) (.call ⟨[], clauses', allocator⟩) := by
  constructor
  · rw [Clause.ask, Clause.ask, Clause.askBody, Clause.askBody, tightened.ask]
  · intro home
    rw [Clause.check, Clause.check]
    exact tightened.checkBody home allocator _

theorem TightenedAll.forEach (tightened : TightenedAll extra clauses clauses') (item list : String)
    (allocator : AllocatorId) :
    Tightened extra (.forEach item list ⟨[], clauses, allocator⟩)
      (.forEach item list ⟨[], clauses', allocator⟩) := by
  constructor
  · rw [Clause.ask, Clause.ask, Clause.askBody, Clause.askBody, tightened.ask]
  · intro home
    rw [Clause.check, Clause.check]
    exact ((tightened.checkBody home allocator _).later _).later _

end Clause

namespace Payload

/-! ## Results that match -/

/-- Both can be read or neither, and what is read is related. -/
def Matched {ε α β : Type} (related : α → β → Prop) (first : Except ε α) (second : Except ε β) :
    Prop :=
  (∀ a, first = .ok a → ∃ b, second = .ok b ∧ related a b) ∧
    ∀ b, second = .ok b → ∃ a, first = .ok a ∧ related a b

section Rules

variable {ε α α' β β' : Type} {related : α → α' → Prop} {related' : β → β' → Prop}
  {first : Except ε α} {first' : Except ε α'}

theorem matched_ok {a : α} {a' : α'} (same : related a a') :
    Matched related (.ok a : Except ε α) (.ok a') :=
  ⟨by rintro _ ⟨⟩; exact ⟨a', rfl, same⟩, by rintro _ ⟨⟩; exact ⟨a, rfl, same⟩⟩

theorem matched_of_errors (failed : ∀ a, first ≠ .ok a) (failed' : ∀ a', first' ≠ .ok a') :
    Matched related first first' :=
  ⟨fun a read => absurd read (failed a), fun a' read => absurd read (failed' a')⟩

theorem matched_refl {related : α → α → Prop} (same : ∀ a, related a a) :
    Matched related first first :=
  ⟨fun a read => ⟨a, read, same a⟩, fun a read => ⟨a, read, same a⟩⟩

theorem matched_bind {next : α → Except ε β} {next' : α' → Except ε β'}
    (matched : Matched related first first')
    (rest : ∀ a a', related a a' → Matched related' (next a) (next' a')) :
    Matched related' (first >>= next) (first' >>= next') := by
  constructor
  · intro b read
    obtain ⟨a, here, there⟩ := bind_eq_ok read
    obtain ⟨a', here', same⟩ := matched.1 a here
    rw [here']
    exact (rest a a' same).1 b there
  · intro b' read
    obtain ⟨a', here', there⟩ := bind_eq_ok read
    obtain ⟨a, here, same⟩ := matched.2 a' here'
    rw [here]
    exact (rest a a' same).2 b' there

/-- Something else is read first, which is the same in both. -/
theorem matched_later {first : Except ε α} {next : α → Except ε β} {next' : α → Except ε β'}
    (rest : ∀ a, first = .ok a → Matched related' (next a) (next' a)) :
    Matched related' (first >>= next) (first >>= next') := by
  cases read : first with
  | ok a => exact rest a read
  | error error => exact matched_of_errors nofun nofun

end Rules

/-! ## Parts of payloads -/

section Parts

variable {extra : Except Error Unit} {home : AllocatorId}

/-- Two parts of a form that is a clause or has clauses are read to clauses of which the second
ones are checked for more. -/
def Form.Relates (extra : Except Error Unit) (home : AllocatorId) : Form → Json → Json → Prop
  | clauses, old, new =>
      Matched (Clause.TightenedAll extra) (readClauses home old) (readClauses home new)
  | clause, old, new => Matched (Clause.Tightened extra) (readClause home old) (readClause home new)
  | body kind, old, new =>
      Matched (Clause.Tightened extra) (readBody home kind old) (readBody home kind new)
  | loopBody, old, new =>
      Matched (Clause.TightenedAll extra) (readLoop home old) (readLoop home new)
  | items stage, old, new =>
      Matched
        (fun make make' => ∀ distinct, Clause.Tightened extra (make distinct) (make' distinct))
        (readStageItems stage old) (readStageItems stage new)
  | _, _, _ => False

theorem relates_body (stage : Stage) {items items' : List Json}
    (related : (Form.items stage).Relates extra home (.array items) (.array items')) :
    (Form.body (.project stage)).Relates extra home (.array items) (.array items') := by
  show Matched _ (readStageItems stage _ >>= _) (readStageItems stage _ >>= _)
  exact matched_bind related fun _ _ tightened => matched_ok (tightened false)

/-- An object has one clause, so its field is alone. -/
theorem relates_clauseObject {kind : ClauseKind} {old new : Json} {before after : Fields}
    (known : ClauseKind.ofKey? kind.key = some kind)
    (related : (Form.body kind).Relates extra home old new) :
    Matched (Clause.Tightened extra)
      (readClauseObject home (before ++ (kind.key, old) :: after))
      (readClauseObject home (before ++ (kind.key, new) :: after)) := by
  by_cases alone : before = [] ∧ after = []
  · obtain ⟨rfl, rfl⟩ := alone
    rw [List.nil_append, List.nil_append, readClauseObject_singleton known,
      readClauseObject_singleton known]
    exact related
  · have refused (value : Json) (clause : Clause) :
        readClauseObject home (before ++ (kind.key, value) :: after) ≠ .ok clause := by
      intro read
      rw [readClauseObject] at read
      obtain ⟨kind', told, -⟩ := bind_eq_ok read
      obtain ⟨value', only, -⟩ := readKind_eq_ok told
      refine alone ?_
      have size := congrArg List.length only
      simp only [List.length_append, List.length_cons, List.length_nil] at size
      exact ⟨List.eq_nil_of_length_eq_zero (by omega), List.eq_nil_of_length_eq_zero (by omega)⟩
    exact matched_of_errors (refused old) (refused new)

theorem relates_clauseField {name : String} {middle : Form} {old new : Json}
    {before after : Fields} (member : (name, middle) ∈ Form.clauseTable)
    (related : middle.Relates extra home old new) :
    Matched (Clause.Tightened extra) (readClauseObject home (before ++ (name, old) :: after))
      (readClauseObject home (before ++ (name, new) :: after)) := by
  obtain ⟨kind, among, same⟩ := List.mem_map.mp member
  cases same
  exact relates_clauseObject (ClauseKind.ofKey?_key kind among) related

theorem relates_clauseList {old new : Json} (before after : List Json)
    (related : Form.clause.Relates extra home old new) :
    Matched (Clause.TightenedAll extra) (readClauseList home (before ++ old :: after))
      (readClauseList home (before ++ new :: after)) := by
  rw [readClauseList_eq, readClauseList_eq]
  induction before with
  | nil =>
    refine matched_bind related fun clause clause' tightened => ?_
    exact matched_later fun rest _ => matched_ok (tightened.cons rest)
  | cons item rest ih =>
    refine matched_later fun clause _ => ?_
    exact matched_bind ih fun _ _ tightened => matched_ok (tightened.behind clause)

theorem relates_single {old new : Fields}
    (related : Payload.Matched (Clause.Tightened extra) (readClauseObject home old)
      (readClauseObject home new)) :
    Matched (Clause.TightenedAll extra) (readClauses home (.object old))
      (readClauses home (.object new)) := by
  rw [readClauses, readClauses]
  exact matched_bind related fun _ _ tightened => matched_ok (tightened.cons [])

/-- Both objects have the same fields. -/
theorem matched_checkFields {α : Type} {related : α → α → Prop} {next next' : Except Error α}
    {name : String} {old new : Json} {fields fields' : Fields} {allowed : List String}
    (swapped : Swapped name old new fields fields') (rest : Matched related next next') :
    Matched related (checkFields allowed fields >>= fun _ => next)
      (checkFields allowed fields' >>= fun _ => next') := by
  have both : checkFields allowed fields' = .ok () ↔ checkFields allowed fields = .ok () := by
    rw [checkFields_eq_ok, checkFields_eq_ok, swapped.names]
  have checked : Matched (fun _ _ => True) (checkFields allowed fields)
      (checkFields allowed fields') :=
    ⟨fun _ fits => ⟨(), both.mpr fits, trivial⟩, fun _ fits => ⟨(), both.mp fits, trivial⟩⟩
  exact matched_bind checked fun _ _ _ => rest

theorem relates_forEach {old new : Json} {before after : Fields}
    (first : ∀ entry ∈ before, entry.1 ≠ "body")
    (related : Form.loopBody.Relates extra home old new) :
    (Form.body .forEach).Relates extra home (.object (before ++ ("body", old) :: after))
      (.object (before ++ ("body", new) :: after)) := by
  have swapped := swapped_append first old new after
  rw [Form.Relates, readBody, readBody, readLoopBody_eq, readLoopBody_eq,
    swapped.requiredString (by decide), swapped.requiredString (by decide), Fields.required,
    Fields.required, swapped.here, swapped.there]
  refine matched_checkFields swapped ?_
  refine matched_later fun item _ => matched_later fun list _ => ?_
  exact matched_bind related fun _ _ tightened => matched_ok (tightened.forEach item list home)

theorem relates_stage {stage : Stage} {old new : Json} {before after : Fields}
    (first : ∀ entry ∈ before, entry.1 ≠ "items")
    (related : (Form.items stage).Relates extra home old new) :
    (Form.body (.project stage)).Relates extra home (.object (before ++ ("items", old) :: after))
      (.object (before ++ ("items", new) :: after)) := by
  have swapped := swapped_append first old new after
  show Matched (Clause.Tightened extra)
    (readStage stage (.object (before ++ ("items", old) :: after)))
    (readStage stage (.object (before ++ ("items", new) :: after)))
  rw [readStage, readStage, readFields_bind, readFields_bind, swapped.flag (by decide),
    Fields.required, Fields.required, swapped.here, swapped.there]
  refine matched_checkFields swapped ?_
  show Matched (Clause.Tightened extra) (readStageItems stage old >>= _)
    (readStageItems stage new >>= _)
  refine matched_bind related fun _ _ tightened => ?_
  exact matched_later fun distinct _ => matched_ok (tightened distinct)

/-- A part of this form is a clause, has clauses or is what a clause hands on. -/
def Form.bears : Form → Bool
  | clauses | clause | body _ | loopBody | items _ => true
  | _ => false

theorem bears_of_relates {form : Form} {old new : Json}
    (related : form.Relates extra home old new) : form.bears = true := by
  cases form with
  | clauses | clause | body _ | loopBody | items _ => rfl
  | _ => exact related.elim

theorem mem_bearing {outer middle : Form} {name : String} {old new : Json}
    (member : (name, middle) ∈ outer.table) (related : middle.Relates extra home old new) :
    (name, middle) ∈ outer.table.filter fun field => field.2.bears :=
  List.mem_filter.mpr ⟨member, bears_of_relates related⟩

theorem relates_field {outer middle : Form} {name : String} {old new : Json}
    {before after : Fields} (member : (name, middle) ∈ outer.table)
    (first : ∀ entry ∈ before, entry.1 ≠ name) (related : middle.Relates extra home old new) :
    outer.Relates extra home (.object (before ++ (name, old) :: after))
      (.object (before ++ (name, new) :: after)) := by
  have bearing := mem_bearing member related
  cases outer with
  | clauses => exact relates_single (relates_clauseField member related)
  | clause => exact relates_clauseField member related
  | loopBody => exact relates_single (relates_clauseField member related)
  | body kind =>
    cases kind with
    | call =>
      rw [Form.Relates, readBody, readBody]
      refine matched_bind (relates_clauseField member related) fun _ _ tightened => ?_
      exact matched_ok ((tightened.cons []).call home)
    | forEach =>
      change (name, middle) ∈ [("body", Form.loopBody)] at bearing
      cases List.mem_singleton.mp bearing
      exact relates_forEach first related
    | project stage =>
      change (name, middle) ∈ [("items", Form.items stage)] at bearing
      cases List.mem_singleton.mp bearing
      exact relates_stage first related
    | _ => cases bearing
  | _ => cases bearing

theorem relates_entry {outer middle : Form} {name : String} {old new whole whole' : Json}
    (there : outer.entry? name = some middle) (related : middle.Relates extra home old new) :
    outer.Relates extra home whole whole' := by
  have bearing := bears_of_relates related
  cases outer with
  | body kind =>
    cases kind with
    | restrict =>
      cases there
      cases bearing
    | _ => cases there
  | conditions _ =>
    cases there
    cases bearing
  | properties =>
    cases there
    cases bearing
  | _ => cases there

theorem relates_item {outer middle : Form} {old new : Json} {before after : List Json}
    (there : outer.item? before.length = some middle)
    (related : middle.Relates extra home old new) :
    outer.Relates extra home (.array (before ++ old :: after))
      (.array (before ++ new :: after)) := by
  have bearing := bears_of_relates related
  cases outer with
  | clauses =>
    cases there
    exact relates_clauseList before after related
  | loopBody =>
    cases there
    show Matched _ (readArray "body" _ >>= fun _ => readClauseList home _)
      (readArray "body" _ >>= fun _ => readClauseList home _)
    rw [readArray_append, readArray_append]
    exact relates_clauseList before after related
  | body kind =>
    cases kind with
    | call =>
      cases there
      rw [Form.Relates, readBody, readBody, readArray_append, readArray_append]
      show Matched _ (readClauseList home _ >>= _) (readClauseList home _ >>= _)
      refine matched_bind (relates_clauseList before after related) fun _ _ tightened => ?_
      exact matched_ok (tightened.call home)
    | _ => cases there <;> cases bearing
  | _ => cases there <;> cases bearing

/-- What is checked for more in a part is so in the whole. -/
theorem Within.relates {outer inner : Form} {old new part part' : Json}
    (within : Within outer old new inner part part')
    (related : inner.Relates extra home part part') :
    outer.Relates extra home old new := by
  induction within with
  | here => exact related
  | field member first _ ih => exact relates_field member first (ih related)
  | entry there _ ih => exact relates_entry there (ih related)
  | item there _ ih => exact relates_item there (ih related)

end Parts

end Payload

/-! ## Compiling -/

/-- What the draft of several clauses becomes with an allocator of its own. -/
def Compiled.ofDraft (draft : Asking (List (Fragment Ref))) : Compiled :=
  let (fragments, after) := settle Query.fillAll draft .empty
  ⟨String.ofList (Spacing.joined (Fragment.allChars fragments)), after.parameters⟩

/-- The clauses of a payload are checked, and then drafted and written. -/
theorem compile_eq (payload : Json) :
    compile payload = do
      let clauses ← Payload.readClauses soleAllocator payload
      Clause.checkAll soleAllocator clauses
      return Compiled.ofDraft (Clause.askAll clauses) := by
  rw [compile_eq_compiled]
  cases Payload.readClauses soleAllocator payload with
  | error error => rfl
  | ok clauses =>
    show Query.compiled _ = Except.map _ _
    rw [Query.compiled, Query.compile, Query.write_eq]
    cases Clause.checkAll soleAllocator clauses with
    | error error => rfl
    | ok passed =>
      show Except.ok (Compiled.mk (Query.text ⟨[] ++ clauses.zip _, [], soleAllocator⟩) _) = _
      rw [Query.text, Query.fragments_settled]
      rfl

section Compiling

variable {extra : Except Error Unit} {payload altered : Json}
  (related : Payload.Matched (Clause.TightenedAll extra) (Payload.readClauses soleAllocator payload)
    (Payload.readClauses soleAllocator altered))

include related

theorem compile_of_tightened {compiled : Compiled} (done : compile payload = .ok compiled) :
    compile altered = extra.map fun _ => compiled := by
  rw [compile_eq] at done ⊢
  obtain ⟨clauses, read, written⟩ := bind_eq_ok done
  obtain ⟨⟨⟩, checked, finished⟩ := bind_eq_ok written
  obtain ⟨clauses', read', tightened⟩ := related.1 clauses read
  cases finished
  rw [read']
  show (Clause.checkAll soleAllocator clauses' >>= _) = _
  rw [(tightened.check _).1 checked, tightened.ask]
  cases extra <;> rfl

theorem compile_tightened {compiled : Compiled} (done : compile altered = .ok compiled) :
    extra = .ok () ∧ compile payload = .ok compiled := by
  rw [compile_eq] at done ⊢
  obtain ⟨clauses', read', written⟩ := bind_eq_ok done
  obtain ⟨⟨⟩, checked', finished⟩ := bind_eq_ok written
  obtain ⟨clauses, read, tightened⟩ := related.2 clauses' read'
  have checked := (tightened.check _).2 checked'
  refine ⟨((tightened.check _).1 checked).symm.trans checked', ?_⟩
  cases finished
  rw [read]
  show (Clause.checkAll soleAllocator clauses >>= _) = _
  rw [checked, tightened.ask]
  rfl

end Compiling

end Cypher
