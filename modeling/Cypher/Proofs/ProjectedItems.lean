import Cypher.Proofs.StricterPayloads

/-!
# Items of projections

An item of a projection that is an identifier alone can be given as a string, or
as an object that has nothing but the identifier. A list of strings is read as a
list of names, and any other list as a list of items, so that the form of one item
decides how the others are read. Both are written the same. They are not checked
the same: items with a blank identifier are refused, and names are not.

So nothing changes when strings are given as objects, unless the list has strings
only and one of them is blank; then the payload is refused from there on.
-/

namespace Cypher

/-! ## Projections -/

/-- Refuses the blank identifier, if there is one. -/
def refuseBlank : Option String → Except Error Unit
  | some name => .error (.shape "identifier" .nonEmptyString (.text name))
  | none => .ok ()

/-- The first identifier that is blank is refused. -/
theorem checkEach_identifiers (names : List String) :
    checkEach ProjectionItem.check (names.map fun name => ⟨name, none, none⟩) =
      refuseBlank (names.find? Text.isBlankText) := by
  induction names with
  | nil => rfl
  | cons name rest ih =>
    rw [List.map_cons, checkEach, ProjectionItem.check, checkNonBlank, List.find?_cons]
    cases Text.isBlankText name with
    | true => rfl
    | false => exact ih

/-- Names as items. -/
def Projection.ofNames (names : List String) : Projection :=
  .items (names.map fun name => ⟨name, none, none⟩)

theorem Projection.fragment_ofNames {ρ : Type} (names : List String) :
    (Projection.ofNames names).fragment = ((Projection.names names).fragment : Fragment ρ) := by
  rw [ofNames, fragment, fragment, Fragment.names, List.map_map]
  rfl

/-- Names that are given as items are checked for blanks. -/
theorem tightened_ofNames (names : List String) (stage : Stage) (distinct : Bool) :
    Clause.Tightened (refuseBlank (names.find? Text.isBlankText))
      (.project stage distinct (.names names)) (.project stage distinct (.ofNames names)) := by
  constructor
  · rw [Clause.ask, Clause.ask, Projection.fragment_ofNames]
  · intro home
    rw [Clause.check, Clause.check, Projection.check, Projection.ofNames, Projection.check,
      ← checkEach_identifiers]
    cases names with
    | nil =>
      -- a list without items is refused in both forms
      constructor
      · intro passed
        cases passed
      · intro passed
        cases passed
    | cons name rest => exact ⟨fun _ => rfl, fun _ => rfl⟩

namespace Payload

/-- The second item is the first one, or the object form of a string. -/
inductive Spelled : Json → Json → Prop
  | same (item : Json) : Spelled item item
  | object (name : String) : Spelled (.string name) (.object [("identifier", .string name)])

/-- Both forms of an item are read to the same item. -/
theorem Spelled.readProjectionItem {item item' : Json} (spelled : Spelled item item')
    (key : String) :
    Payload.readProjectionItem key item' = Payload.readProjectionItem key item := by
  cases spelled with
  | same => rfl
  | object name => rfl

section Reading

variable {items items' : List Json} {key : String}

theorem readEach_spelled (spelled : List.Forall₂ Spelled items items') :
    readEach (readProjectionItem key) items' = readEach (readProjectionItem key) items := by
  induction spelled with
  | nil => rfl
  | cons first _ ih => rw [readEach, readEach, first.readProjectionItem, ih]

theorem exists_names (strings : items.all Json.isString = true) :
    ∃ names : List String, items = names.map Json.string := by
  induction items with
  | nil => exact ⟨[], rfl⟩
  | cons item rest ih =>
    rw [List.all_cons, Bool.and_eq_true] at strings
    obtain ⟨names, rfl⟩ := ih strings.2
    cases item with
    | string name => exact ⟨name :: names, rfl⟩
    | _ => cases strings.1

theorem readEach_names (names : List String) :
    readEach (readString key) (names.map Json.string) = .ok names ∧
      readEach (readProjectionItem key) (names.map Json.string) =
        .ok (names.map fun name => ⟨name, none, none⟩) := by
  induction names with
  | nil => exact ⟨rfl, rfl⟩
  | cons name rest ih =>
    rw [List.map_cons, readEach, readEach, ih.1, ih.2]
    exact ⟨rfl, rfl⟩

/-- Where there are strings alone, nothing was given as an object. -/
theorem eq_of_strings (spelled : List.Forall₂ Spelled items items')
    (strings : items'.all Json.isString = true) :
    items.all Json.isString = true ∧ items' = items := by
  induction spelled with
  | nil => exact ⟨rfl, rfl⟩
  | @cons first first' rest rest' here _ ih =>
    rw [List.all_cons, Bool.and_eq_true] at strings
    obtain ⟨later, rfl⟩ := ih strings.2
    cases here with
    | same => exact ⟨by rw [List.all_cons, strings.1, later]; rfl, rfl⟩
    | object name => cases strings.1

theorem readProjection_items (mixed : items.all Json.isString = false) :
    readProjection key items = (readEach (readProjectionItem key) items).map .items := by
  rw [readProjection, if_neg (by rw [mixed]; exact Bool.false_ne_true)]
  rfl

theorem readProjection_names (names : List String) :
    readProjection key (names.map Json.string) = .ok (.names names) := by
  have strings : (names.map Json.string).all Json.isString = true := by
    simp [Json.isString]
  rw [readProjection, if_pos strings, (readEach_names names).1]
  rfl

/-- A list that is not of strings alone is read to the same items. -/
theorem readProjection_mixed (spelled : List.Forall₂ Spelled items items')
    (mixed : items.all Json.isString = false) :
    readProjection key items' = readProjection key items := by
  have mixed' : items'.all Json.isString = false := by
    rw [Bool.eq_false_iff]
    intro strings
    rw [(eq_of_strings spelled strings).1] at mixed
    cases mixed
  rw [readProjection_items mixed', readProjection_items mixed, readEach_spelled spelled]

/-- Strings of which some are given as objects are read to items. -/
theorem readProjection_ofNames {names : List String}
    (spelled : List.Forall₂ Spelled (names.map Json.string) items')
    (mixed : items'.all Json.isString = false) :
    readProjection key items' = .ok (.ofNames names) := by
  rw [readProjection_items mixed, readEach_spelled spelled, (readEach_names names).2]
  rfl

end Reading

/-! ## Items in payloads -/

/-- The first blank one of strings that were names and are items now. -/
def unmasked? (items items' : List Json) : Option String :=
  if items.all Json.isString && !items'.all Json.isString then
    items.findSome? fun
      | .string name => if Text.isBlankText name then some name else none
      | _ => none
  else none

theorem unmasked?_names {names : List String} {items' : List Json}
    (mixed : items'.all Json.isString = false) :
    unmasked? (names.map Json.string) items' = names.find? Text.isBlankText := by
  have strings : (names.map Json.string).all Json.isString = true := by
    simp [Json.isString]
  rw [unmasked?, strings, mixed, if_pos (show (true && !false) = true from rfl)]
  clear strings
  induction names with
  | nil => rfl
  | cons name rest ih =>
    cases blank : Text.isBlankText name with
    | true => simp [blank]
    | false => simpa [blank] using ih

theorem relates_items {extra : Except Error Unit} {home : AllocatorId} (stage : Stage)
    {items items' : List Json}
    (related : ∀ key, Matched (fun projection projection' => ∀ distinct, Clause.Tightened extra
      (.project stage distinct projection) (.project stage distinct projection'))
      (readProjection key items) (readProjection key items')) :
    (Form.items stage).Relates extra home (.array items) (.array items') := by
  rw [Form.Relates, readStageItems, readStageItems]
  exact matched_bind (related _) fun _ _ tightened => matched_ok tightened

theorem relates_spelled (home : AllocatorId) (stage : Stage) {items items' : List Json}
    (spelled : List.Forall₂ Spelled items items') :
    (Form.items stage).Relates (refuseBlank (unmasked? items items')) home (.array items)
      (.array items') := by
  refine relates_items stage fun key => ?_
  cases strings' : items'.all Json.isString with
  | true =>
    obtain ⟨-, rfl⟩ := eq_of_strings spelled strings'
    rw [unmasked?, strings']
    exact matched_refl fun projection distinct => Clause.tightened_refl _
  | false =>
    cases strings : items.all Json.isString with
    | true =>
      obtain ⟨names, rfl⟩ := exists_names strings
      rw [readProjection_names, readProjection_ofNames spelled strings', unmasked?_names strings']
      exact matched_ok (tightened_ofNames names stage)
    | false =>
      rw [readProjection_mixed spelled strings, unmasked?, strings]
      exact matched_refl fun projection distinct => Clause.tightened_refl _

end Payload

/-- Whichever of the strings among the items of a stage are given as objects, wherever in a payload
the stage is, it is compiled as before: to the same statement and parameters, or not at all. Only
when names become items in that way and one of them is blank, the payload is refused. -/
theorem compile_respelled {payload altered : Json} {items items' : List Json} {form : Payload.Form}
    {stage : Stage} (place : form = .items stage ∨ form = .body (.project stage))
    (within : Payload.Within .clauses payload altered form (.array items) (.array items'))
    (spelled : List.Forall₂ Payload.Spelled items items') :
    (Payload.unmasked? items items' = none →
      ∀ compiled, compile altered = .ok compiled ↔ compile payload = .ok compiled) ∧
    (∀ name, Payload.unmasked? items items' = some name →
      (∀ compiled, compile altered ≠ .ok compiled) ∧
      ∀ compiled, compile payload = .ok compiled →
        compile altered = .error (.shape "identifier" .nonEmptyString (.text name))) := by
  have part : form.Relates (refuseBlank (Payload.unmasked? items items')) soleAllocator
      (.array items) (.array items') := by
    have here := Payload.relates_spelled soleAllocator stage spelled
    rcases place with rfl | rfl
    · exact here
    · exact Payload.relates_body stage here
  have whole := within.relates part
  constructor
  · intro visible compiled
    rw [visible] at whole
    constructor
    · exact fun done => (compile_tightened whole done).2
    · exact fun done => compile_of_tightened whole done
  · intro name found
    rw [found] at whole
    refine ⟨fun compiled done => ?_, fun compiled done => compile_of_tightened whole done⟩
    cases (compile_tightened whole done).1

/-- A call that hands on items, each only once. -/
def handedOn (items : List Json) : Json :=
  .array [.object [("call", .object [("with",
    .object [("distinct", .bool true), ("items", .array items)])])]]

theorem within_handedOn (items items' : List Json) :
    Payload.Within .clauses (handedOn items) (handedOn items') (.items .next) (.array items)
      (.array items') := by
  refine @Payload.Within.item _ .clause _ _ _ _ _ [] [] rfl ?_
  refine @Payload.Within.field _ (.body .call) _ _ _ _ _ _ [] [] (by decide +kernel) nofun ?_
  refine @Payload.Within.field _ (.body (.project .next)) _ _ _ _ _ _ [] [] (by decide +kernel)
    nofun ?_
  exact @Payload.Within.field _ (.items .next) _ _ _ _ _ _ [("distinct", .bool true)] []
    (by decide +kernel) (by simp) .here

theorem compile_respelled_handedOn :
    (∃ compiled, compile (handedOn [.string "a", .string "a b"]) = .ok compiled ∧
      compile (handedOn [.string "a", .object [("identifier", .string "a b")]]) = .ok compiled) ∧
    compile (handedOn [.object [("identifier", .string "a")], .string " "]) =
      .error (.shape "identifier" .nonEmptyString (.text " ")) := by
  have handed (items : List Json)
      (fine : (compile (handedOn items)).toOption.isSome = true) :
      ∃ compiled, compile (handedOn items) = .ok compiled := by
    cases done : compile (handedOn items) with
    | ok compiled => exact ⟨compiled, rfl⟩
    | error error =>
      rw [done] at fine
      cases fine
  constructor
  · obtain ⟨compiled, done⟩ := handed [.string "a", .string "a b"] (by decide +kernel)
    have same := compile_respelled (.inl rfl) (within_handedOn _ _)
      (.cons (.same (.string "a")) (.cons (.object "a b") .nil))
    exact ⟨compiled, done, (same.1 (by decide +kernel) compiled).mpr done⟩
  · obtain ⟨compiled, done⟩ := handed [.string "a", .string " "] (by decide +kernel)
    have refused := compile_respelled (.inl rfl) (within_handedOn _ _)
      (.cons (.object "a") (.cons (.same (.string " ")) .nil))
    exact (refused.2 " " (by decide +kernel)).2 compiled done

/-- A blank name is handed on, and is refused when it is given as an object. -/
theorem compile_blankName :
    (compile (.object [("return", .array [.string ""])])).toOption.map Compiled.statement =
        some "RETURN ``" ∧
      compile (.object [("return", .array [.object [("identifier", .string "")]])]) =
        .error (.shape "identifier" .nonEmptyString (.text "")) := by
  constructor
  · decide +kernel
  · rfl

end Cypher
