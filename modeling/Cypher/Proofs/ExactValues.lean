import Cypher.Proofs.ProperJson
import Cypher.Proofs.StrictPayloads

/-!
# Values are exact or refused

A JSON value is a property value unless one of its numbers is an integer that
needs all of 64 bits; it is refused for the first of these. A value that is not
refused loses nothing: its JSON form is what it was made of, with the entries of
objects in the order of their names, and makes the same value again.

The same decides about data in payloads. There an object is no data: as a
condition it has operators, and as an operand it can only mark a literal.
-/

namespace Cypher

/-! ## Results that are decided before -/

/-- The result is that failure, if there is one, and a success otherwise. -/
def DecidedBy {ε α : Type} (failure : Option ε) (result : Except ε α) : Prop :=
  match failure with
  | some error => result = .error error
  | none => ∃ value, result = .ok value

section Rules

variable {ε α β γ : Type} {failure failure' : Option ε} {result : Except ε α}

theorem decidedBy_ok (value : α) : DecidedBy none (.ok value : Except ε α) := ⟨value, rfl⟩

theorem DecidedBy.map (decided : DecidedBy failure result) (make : α → β) :
    DecidedBy failure (result.map make) := by
  cases failure with
  | some error =>
    rw [show result = .error error from decided]
    rfl
  | none =>
    obtain ⟨value, rfl⟩ := decided
    exact ⟨make value, rfl⟩

theorem DecidedBy.passed {failure : Option Error} {result : Except Error α}
    (decided : DecidedBy failure result) : DecidedBy failure (Payload.passed result) :=
  decided.map fun _ => ()

/-- The second is only tried when the first has not failed. -/
theorem DecidedBy.both (first : DecidedBy failure result) {result' : Except ε β}
    (second : DecidedBy failure' result') (make : α → β → γ) :
    DecidedBy (failure.or failure')
      (result >>= fun value => result' >>= fun value' => .ok (make value value')) := by
  cases failure with
  | some error =>
    rw [show result = .error error from first]
    rfl
  | none =>
    obtain ⟨value, rfl⟩ := first
    exact second.map (make value)

theorem DecidedBy.exists_ok_iff (decided : DecidedBy failure result) :
    (∃ value, result = .ok value) ↔ failure = none := by
  cases failure with
  | some error =>
    rw [show result = .error error from decided]
    exact iff_of_false nofun nofun
  | none => exact iff_of_true decided rfl

theorem DecidedBy.error_iff (decided : DecidedBy failure result) (error : ε) :
    result = .error error ↔ failure = some error := by
  cases failure with
  | some reason =>
    rw [show result = .error reason from decided, Except.error.injEq, Option.some.injEq]
  | none =>
    obtain ⟨value, rfl⟩ := decided
    exact iff_of_false nofun nofun

theorem findSome?_cons_eq_or (check : α → Option β) (item : α) (rest : List α) :
    (item :: rest).findSome? check = (check item).or (rest.findSome? check) := by
  rw [List.findSome?_cons]
  cases check item <;> rfl

theorem decidedBy_readEach {read : α → Except Error β} {failure : α → Option Error}
    {items : List α} (each : ∀ item ∈ items, DecidedBy (failure item) (read item)) :
    DecidedBy (items.findSome? failure) (Payload.readEach read items) := by
  induction items with
  | nil => exact decidedBy_ok []
  | cons item rest ih =>
    rw [List.forall_mem_cons] at each
    rw [findSome?_cons_eq_or, Payload.readEach]
    exact each.1.both (ih each.2) List.cons

end Rules

namespace Json

/-- The first number that only fits without a sign. -/
def firstUnsigned? (value : Json) : Option Number := value.numbers.find? Number.isUnsigned

/-- No integer in the value needs all of 64 bits. -/
def Exact (value : Json) : Prop := ∀ number ∈ value.numbers, number.isUnsigned = false

theorem firstUnsigned?_eq_none {value : Json} : value.firstUnsigned? = none ↔ value.Exact := by
  rw [firstUnsigned?, List.find?_eq_none, Exact]
  simp only [Bool.not_eq_true]

theorem find?_numbersOfItems (items : List Json) :
    (numbersOfItems items).find? Number.isUnsigned = items.findSome? firstUnsigned? := by
  induction items with
  | nil => rfl
  | cons item rest ih =>
    rw [numbersOfItems, List.find?_append, ih, findSome?_cons_eq_or]
    rfl

end Json

/-! ## Values -/

namespace Value

/-- An integer is a value unless it needs all of 64 bits. -/
theorem decidedBy_integer {value : Int} (fits : (Number.integer value).Fits) :
    DecidedBy (Json.number (.integer value)).firstUnsigned? (ofJson (.number (.integer value))) := by
  have unsigned := Number.int64?_eq_none_iff fits
  rw [Json.firstUnsigned?, Json.numbers, List.find?_singleton, ofJson]
  cases small : (Number.integer value).int64? with
  | none =>
    rw [if_pos (unsigned.mp small)]
    rfl
  | some number =>
    rw [if_neg (mt unsigned.mpr (by simp [small]))]
    exact decidedBy_ok _

mutual

/-- A value is refused for its first number that only fits without a sign. -/
theorem decidedBy_ofJson (json : Json) (proper : json.Proper) :
    DecidedBy json.firstUnsigned? (ofJson json) := by
  cases json with
  | null => exact decidedBy_ok _
  | bool value => exact decidedBy_ok _
  | number number =>
    cases number with
    | integer value => exact decidedBy_integer (by simpa [Json.Proper] using proper)
    | float value => exact decidedBy_ok _
  | string value => exact decidedBy_ok _
  | array items =>
    rw [Json.Proper] at proper
    rw [Json.firstUnsigned?, Json.numbers, ofJson]
    exact (decidedBy_ofItems items proper).map list
  | object entries =>
    rw [Json.Proper] at proper
    rw [Json.firstUnsigned?, Json.numbers, ofJson]
    exact (decidedBy_ofFields entries proper.2).map ofEntries

theorem decidedBy_ofItems (items : List Json) (proper : Json.ProperItems items) :
    DecidedBy ((Json.numbersOfItems items).find? Number.isUnsigned) (ofItems items) := by
  cases items with
  | nil => exact decidedBy_ok _
  | cons item rest =>
    rw [Json.ProperItems] at proper
    rw [Json.numbersOfItems, List.find?_append, ofItems]
    exact (decidedBy_ofJson item proper.1).both (decidedBy_ofItems rest proper.2) List.cons

theorem decidedBy_ofFields (entries : List (String × Json)) (proper : Json.ProperEntries entries) :
    DecidedBy ((Json.numbersOfEntries entries).find? Number.isUnsigned) (ofFields entries) := by
  match entries, proper with
  | [], _ => exact decidedBy_ok _
  | (name, value) :: rest, proper =>
    rw [Json.ProperEntries] at proper
    rw [Json.numbersOfEntries, List.find?_append, ofFields]
    exact (decidedBy_ofJson value proper.1).both (decidedBy_ofFields rest proper.2)
      fun first more => (name, first) :: more

end

theorem entriesToJson_eq (entries : List (String × Value)) :
    entriesToJson entries = entries.map fun entry => (entry.1, entry.2.toJson) := by
  induction entries with
  | nil => rfl
  | cons entry rest ih => rw [entriesToJson, List.map_cons, ih]

theorem toInt_of_int64? {value : Int} {small : Int64}
    (found : (Number.integer value).int64? = some small) : small.toInt = value := by
  obtain ⟨inside, same⟩ := Option.ite_none_right_eq_some.mp found
  cases same
  have most : Int64.maxValue.toInt = 2 ^ 63 - 1 := rfl
  exact Int64.toInt_ofInt_of_le inside.1 (by omega)

/-- An integer is a value when it fits 64 bits with a sign. -/
theorem ofJson_integer_eq_ok {whole : Int} {value : Value} :
    ofJson (.number (.integer whole)) = .ok value ↔
      ∃ small, (Number.integer whole).int64? = some small ∧ int small = value := by
  rw [ofJson]
  cases (Number.integer whole).int64? with
  | none => exact iff_of_false nofun nofun
  | some small => simp

/-- The JSON form of sorted entries is sorted by the bytes of the names. -/
theorem entriesToJson_sortEntries {values : List (String × Value)}
    (distinct : (values.map Prod.fst).Nodup) :
    entriesToJson (sortEntries values) = Text.byBytes (entriesToJson values) := by
  rw [sortEntries_eq_byBytes distinct, entriesToJson_eq, entriesToJson_eq]
  exact List.map_mergeSort fun _ _ _ _ => rfl

mutual

/-- Nothing of a value is lost but the order of entries. -/
theorem toJson_of_ofJson (json : Json) (proper : json.Proper) {value : Value}
    (read : ofJson json = .ok value) : value.toJson = json.sorted := by
  cases json with
  | null =>
    cases read
    rfl
  | bool flag =>
    cases read
    rfl
  | number number =>
    cases number with
    | integer whole =>
      obtain ⟨small, found, rfl⟩ := ofJson_integer_eq_ok.mp read
      rw [toJson, toInt_of_int64? found]
      rfl
    | float x =>
      cases read
      rfl
  | string text =>
    cases read
    rfl
  | array items =>
    rw [ofJson] at read
    obtain ⟨values, each, rfl⟩ := map_eq_ok read
    rw [Json.Proper] at proper
    rw [toJson, Json.sorted, itemsToJson_of_ofItems items proper each]
  | object entries =>
    rw [ofJson] at read
    obtain ⟨values, each, rfl⟩ := map_eq_ok read
    rw [Json.Proper] at proper
    have distinct : (values.map Prod.fst).Nodup := (map_fst_ofFields each).symm ▸ proper.1
    rw [ofEntries, toJson, Json.sorted, entriesToJson_sortEntries distinct,
      entriesToJson_of_ofFields entries proper.2 each]

theorem itemsToJson_of_ofItems (items : List Json) (proper : Json.ProperItems items)
    {values : List Value} (read : ofItems items = .ok values) :
    itemsToJson values = Json.sortedItems items := by
  cases items with
  | nil =>
    cases read
    rfl
  | cons item rest =>
    obtain ⟨value, more, first, others, rfl⟩ := ofItems_cons_eq_ok.mp read
    rw [Json.ProperItems] at proper
    rw [itemsToJson, Json.sortedItems, toJson_of_ofJson item proper.1 first,
      itemsToJson_of_ofItems rest proper.2 others]

theorem entriesToJson_of_ofFields (entries : List (String × Json))
    (proper : Json.ProperEntries entries) {values : List (String × Value)}
    (read : ofFields entries = .ok values) :
    entriesToJson values = Json.sortedEntries entries := by
  match entries, proper, read with
  | [], _, read =>
    cases read
    rfl
  | (name, inner) :: rest, proper, read =>
    obtain ⟨value, more, first, others, rfl⟩ := ofFields_cons_eq_ok.mp read
    rw [Json.ProperEntries] at proper
    rw [entriesToJson, Json.sortedEntries, toJson_of_ofJson inner proper.1 first,
      entriesToJson_of_ofFields rest proper.2 others]

end

theorem ofItems_itemsToJson {items : List Value}
    (each : ∀ item ∈ items, ofJson item.toJson = .ok item) :
    ofItems (itemsToJson items) = .ok items := by
  induction items with
  | nil => rfl
  | cons item rest ih =>
    rw [List.forall_mem_cons] at each
    exact ofItems_cons_eq_ok.mpr ⟨item, rest, each.1, ih each.2, rfl⟩

theorem ofFields_entriesToJson {entries : List (String × Value)}
    (each : ∀ entry ∈ entries, ofJson entry.2.toJson = .ok entry.2) :
    ofFields (entriesToJson entries) = .ok entries := by
  induction entries with
  | nil => rfl
  | cons entry rest ih =>
    rw [List.forall_mem_cons] at each
    exact ofFields_cons_eq_ok.mpr ⟨entry.2, rest, each.1, ih each.2, rfl⟩

mutual

/-- The JSON form of a value that was made of JSON makes the same value again. -/
theorem ofJson_toJson (json : Json) {value : Value} (read : ofJson json = .ok value) :
    ofJson value.toJson = .ok value := by
  cases json with
  | null =>
    cases read
    rfl
  | bool flag =>
    cases read
    rfl
  | number number =>
    cases number with
    | integer whole =>
      obtain ⟨small, found, rfl⟩ := ofJson_integer_eq_ok.mp read
      rw [toJson, toInt_of_int64? found]
      exact ofJson_integer_eq_ok.mpr ⟨small, found, rfl⟩
    | float x =>
      cases read
      rfl
  | string text =>
    cases read
    rfl
  | array items =>
    rw [ofJson] at read
    obtain ⟨values, each, rfl⟩ := map_eq_ok read
    rw [toJson, ofJson, ofItems_itemsToJson (ofJson_toJson_items items each)]
    rfl
  | object entries =>
    rw [ofJson] at read
    obtain ⟨values, each, rfl⟩ := map_eq_ok read
    have again (entry : String × Value) (member : entry ∈ sortEntries values) :
        ofJson entry.2.toJson = .ok entry.2 :=
      ofJson_toJson_fields entries each entry (mem_sortEntries member)
    rw [ofEntries, toJson, ofJson, ofFields_entriesToJson again]
    show Except.ok (map (sortEntries (sortEntries values))) = .ok (map (sortEntries values))
    rw [sortEntries_sortEntries]

theorem ofJson_toJson_items (items : List Json) {values : List Value}
    (read : ofItems items = .ok values) : ∀ value ∈ values, ofJson value.toJson = .ok value := by
  cases items with
  | nil =>
    cases read
    exact nofun
  | cons item rest =>
    obtain ⟨value, more, first, others, rfl⟩ := ofItems_cons_eq_ok.mp read
    exact List.forall_mem_cons.mpr ⟨ofJson_toJson item first, ofJson_toJson_items rest others⟩

theorem ofJson_toJson_fields (entries : List (String × Json)) {values : List (String × Value)}
    (read : ofFields entries = .ok values) :
    ∀ entry ∈ values, ofJson entry.2.toJson = .ok entry.2 := by
  match entries, read with
  | [], read =>
    cases read
    exact nofun
  | (name, inner) :: rest, read =>
    obtain ⟨value, more, first, others, rfl⟩ := ofFields_cons_eq_ok.mp read
    exact List.forall_mem_cons.mpr ⟨ofJson_toJson inner first, ofJson_toJson_fields rest others⟩

end

end Value

/-! ## Data in payloads -/

namespace Payload

/-- Why a value that stands under that name is refused as data. -/
def inexact (key : String) (value : Json) : Option Error :=
  value.firstUnsigned?.map fun number => unexpected key .exactNumber (.number number)

/-- The name under which a value is data where something of the form stands. Objects are no data
there, but a list of values may have some. -/
def Form.dataKey? : Form → Json → Option String
  | condition _, .object _ | operand _, .object _ => none
  | condition property, _ => some property
  | operand key, _ => some key
  | values, .array _ => some "values"
  | _, _ => none

theorem decidedBy_readValue (key : String) {value : Json} (proper : value.Proper) :
    DecidedBy (inexact key value) (readValue key value) := by
  have decided := Value.decidedBy_ofJson value proper
  rw [readValue, inexact]
  cases first : value.firstUnsigned? with
  | some number =>
    rw [first] at decided
    rw [show Value.ofJson value = .error number from decided]
    rfl
  | none =>
    rw [first] at decided
    obtain ⟨read, done⟩ := decided
    rw [done]
    exact decidedBy_ok read

theorem readOperand_of_data {key : String} {value : Json}
    (data : ∀ entries, value ≠ .object entries) :
    readOperand key value = (readValue key value).map .value := by
  cases value with
  | object entries => exact absurd rfl (data entries)
  | _ => rfl

theorem decidedBy_readOperand (key : String) {value : Json} (proper : value.Proper)
    (data : ∀ entries, value ≠ .object entries) :
    DecidedBy (inexact key value) (readOperand key value) := by
  rw [readOperand_of_data data]
  exact (decidedBy_readValue key proper).map _

theorem decidedBy_readValues {items : List Json} (proper : (Json.array items).Proper) :
    DecidedBy (inexact "values" (.array items)) (readValues (.array items)) := by
  rw [Json.Proper, Json.properItems_iff] at proper
  rw [inexact, Json.firstUnsigned?, Json.numbers, Json.find?_numbersOfItems, List.map_findSome?]
  exact decidedBy_readEach fun item member => decidedBy_readValue "values" (proper item member)

/-- Data is accepted unless it has a number that only fits without a sign. -/
theorem decidedBy_read {form : Form} {value : Json} {key : String} (home : AllocatorId)
    (proper : value.Proper) (data : form.dataKey? value = some key) :
    DecidedBy (inexact key value) (form.read home value) := by
  cases form with
  | condition property =>
    cases value with
    | object entries => cases data
    | _ =>
      cases data
      exact ((decidedBy_readOperand key proper (by rintro _ ⟨⟩)).map Condition.value).passed
  | operand name =>
    cases value with
    | object entries => cases data
    | _ =>
      cases data
      exact (decidedBy_readOperand key proper (by rintro _ ⟨⟩)).passed
  | values =>
    cases value with
    | array items =>
      cases data
      exact (decidedBy_readValues proper).passed
    | _ => cases data
  | _ => cases data

/-- Property values that are data are accepted together unless one of them is not. -/
theorem decidedBy_readProperties (key : String) {entries : Fields}
    (proper : (Json.object entries).Proper)
    (data : ∀ entry ∈ entries, ∀ inner, entry.2 ≠ .object inner) :
    DecidedBy (entries.findSome? fun entry => inexact entry.1 entry.2)
      (readProperties key (.object entries)) := by
  rw [Json.Proper, Json.properEntries_iff] at proper
  refine DecidedBy.map (decidedBy_readEach fun entry member => ?_) _
  exact (decidedBy_readOperand entry.1 (proper.2 entry member) (data entry member)).map _

/-- As an operand an object can only mark a literal; any other one is refused for its shape. -/
theorem readOperand_object_cases (key : String) (entries : Fields) :
    (∃ text, entries = [(literalKey, .string text)] ∧
        readOperand key (.object entries) = .ok (.literal text)) ∨
      (∀ text, entries ≠ [(literalKey, .string text)]) ∧
        ∃ blamed, Blames blamed (readOperand key (.object entries)) := by
  match entries with
  | [] => exact .inr ⟨nofun, key, _, _, rfl⟩
  | _ :: _ :: _ => exact .inr ⟨nofun, key, _, _, rfl⟩
  | [(name, value)] =>
    by_cases marked : name = literalKey
    · subst marked
      rw [readOperand_literal]
      cases value with
      | string text => exact .inl ⟨text, rfl, rfl⟩
      | _ => exact .inr ⟨nofun, literalKey, _, _, rfl⟩
    · refine .inr ⟨fun text same => ?_, key, .operand, .json (.object [(name, value)]), ?_⟩
      · cases same
        exact marked rfl
      · rw [readOperand, if_neg marked]
        rfl

/-- Values are exact or refused. A JSON value that a text can say is a property value just when none
of its integers needs all of 64 bits, and else it is refused for the first one that does. The JSON
form of what it becomes is the value with the entries of its objects in the order of the bytes of
their names, and becomes the same again. Where data stands in a payload the same decides whether it
is accepted; when it is not, and all else is, the payload is refused for the shape of that number.
As an operand an object can only mark a literal. -/
theorem values_exact {value : Json} (proper : value.Proper) :
    ((∃ made, Value.ofJson value = .ok made) ↔ value.Exact) ∧
      (∀ made, Value.ofJson value = .ok made →
        made.toJson = value.sorted ∧ Value.ofJson made.toJson = .ok made) ∧
      (∀ number, Value.ofJson value = .error number →
        value.numbers.find? Number.isUnsigned = some number) ∧
      (∀ home form key, form.dataKey? value = some key →
        (form.read home value = .ok () ↔ value.Exact) ∧
        ∀ payload altered clauses other, readClauses home payload = .ok clauses →
          (Within .clauses payload altered form value other → value.Exact) ∧
          ∀ number, value.numbers.find? Number.isUnsigned = some number →
            Within .clauses payload altered form other value →
            readClauses home altered = .error (unexpected key .exactNumber (.number number))) ∧
      (∀ key entries, value = .object entries →
        (∀ entry ∈ entries, ∀ inner, entry.2 ≠ .object inner) →
        DecidedBy (entries.findSome? fun entry => inexact entry.1 entry.2)
          (readProperties key value)) ∧
      ∀ key entries, value = .object entries →
        (∃ text, entries = [(literalKey, .string text)] ∧
          readOperand key value = .ok (.literal text)) ∨
        (∀ text, entries ≠ [(literalKey, .string text)]) ∧
          ∃ blamed, Blames blamed (readOperand key value) := by
  have decided := Value.decidedBy_ofJson value proper
  refine ⟨?_, fun made read => ⟨?_, Value.ofJson_toJson value read⟩, fun number => ?_, ?_, ?_, ?_⟩
  · exact decided.exists_ok_iff.trans Json.firstUnsigned?_eq_none
  · exact Value.toJson_of_ofJson value proper read
  · exact (decided.error_iff number).mp
  · intro home form key data
    have readable := decidedBy_read home proper data
    have fine : form.read home value = .ok () ↔ value.Exact := by
      rw [← Json.firstUnsigned?_eq_none, ← Option.map_eq_none_iff]
      exact Iff.trans ⟨fun read => ⟨(), read⟩, fun ⟨_, read⟩ => read⟩ readable.exists_ok_iff
    refine ⟨fine, fun payload altered clauses other accepted => ⟨fun within => ?_, ?_⟩⟩
    · have carries : Carries (form.read home value) (form.read home other)
          (readClauses home payload) (readClauses home altered) := carries_of_passed within.carries
      exact fine.mp (carries clauses accepted).1
    · intro number first within
      have carries : Carries (form.read home other) (form.read home value)
          (readClauses home payload) (readClauses home altered) := carries_of_passed within.carries
      refine (carries clauses accepted).2 _ ((readable.error_iff _).mpr ?_)
      rw [inexact, Json.firstUnsigned?, first]
      rfl
  · rintro key entries rfl data
    exact decidedBy_readProperties key proper data
  · rintro key entries rfl
    exact readOperand_object_cases key entries

/-- A list in a comparison is a value with its object sorted; with an integer of 64 bits behind the
object, the payload is refused. -/
theorem values_exact_comparedInLoop :
    let one : Json := .object [("b", .number (.integer 1)), ("a", .null)]
    let beyond : Json := .array [one, .number (.integer 9223372036854775808)]
    (∃ made, Value.ofJson one = .ok made ∧
      made.toJson = .object [("a", .null), ("b", .number (.integer 1))]) ∧
    readClauses 0 (comparedInLoop beyond) =
      .error (unexpected "gt" .exactNumber (.number (.integer 9223372036854775808))) := by
  intro one beyond
  have names : ([("b", Json.number (.integer 1)), ("a", .null)].map Prod.fst).Nodup := by decide
  have inner : one.Proper := by simp [one, Json.Proper, Json.ProperEntries, Number.Fits]
  have outer : beyond.Proper := by
    simp [beyond, Json.Proper, Json.ProperItems, inner, Number.Fits]
  have exact : one.Exact := by
    unfold Json.Exact
    decide
  have accepted : ∃ clauses, readClauses 0 (comparedInLoop .null) = .ok clauses := ⟨_, rfl⟩
  constructor
  · obtain ⟨made, read⟩ := (values_exact inner).1.mpr exact
    refine ⟨made, read, ((values_exact inner).2.1 made read).1.trans ?_⟩
    show Json.object (Text.byBytes [("b", .number (.integer 1)), ("a", .null)]) = _
    rw [← Value.sortEntries_eq_byBytes names]
    rfl
  · obtain ⟨clauses, read⟩ := accepted
    obtain ⟨-, -, -, data, -⟩ := values_exact outer
    obtain ⟨-, refused⟩ := data 0 (.operand "gt") "gt" rfl
    exact (refused _ _ clauses .null read).2 _ (by decide) (within_comparedInLoop _ _)

/-- An object has no number that does not fit, and is refused among the values of properties. -/
theorem object_refused :
    let value : Json := .object [("b", .number (.integer 1))]
    value.Proper ∧ value.Exact ∧ (∃ made, Value.ofJson value = .ok made) ∧
      (Form.operand "a").read 0 value = .error (unexpected "a" .operand value) ∧
      readClauses 0 (.object [("set", .object
        [("identifier", .string "n"), ("properties", .object [("a", value)])])]) =
        .error (unexpected "a" .operand value) := by
  refine ⟨?_, ?_, ⟨_, rfl⟩, rfl, rfl⟩
  · simp [Json.Proper, Json.ProperEntries, Number.Fits]
  · unfold Json.Exact
    decide

end Payload

end Cypher
