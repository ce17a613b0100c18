import Cypher.Proofs.RenderedDrafts
import Cypher.Proofs.WrittenNames

/-!
# Keys of a map

Equalities on different properties are written as a map, with one key for each
of them, in order. Values of properties become the map of such equalities.
The properties are compared as they are given and not as they are written, so
two of them have the same key when one is the quoted form of the other.
-/

namespace Cypher

/-! ## Keys that are the same -/

namespace Name

theorem escape_of_needsEscaping {name : String} (needs : needsEscaping name = true) :
    (escape name).toList = quoted name.toList := by
  rw [needsEscaping] at needs
  rw [toList_escape, written, needs, if_pos rfl, quoted]

/-- Two names are written alike when they are the same, or one is the quoted form of the other. -/
theorem escape_eq_escape_iff {first second : String} :
    escape first = escape second ↔
      first = second ∨ needsEscaping first = true ∧ escape first = second ∨
        needsEscaping second = true ∧ escape second = first := by
  constructor
  · intro same
    cases needs : needsEscaping first with
    | false =>
      rw [escape_of_not_needsEscaping needs] at same
      cases needs' : needsEscaping second with
      | false => exact .inl (same.trans (escape_of_not_needsEscaping needs'))
      | true => exact .inr (.inr ⟨rfl, same.symm⟩)
    | true =>
      cases needs' : needsEscaping second with
      | false => exact .inr (.inl ⟨rfl, same.trans (escape_of_not_needsEscaping needs')⟩)
      | true =>
        -- both are quoted, and what is between the quotes is read back
        have texts := congrArg String.toList same
        rw [escape_of_needsEscaping needs, escape_of_needsEscaping needs'] at texts
        have contents := congrArg read texts
        rw [read_quoted, read_quoted] at contents
        exact .inl (String.toList_inj.mp contents)
  · rintro (rfl | ⟨-, rfl⟩ | ⟨-, rfl⟩)
    · rfl
    · exact (escape_of_not_needsEscaping (needsEscaping_escape first)).symm
    · exact escape_of_not_needsEscaping (needsEscaping_escape second)

/-- None of the names stands beside its own quoted form. -/
def NoneQuotedAgain (names : List String) : Prop :=
  ∀ name ∈ names, needsEscaping name = true → escape name ∉ names

instance (names : List String) : Decidable (NoneQuotedAgain names) :=
  inferInstanceAs (Decidable (∀ name ∈ names, needsEscaping name = true → escape name ∉ names))

theorem nodup_escape_iff {names : List String} (distinct : names.Nodup) :
    (names.map escape).Nodup ↔ NoneQuotedAgain names := by
  rw [List.nodup_map_iff_inj_on distinct]
  constructor
  · intro injective name member needs among
    have fine := needsEscaping_escape name
    have same := injective name member (escape name) among
      (escape_of_not_needsEscaping fine).symm
    rw [← same, needs] at fine
    cases fine
  · intro apart first among second among' same
    rcases escape_eq_escape_iff.mp same with rfl | ⟨needs, rfl⟩ | ⟨needs, rfl⟩
    · rfl
    · exact absurd among' (apart first among needs)
    · exact absurd among (apart second among' needs)

end Name

/-! ## The map of a condition -/

/-- A map of keys and values in a statement; nothing when there are none. -/
def mapText : List (String × String) → String
  | [] => ""
  | entries =>
      "\x7b " ++ ", ".intercalate (entries.map fun entry => entry.1 ++ ": " ++ entry.2) ++ " \x7d"

/-- The key and the value that the comparison has in a map. -/
def Comparison.written (comparison : Comparison String) : String × String :=
  (Name.escape comparison.property, Fragment.text [comparison.operand.piece])

namespace Where

/-- The properties that are compared, in order. -/
def properties (condition : Where String) : List String :=
  condition.comparisons.map Comparison.property

/-- The keys and values of the condition as a map. -/
def entries (condition : Where String) : List (String × String) :=
  condition.comparisons.map Comparison.written

/-- The fragment is the map of the condition. It has one key for each comparison, in order, and
no key twice unless a property stands beside its own quoted form. -/
structure IsMap (condition : Where String) (inside : Fragment String) : Prop where
  text : inside.text = mapText condition.entries
  keys : condition.entries.map Prod.fst = condition.properties.map Name.escape
  distinct : (condition.entries.map Prod.fst).Nodup ↔ Name.NoneQuotedAgain condition.properties

theorem chars_entry (comparison : Comparison String) :
    Fragment.chars comparison.entry =
      (comparison.written.1 ++ ": " ++ comparison.written.2).toList := by
  simp only [Comparison.entry, Comparison.written, Fragment.chars, Fragment.pieceChars,
    Fragment.text, String.toList_append, String.toList_ofList, Name.toList_escape,
    List.append_assoc]

theorem text_inline (condition : Where String) :
    condition.inline.text = mapText condition.entries := by
  obtain ⟨comparisons⟩ := condition
  have parts : (comparisons.map Comparison.entry).map Fragment.chars =
      ((comparisons.map Comparison.written).map fun entry => entry.1 ++ ": " ++ entry.2).map
        String.toList := by
    rw [List.map_map, List.map_map, List.map_map]
    exact List.map_congr_left fun comparison _ => chars_entry comparison
  unfold inline entries
  cases comparisons with
  | nil => rfl
  | cons comparison rest =>
    show Fragment.text (.fixed "\x7b " ::
        Fragment.joinedBy ", " ((comparison :: rest).map Comparison.entry) ++ [.fixed " \x7d"]) =
      "\x7b " ++ ", ".intercalate (((comparison :: rest).map Comparison.written).map fun entry =>
        entry.1 ++ ": " ++ entry.2) ++ " \x7d"
    rw [← String.toList_inj, Fragment.text, String.toList_ofList, Fragment.chars_append,
      Fragment.chars, Fragment.chars_joinedBy, parts, String.toList_append, String.toList_append,
      String.toList_intercalate]
    rfl

/-- A map can say equalities on different properties, and nothing else. -/
theorem exists_inline?_iff {condition : Where String} :
    (∃ inside, condition.inline? = .ok inside) ↔
      condition.isEqualityOnly = true ∧ condition.properties.Nodup := by
  have equalities : condition.isEqualityOnly = true ↔
      ∀ comparison ∈ condition.comparisons, comparison.operator = .eq := by
    simp [isEqualityOnly, Operator.isEq]
  unfold inline?
  rw [equalities, properties]
  constructor
  · rintro ⟨inside, done⟩
    obtain ⟨_, passed, -⟩ := bind_eq_ok done
    obtain ⟨equal, different, -⟩ := checkEntries_eq_ok_iff.mp passed
    exact ⟨equal, different⟩
  · rintro ⟨equal, different⟩
    have passed : checkEntries [] condition.comparisons = .ok () :=
      checkEntries_eq_ok_iff.mpr ⟨equal, different, fun _ _ => List.not_mem_nil⟩
    rw [passed]
    exact ⟨condition.inline, rfl⟩

theorem isMap_inline {condition : Where String} (different : condition.properties.Nodup) :
    condition.IsMap condition.inline := by
  have keys : condition.entries.map Prod.fst = condition.properties.map Name.escape := by
    rw [entries, properties, List.map_map, List.map_map]
    rfl
  refine ⟨condition.text_inline, keys, ?_⟩
  rw [keys]
  exact Name.nodup_escape_iff different

end Where

/-! ## The map of property values -/

/-- Values of properties are settled to the map of a condition that requires them. -/
theorem Properties.settle_askInline (properties : Properties) (allocator : Allocator) :
    let settled := settle Fragment.fill properties.askInline allocator
    ∃ bound : Where String, settled.1 = bound.inline ∧ bound.properties = properties.names ∧
      bound.comparisons.map settled.2.requirement? = properties.requirements.map some := by
  intro settled
  have ran : properties.renderInline.run allocator = .ok settled.1 settled.2 :=
    run_eq_settle (fun _ => properties.grants_renderInline) allocator
  obtain ⟨-, bound, same, answers⟩ :=
    properties.ensures_answers (.given "") allocator _ _ (.refl allocator) ran
  have names := congrArg (List.map Prod.fst) (map_operator_of_answers answers)
  rw [List.map_map, List.map_map, requirements, List.map_map] at names
  exact ⟨bound, same, names, map_requirement?_of_answers answers⟩

/-- A condition can be written as a map just when it consists of equalities on different
properties, and is then written with one key for each of them, in order. Values of properties are
written as the map of the condition that requires them, whatever is allocated before. Different
properties have different keys unless one of them is the quoted form of another. -/
theorem Where.isMap_inline? (condition : Where String) (properties : Properties)
    (allocator : Allocator) :
    ((∃ inside, condition.inline? = .ok inside) ↔
        condition.isEqualityOnly = true ∧ condition.properties.Nodup) ∧
      (∀ inside, condition.inline? = .ok inside → condition.IsMap inside) ∧
      let settled := settle Fragment.fill properties.askInline allocator
      ∃ bound : Where String, bound.IsMap settled.1 ∧ bound.properties = properties.names ∧
        bound.comparisons.map settled.2.requirement? = properties.requirements.map some := by
  refine ⟨exists_inline?_iff, ?_, ?_⟩
  · intro inside done
    obtain ⟨-, different⟩ := exists_inline?_iff.mp ⟨inside, done⟩
    rw [← inline?_eq_ok done]
    exact isMap_inline different
  · intro settled
    obtain ⟨bound, same, names, required⟩ := properties.settle_askInline allocator
    have different : bound.properties.Nodup := names ▸ properties.distinct
    refine ⟨bound, ?_, names, required⟩
    rw [show settled.1 = bound.inline from same]
    exact isMap_inline different

/-- Properties that are a plain word, need quotes, and have them. -/
def variedNames : Criteria :=
  .ofList [("n", .ofList [("age", .value (.value (.int 1))),
    ("first name", .value (.value (.int 2))), ("`last name`", .value (.literal "$last"))])]

theorem Where.isMap_inline?_variedNames :
    let bound := (variedNames.bind .empty).1
    ∃ inside, bound.inline? = .ok inside ∧
      inside.text = "\x7b age: $age, `first name`: $`first name`, `last name`: $last \x7d" ∧
      (bound.entries.map Prod.fst).Nodup := by
  intro bound
  have done : bound.inline? = .ok bound.inline := rfl
  have isMap := (Where.isMap_inline? bound .empty .empty).2.1 bound.inline done
  refine ⟨bound.inline, done, ?_, isMap.distinct.mpr ?_⟩
  · rw [isMap.text]
    decide +kernel
  · decide +kernel

/-- Equalities on a property, and on the same property with its quotes. -/
def quotedAgain : Criteria :=
  .ofList [("n", .ofList [("a b", .value (.value (.int 1))), ("`a b`", .value (.value (.int 2)))])]

/-- Two entries with one key, in the map of a condition and in that of property values. -/
theorem Where.inline?_quotedAgain :
    let bound := (quotedAgain.bind .empty).1
    let values : Properties := .ofList [("a b", .value (.int 1)), ("`a b`", .value (.int 2))]
    bound.inline? = .ok bound.inline ∧
      bound.inline.text = "\x7b `a b`: $`a b`, `a b`: $`a b` \x7d" ∧
      ¬ (bound.entries.map Prod.fst).Nodup ∧
      (settle Fragment.fill values.askInline .empty).1.text = bound.inline.text := by
  refine ⟨rfl, ?_, ?_, ?_⟩ <;> decide +kernel

end Cypher
