import Cypher.Proofs.RefusedPatterns
import Cypher.Proofs.StrictPayloads
import Mathlib.Data.List.Induction
import Mathlib.Data.Nat.Find

/-!
# Paths go from node to node

A path is a node, and then relationships with a node behind each. What is given
as a path and is none is refused before anything of it is bound, and the first
element that is out of place is told. In a payload only an object can be out of
place: text is what its place requires.
-/

namespace Cypher

/-- A node, and any number of relationships with a node behind each. -/
inductive Alternates : List PathElement → Prop
  | node (node : Node) : Alternates [.node node]
  | step (node : Node) (relationship : Relationship) {rest : List PathElement} :
      Alternates rest → Alternates (.node node :: .relationship relationship :: rest)

/-- The element at that place is not of the kind that the place requires. -/
def Misplaced (elements : List PathElement) (index : Nat) : Prop :=
  ∃ element, elements[index]? = some element ∧ element.isNode ≠ decide (index % 2 = 0)

/-- No element before is misplaced. -/
structure FirstMisplaced (elements : List PathElement) (index : Nat) : Prop where
  misplaced : Misplaced elements index
  earlier : ∀ before < index, ¬ Misplaced elements before

/-- All elements are in place, and the last one is a relationship. -/
structure Dangling (elements : List PathElement) : Prop where
  filled : elements ≠ []
  placed : ∀ index, ¬ Misplaced elements index
  even : elements.length % 2 = 0

/-! ## Places -/

section Places

variable {elements rest : List PathElement}

theorem misplaced_zero {element : PathElement} :
    Misplaced (element :: rest) 0 ↔ element.isNode = false := by
  simp [Misplaced]

/-- Behind two elements, places are what they are without them. -/
theorem misplaced_add_two {first second : PathElement} {index : Nat} :
    Misplaced (first :: second :: rest) (index + 2) ↔ Misplaced rest index := by
  simp [Misplaced]

theorem misplaced_one {first second : PathElement} :
    Misplaced (first :: second :: rest) 1 ↔ second.isNode = true := by
  simp [Misplaced]

theorem not_misplaced_nil (index : Nat) : ¬ Misplaced [] index := by
  rintro ⟨_, ⟨⟩, _⟩

theorem not_misplaced_succ {element : PathElement} (index : Nat) :
    ¬ Misplaced [element] (index + 1) := by
  rintro ⟨_, ⟨⟩, _⟩

/-- The first two elements are a node and a relationship, and those behind them are in place. -/
theorem placed_cons_cons {first second : PathElement} :
    (∀ index, ¬ Misplaced (first :: second :: rest) index) ↔
      first.isNode = true ∧ second.isNode = false ∧ ∀ index, ¬ Misplaced rest index := by
  constructor
  · intro placed
    refine ⟨?_, ?_, fun index => misplaced_add_two.not.mp (placed (index + 2))⟩
    · simpa using misplaced_zero.not.mp (placed 0)
    · simpa using misplaced_one.not.mp (placed 1)
  · rintro ⟨node, relationship, placed⟩ index
    match index with
    | 0 => simpa [misplaced_zero] using node
    | 1 => simpa [misplaced_one] using relationship
    | index + 2 => exact misplaced_add_two.not.mpr (placed index)

theorem alternates_iff (elements : List PathElement) :
    Alternates elements ↔ (∀ index, ¬ Misplaced elements index) ∧ elements.length % 2 = 1 := by
  constructor
  · intro alternates
    induction alternates with
    | node node =>
      refine ⟨fun index => ?_, rfl⟩
      cases index with
      | zero => exact misplaced_zero.not.mpr nofun
      | succ index => exact not_misplaced_succ index
    | step node relationship _ ih =>
      refine ⟨placed_cons_cons.mpr ⟨rfl, rfl, ih.1⟩, ?_⟩
      rw [List.length_cons, List.length_cons, Nat.add_assoc, Nat.add_mod_right]
      exact ih.2
  · rintro ⟨placed, odd⟩
    induction elements using List.twoStepInduction with
    | nil => cases odd
    | singleton element =>
      cases element with
      | node node => exact .node node
      | relationship relationship => exact absurd (misplaced_zero.mpr rfl) (placed 0)
    | cons_cons first second rest ih _ =>
      obtain ⟨node, relationship, behind⟩ := placed_cons_cons.mp placed
      rw [List.length_cons, List.length_cons, Nat.add_assoc, Nat.add_mod_right] at odd
      cases first with
      | relationship _ => cases node
      | node first =>
        cases second with
        | node _ => cases relationship
        | relationship second => exact .step first second (ih behind odd)

/-! ## The check -/

theorem checkAlternation_cons_cons {first second : PathElement} (node : first.isNode = true)
    (relationship : second.isNode = false) (start : Nat) (rest : List PathElement) :
    checkAlternation start true (first :: second :: rest) =
      checkAlternation (start + 2) true rest := by
  rw [checkAlternation, if_pos node, checkAlternation, relationship]
  rfl

/-- The first element that is misplaced is told. -/
theorem checkAlternation_first {start index : Nat} (first : FirstMisplaced elements index) :
    checkAlternation start true elements =
      .error (.composition (.misplacedElement (start + index) (decide (index % 2 = 0)))) := by
  obtain ⟨misplaced, earlier⟩ := first
  induction elements using List.twoStepInduction generalizing start index with
  | nil => exact absurd misplaced (not_misplaced_nil index)
  | singleton element =>
    cases index with
    | zero =>
      rw [checkAlternation, misplaced_zero.mp misplaced]
      rfl
    | succ index => exact absurd misplaced (not_misplaced_succ index)
  | cons_cons first second rest ih _ =>
    match index with
    | 0 =>
      rw [checkAlternation, misplaced_zero.mp misplaced]
      rfl
    | 1 =>
      have node : first.isNode = true := by simpa using misplaced_zero.not.mp (earlier 0 (by omega))
      rw [checkAlternation, if_pos node, checkAlternation, misplaced_one.mp misplaced]
      rfl
    | index + 2 =>
      have node : first.isNode = true := by simpa using misplaced_zero.not.mp (earlier 0 (by omega))
      have relationship : second.isNode = false := by
        simpa using misplaced_one.not.mp (earlier 1 (by omega))
      have before (place : Nat) (less : place < index) : ¬ Misplaced rest place :=
        misplaced_add_two.not.mp (earlier (place + 2) (by omega))
      rw [checkAlternation_cons_cons node relationship, ih (misplaced_add_two.mp misplaced) before,
        Nat.add_mod_right, Nat.add_assoc, Nat.add_comm 2]

theorem checkAlternation_placed {start : Nat} (placed : ∀ index, ¬ Misplaced elements index) :
    checkAlternation start true elements =
      if elements.length % 2 = 0 then .error (.composition .danglingRelationship) else .ok () := by
  induction elements using List.twoStepInduction generalizing start with
  | nil => rfl
  | singleton element =>
    have node : element.isNode = true := by simpa using misplaced_zero.not.mp (placed 0)
    rw [checkAlternation, if_pos node]
    rfl
  | cons_cons first second rest ih _ =>
    obtain ⟨node, relationship, behind⟩ := placed_cons_cons.mp placed
    rw [checkAlternation_cons_cons node relationship, ih behind, List.length_cons, List.length_cons,
      Nat.add_assoc, Nat.add_mod_right]

/-- What is no path is empty, has a first misplaced element, or has a relationship at its end. -/
theorem not_alternates (broken : ¬ Alternates elements) :
    elements = [] ∨ (∃ index, FirstMisplaced elements index) ∨ Dangling elements := by
  by_cases misplaced : ∃ index, Misplaced elements index
  · classical
    exact .inr (.inl ⟨Nat.find misplaced, Nat.find_spec misplaced, fun _ => Nat.find_min misplaced⟩)
  · rw [not_exists] at misplaced
    by_cases filled : elements = []
    · exact .inl filled
    · refine .inr (.inr ⟨filled, misplaced, ?_⟩)
      by_contra odd
      exact broken ((alternates_iff elements).mpr ⟨misplaced, Nat.mod_two_ne_zero.mp odd⟩)

end Places

theorem checkPath_of_ne_nil {elements : List PathElement} (filled : elements ≠ []) :
    checkPath elements = checkAlternation 0 true elements := by
  obtain ⟨first, rest, rfl⟩ := List.exists_cons_of_ne_nil filled
  rfl

theorem FirstMisplaced.checkPath_eq {elements : List PathElement} {index : Nat}
    (first : FirstMisplaced elements index) :
    checkPath elements =
      .error (.composition (.misplacedElement index (decide (index % 2 = 0)))) := by
  rw [checkPath_of_ne_nil, checkAlternation_first first, Nat.zero_add]
  rintro rfl
  exact not_misplaced_nil index first.misplaced

theorem Dangling.checkPath_eq {elements : List PathElement} (dangling : Dangling elements) :
    checkPath elements = .error (.composition .danglingRelationship) := by
  rw [checkPath_of_ne_nil dangling.filled, checkAlternation_placed dangling.placed,
    if_pos dangling.even]

theorem checkPath_eq_ok_iff (elements : List PathElement) :
    checkPath elements = .ok () ↔ Alternates elements := by
  constructor
  · intro fine
    by_contra broken
    rcases not_alternates broken with rfl | ⟨index, first⟩ | dangling
    · cases fine
    · rw [first.checkPath_eq] at fine
      cases fine
    · rw [dangling.checkPath_eq] at fine
      cases fine
  · intro alternates
    obtain ⟨placed, odd⟩ := (alternates_iff elements).mp alternates
    rw [checkPath_of_ne_nil, checkAlternation_placed placed, if_neg (by omega)]
    rintro rfl
    cases odd

/-! ## Rendering -/

/-- A path that is none is refused at once. -/
theorem Clause.run_render_path_refused {elements : List PathElement} {error : Error}
    (failed : checkPath elements = .error error) (home : AllocatorId) (use : PatternUse)
    (allocator : Allocator) :
    ((Clause.pattern use (.path elements)).render home).run allocator = .error error allocator := by
  rw [Clause.render, Pattern.render, failed]
  rfl

/-- The elements of a path are rendered in order, and nothing is put between them. -/
theorem Clause.render_pattern_path {elements : List PathElement} (alternates : Alternates elements)
    (home : AllocatorId) (use : PatternUse) :
    (Clause.pattern use (.path elements)).render home =
      renderEach (PathElement.render use.mode) elements >>= fun parts =>
        pure (use.keyword.before (parts.map PatternText.text).flatten ++
          hoistedPart ⟨(parts.map fun part => part.hoisted.comparisons).flatten⟩) := by
  rw [Clause.render, Pattern.render, (checkPath_eq_ok_iff elements).mpr alternates]
  show (renderEach _ elements >>= _) >>= _ = _
  rw [bind_assoc]
  rfl

/-! ## Paths in payloads -/

namespace Payload

/-- Text is of the kind that is due, and an object with a direction is a relationship. -/
theorem readElement_isNode {isNodeDue : Bool} {item : Json} {element : PathElement}
    (read : readElement isNodeDue item = .ok element) :
    (∃ text, item = .string text) ∧ element.isNode = isNodeDue ∨
      ∃ fields : Fields, item = .object fields ∧ element.isNode = !fields.has "direction" := by
  cases item with
  | string text =>
    cases read
    cases isNodeDue <;> exact .inl ⟨⟨text, rfl⟩, rfl⟩
  | object fields =>
    refine .inr ⟨fields, rfl, ?_⟩
    have told : (findNamed? "direction" fields).isSome = Fields.has fields "direction" := rfl
    rw [readElement, told] at read
    split at read
    · next directed =>
      obtain ⟨_, -, ⟨⟩⟩ := bind_eq_ok read
      rw [directed]
      rfl
    · next undirected =>
      obtain ⟨_, -, ⟨⟩⟩ := bind_eq_ok read
      rw [Bool.eq_false_iff.mpr undirected]
      rfl
  | _ => obtain ⟨_, ⟨⟩, _⟩ := bind_eq_ok read

theorem readElements_getElem? {isNodeDue : Bool} {items : List Json} {elements : List PathElement}
    (read : readElements isNodeDue items = .ok elements) {index : Nat} {element : PathElement}
    (there : elements[index]? = some element) :
    ∃ item, items[index]? = some item ∧
      readElement (isNodeDue == (index % 2 = 0 : Bool)) item = .ok element := by
  induction items generalizing isNodeDue elements index with
  | nil =>
    cases read
    cases there
  | cons item rest ih =>
    rw [readElements] at read
    obtain ⟨first, here, read⟩ := bind_eq_ok read
    obtain ⟨more, behind, read⟩ := bind_eq_ok read
    cases read
    cases index with
    | zero =>
      cases there
      refine ⟨item, rfl, ?_⟩
      rw [show (isNodeDue == (0 % 2 = 0 : Bool)) = isNodeDue by simp]
      exact here
    | succ index =>
      rw [turn_succ]
      exact ih behind there

theorem required_eq_ok {fields : Fields} {name : String} {value : Json} :
    fields.required name = .ok value ↔ fields.get? name = some value := by
  unfold Fields.required
  cases fields.get? name with
  | none => exact iff_of_false nofun nofun
  | some other => rw [Except.ok.injEq, Option.some.injEq]

theorem readArray_eq_ok {key : String} {value : Json} {items : List Json}
    (read : readArray key value = .ok items) : value = .array items := by
  unfold readArray at read
  split at read
  · cases read
  · cases read
    rfl
  · cases read

/-- The elements of a path are read from the items of an array. -/
theorem readPatternFields_path {use use' : PatternUse} {fields : Fields}
    {elements : List PathElement}
    (read : readPatternFields use fields = .ok (.pattern use' (.path elements))) :
    ∃ items, fields.get? "related" = some (.array items) ∧ readElements true items = .ok elements := by
  unfold readPatternFields at read
  obtain ⟨shape, -, read⟩ := bind_eq_ok read
  cases shape with
  | none =>
    obtain ⟨_, -, ⟨⟩⟩ := bind_eq_ok read
  | some shape =>
    dsimp only at read
    split at read
    · obtain ⟨_, -, ⟨⟩⟩ := bind_eq_ok read
    · split at read
      · obtain ⟨_, -, read⟩ := bind_eq_ok read
        obtain ⟨_, -, read⟩ := bind_eq_ok read
        obtain ⟨_, -, ⟨⟩⟩ := bind_eq_ok read
      · obtain ⟨value, required, read⟩ := bind_eq_ok read
        obtain ⟨items, array, read⟩ := bind_eq_ok read
        obtain ⟨_, each, ⟨⟩⟩ := bind_eq_ok read
        refine ⟨items, ?_, each⟩
        rw [required_eq_ok.mp required, readArray_eq_ok array]

/-- Every element of a path is of the kind that its item tells. -/
theorem readPatternFields_kinds {use : PatternUse} {fields : Fields} {elements : List PathElement}
    (read : readPatternFields use fields = .ok (.pattern use (.path elements))) :
    ∃ items, fields.get? "related" = some (.array items) ∧
      ∀ (index : Nat) (element : PathElement), elements[index]? = some element →
        ∃ item, items[index]? = some item ∧
          ((∃ text, item = .string text) ∧ element.isNode = decide (index % 2 = 0) ∨
            ∃ entries : Fields, item = .object entries ∧
              element.isNode = !entries.has "direction") := by
  obtain ⟨items, there, read⟩ := readPatternFields_path read
  refine ⟨items, there, fun index element among => ?_⟩
  obtain ⟨item, given, read⟩ := readElements_getElem? read among
  rw [Bool.true_beq] at read
  exact ⟨item, given, readElement_isNode read⟩

end Payload

/-- What is given as a path is accepted just when it goes from node to node, for every use of it.
Else nothing is bound, and the error tells that there are no elements, or the first element that is
misplaced, or that the last one is a relationship. A path that is accepted fails only where one of
its elements does; otherwise its clause has the keyword, and behind a space the elements in order,
with nothing between them, and what they hand on. In a payload only objects can be misplaced. -/
theorem Clause.render_path (home : AllocatorId) (use : PatternUse) (elements : List PathElement)
    (allocator : Allocator) :
    let rendered := ((Clause.pattern use (.path elements)).render home).run allocator
    (checkPath elements = .ok () ↔ Alternates elements) ∧
    (elements = [] → rendered = .error (.emptyList "related") allocator) ∧
    (∀ index, FirstMisplaced elements index → rendered =
      .error (.composition (.misplacedElement index (decide (index % 2 = 0)))) allocator) ∧
    (Dangling elements →
      rendered = .error (.composition .danglingRelationship) allocator) ∧
    (¬ Alternates elements →
      elements = [] ∨ (∃ index, FirstMisplaced elements index) ∨ Dangling elements) ∧
    (Alternates elements →
      (∀ error after,
        (renderEach (PathElement.render use.mode) elements).run allocator = .error error after →
          rendered = .error error after) ∧
      ∀ parts after,
        (renderEach (PathElement.render use.mode) elements).run allocator = .ok parts after →
        ∃ fragment, rendered = .ok fragment after ∧
          let hoisted := (parts.map fun part => part.hoisted.comparisons).flatten
          Fragment.chars fragment = (use.keyword.text ++ " ").toList ++
            ((parts.map fun part => Fragment.chars part.text).flatten ++
              if hoisted.isEmpty then []
              else " WHERE ".toList ++ " AND ".toList.intercalate
                (hoisted.map fun comparison => Fragment.chars comparison.fragment))) ∧
    ∀ fields, Payload.readPatternFields use fields = .ok (.pattern use (.path elements)) →
      ∃ items, Payload.Fields.get? fields "related" = some (.array items) ∧
        (∀ (index : Nat) (element : PathElement), elements[index]? = some element →
          ∃ item, items[index]? = some item ∧
            ((∃ text, item = .string text) ∧ element.isNode = decide (index % 2 = 0) ∨
              ∃ entries, item = .object entries ∧
                element.isNode = !Payload.Fields.has entries "direction")) ∧
        ∀ index, Misplaced elements index →
          ∃ entries, items[index]? = some (.object entries) := by
  intro rendered
  refine ⟨checkPath_eq_ok_iff elements, ?_, ?_, ?_, not_alternates, ?_, ?_⟩
  · rintro rfl
    exact run_render_path_refused rfl home use allocator
  · intro index first
    exact run_render_path_refused first.checkPath_eq home use allocator
  · intro dangling
    exact run_render_path_refused dangling.checkPath_eq home use allocator
  · intro alternates
    have ran : rendered = _ := congrArg (EStateM.run · allocator)
      (render_pattern_path alternates home use)
    rw [EStateM.run_bind] at ran
    refine ⟨fun error after failed => ?_, fun parts after each => ?_⟩
    · rw [ran, failed]
    · rw [each] at ran
      refine ⟨_, ran, ?_⟩
      rw [Fragment.chars_append, Keyword.before, Fragment.chars, Fragment.pieceChars,
        Fragment.chars_flatten, chars_hoistedPart, List.map_map, List.append_assoc]
      rfl
  · intro fields read
    obtain ⟨items, there, kinds⟩ := Payload.readPatternFields_kinds read
    refine ⟨items, there, kinds, ?_⟩
    rintro index ⟨element, among, misplaced⟩
    obtain ⟨item, given, ⟨-, placed⟩ | ⟨entries, rfl, -⟩⟩ := kinds index element among
    · exact absurd placed misplaced
    · exact ⟨entries, given⟩

/-- Two nodes side by side are no path, and with a relationship between them they are one. -/
theorem Clause.render_path_raw :
    ((Clause.pattern .find (.path [.node (.raw "(a)"), .node (.raw "(b)")])).render 0).run .empty =
        .error (.composition (.misplacedElement 1 false)) .empty ∧
      ∃ fragment, ((Clause.pattern .create (.path [.node (.raw "(a)"),
        .relationship (.raw "-[:R]->"), .node (.raw "(b)")])).render 0).run .empty =
          .ok fragment .empty ∧ Fragment.chars fragment = "CREATE (a)-[:R]->(b)".toList := by
  constructor
  · have first : FirstMisplaced [.node (.raw "(a)"), .node (.raw "(b)")] 1 := by
      refine ⟨misplaced_one.mpr rfl, fun before less => ?_⟩
      rw [Nat.lt_one_iff.mp less, misplaced_zero]
      exact nofun
    obtain ⟨-, -, refused, -⟩ := render_path 0 .find [.node (.raw "(a)"), .node (.raw "(b)")] .empty
    exact refused 1 first
  · obtain ⟨-, -, -, -, -, accepted, -⟩ := render_path 0 .create
      [.node (.raw "(a)"), .relationship (.raw "-[:R]->"), .node (.raw "(b)")] .empty
    obtain ⟨fragment, rendered, text⟩ := (accepted (.step _ _ (.node _))).2 _ _ rfl
    exact ⟨fragment, rendered, text.trans (by decide +kernel)⟩

end Cypher
