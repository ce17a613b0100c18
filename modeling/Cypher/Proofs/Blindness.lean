import Cypher.Proofs.AlikeDrafts

/-!
# Statements do not depend on values

Two queries that differ in nothing but the values they bind either fail with
the same error or make the same statement, and hand out the same names.
-/

namespace Cypher

/-- The same request, but for the value. -/
inductive Request.Blind : Request → Request → Prop
  | parameter (name : String) (value value' : Value) :
      Blind (.parameter name value) (.parameter name value')
  | identifier (name : String) : Blind (.identifier name) (.identifier name)

/-- Everything is the same but values, and counts that fit 64 bits. -/
def Likeness.blind : Likeness where
  name := Eq
  value := fun _ _ => True
  count := fun count count' => count < 1 <<< 63 ∧ count' < 1 <<< 63
  home := Eq
  cached := fun entry entry' => entry.2 = entry'.2
  before := List.Forall₂ Request.Blind
  answer := Eq
  same := fun _ => rfl
  page := fun _ => trivial
  parameter := by
    rintro asked asked' wanted _ bound bound' before rfl _
    exact ⟨before.length_eq, List.rel_append before (.cons (.parameter wanted bound bound') .nil)⟩
  identifier := fun stem before =>
    ⟨before.length_eq, List.rel_append before (.cons (.identifier stem) .nil)⟩

/-- The same names in the same order, and the same reserved names. -/
structure Allocator.SameNames (first second : Allocator) : Prop where
  names : first.parameters.names = second.parameters.names
  reserved : ∀ name, name ∈ first.reserved ↔ name ∈ second.reserved

/-! ## Granting -/

theorem Allocator.freshAmong_congr {names names' : List String}
    (same : ∀ name, name ∈ names ↔ name ∈ names') (name : String) :
    freshAmong names name = freshAmong names' name := by
  fun_induction freshAmong names name with
  | case1 name present ih =>
    rw [ih, freshAmong.eq_def names' name, if_pos ((same name).mp present)]
  | case2 name absent =>
    rw [freshAmong, if_neg fun present => absent ((same name).mpr present)]

namespace Allocator.SameNames

variable {first second : Allocator}

theorem freshName (same : first.SameNames second) (name : String) :
    first.freshName name = second.freshName name := by
  refine freshAmong_congr (fun name => ?_) name
  rw [taken, taken, List.mem_append, List.mem_append, same.names, same.reserved]

theorem grant (same : first.SameNames second) {request request' : Request}
    (alike : request.Blind request') :
    (first.grant request).1 = (second.grant request').1 ∧
      (first.grant request).2.SameNames (second.grant request').2 := by
  cases alike with
  | parameter name value value' =>
    have fresh := same.freshName name
    refine ⟨fresh, ?_, same.reserved⟩
    simp only [Allocator.grant, Allocator.bind, OrderedMap.names_insert, fresh, same.names]
  | identifier name =>
    have fresh := same.freshName name
    refine ⟨fresh, same.names, fun other => ?_⟩
    simp only [Allocator.grant, Allocator.reserve, List.mem_append, fresh, same.reserved]

theorem grantAll (same : first.SameNames second) {requests requests' : List Request}
    (alike : List.Forall₂ Request.Blind requests requests') :
    (first.grantAll requests).1 = (second.grantAll requests').1 ∧
      (first.grantAll requests).2.SameNames (second.grantAll requests').2 := by
  induction alike generalizing first second with
  | nil => exact ⟨rfl, same⟩
  | cons asked _ ih =>
    obtain ⟨name, after⟩ := same.grant asked
    obtain ⟨names, last⟩ := ih after
    simp only [Allocator.grantAll, name, names]
    exact ⟨trivial, last⟩

end Allocator.SameNames

/-! ## Fragments -/

namespace Fragment

mutual

theorem alike_piece_refl {ρ : Type} {name : String → String → Prop} {ref : ρ → ρ → Prop}
    (same : ∀ given, name given given) (same' : ∀ answer, ref answer answer) (piece : Piece ρ) :
    piece.Alike name ref piece := by
  cases piece with
  | fixed text => exact .fixed text
  | raw text => exact .raw text
  | name given => exact .name (same given)
  | identifier answer => exact .identifier (same' answer)
  | parameter answer => exact .parameter (same' answer)
  | body fragments => exact .body (alike_all_refl same same' fragments)

theorem alike_refl {ρ : Type} {name : String → String → Prop} {ref : ρ → ρ → Prop}
    (same : ∀ given, name given given) (same' : ∀ answer, ref answer answer)
    (fragment : List (Piece ρ)) : List.Forall₂ (Piece.Alike name ref) fragment fragment := by
  cases fragment with
  | nil => exact .nil
  | cons piece rest => exact .cons (alike_piece_refl same same' piece) (alike_refl same same' rest)

theorem alike_all_refl {ρ : Type} {name : String → String → Prop} {ref : ρ → ρ → Prop}
    (same : ∀ given, name given given) (same' : ∀ answer, ref answer answer)
    (fragments : List (List (Piece ρ))) :
    List.Forall₂ (List.Forall₂ (Piece.Alike name ref)) fragments fragments := by
  cases fragments with
  | nil => exact .nil
  | cons fragment rest =>
    exact .cons (alike_refl same same' fragment) (alike_all_refl same same' rest)

end

mutual

theorem eq_of_alike_piece {ρ : Type} {piece piece' : Piece ρ} (alike : piece.Alike Eq Eq piece') :
    piece = piece' := by
  cases piece with
  | body fragments =>
    cases alike with
    | body inside => rw [eq_of_alike_all inside]
  | _ => cases alike; simp_all

theorem eq_of_alike {ρ : Type} {fragment fragment' : List (Piece ρ)}
    (alike : List.Forall₂ (Piece.Alike Eq Eq) fragment fragment') : fragment = fragment' := by
  cases fragment with
  | nil => cases alike; rfl
  | cons piece rest =>
    cases alike with
    | cons first others => rw [eq_of_alike_piece first, eq_of_alike others]

theorem eq_of_alike_all {ρ : Type} {fragments fragments' : List (List (Piece ρ))}
    (alike : List.Forall₂ (List.Forall₂ (Piece.Alike Eq Eq)) fragments fragments') :
    fragments = fragments' := by
  cases fragments with
  | nil => cases alike; rfl
  | cons fragment rest =>
    cases alike with
    | cons first others => rw [eq_of_alike first, eq_of_alike_all others]

end

end Fragment

theorem Ref.resolve_alike (names : List String) (ref ref' : Ref) (alike : ref.Alike .blind ref') :
    Ref.resolve names ref = Ref.resolve names ref' := by
  cases alike with
  | granted same => rw [(same : Eq _ _)]
  | asked same => rw [(same : Eq _ _)]

theorem fillAll_alike {fragments fragments' : List (Fragment Ref)}
    (alike : List.Forall₂ Likeness.blind.text fragments fragments') (names : List String) :
    Query.fillAll names fragments = Query.fillAll names fragments' := by
  induction alike with
  | nil => rfl
  | cons first _ ih =>
    have filled := Fragment.eq_of_alike (Fragment.alike_map (Ref.resolve_alike names) first)
    rw [Query.fillAll, Query.fillAll] at ih ⊢
    rw [List.map_cons, List.map_cons, Fragment.fill, Fragment.fill, filled, ih]

theorem Likeness.keeps_blind : Likeness.blind.Keeps := by
  rintro ⟨clause, fragment⟩ ⟨clause', fragment'⟩ same _
  obtain rfl : fragment = fragment' := same
  exact Fragment.alike_refl (fun _ => rfl) (fun _ => rfl) fragment

/-! ## Checks -/

section Checks

variable (mode : Mode)

theorem eq_of_forall₂_eq {α : Type} {first second : List α} (alike : List.Forall₂ Eq first second) :
    first = second := by
  rwa [List.forall₂_eq_eq_eq] at alike

theorem eq_of_optionRel {α : Type} {first second : Option α} (alike : Option.Rel Eq first second) :
    first = second := by
  cases alike with
  | none => rfl
  | some same => rw [same]

theorem Comparisons.operators_alike {comparisons comparisons' : List (Operator × Operand)}
    (alike : Comparisons.Alike .blind comparisons comparisons') :
    comparisons.map (fun comparison => comparison.1.key) =
      comparisons'.map fun comparison => comparison.1.key := by
  induction alike with
  | nil => rfl
  | cons first _ ih => rw [List.map_cons, List.map_cons, first.1, ih]

theorem Filter.check_alike {filter filter' : Filter} (alike : filter.Alike .blind filter') :
    filter.check mode = filter'.check mode := by
  cases alike with
  | nothing => rfl
  | properties values => rfl
  | @conditions required required' related =>
    have hoisted := Conditions.alike_hoistedHalf related
    rw [Conditions.Alike, OrderedMap.Alike] at hoisted
    unfold Filter.check
    dsimp only
    generalize required.hoistedHalf.entries = entries at hoisted ⊢
    generalize required'.hoistedHalf.entries = entries' at hoisted ⊢
    cases hoisted with
    | nil => rfl
    | cons first _ =>
      -- the error names the first property and its operators, which are not values
      have operators := Comparisons.operators_alike first.2
      have named : Eq _ _ := first.1
      cases mode with
      | matching => rfl
      | creating => simp only [operators, named]

theorem Node.check_alike {node node' : Node} (alike : node.Alike .blind node') :
    node.check mode = node'.check mode := by
  cases alike with
  | raw text => rfl
  | pattern related => exact Filter.check_alike mode related.filter

theorem Relationship.check_alike {relationship relationship' : Relationship}
    (alike : relationship.Alike .blind relationship') :
    relationship.check mode = relationship'.check mode := by
  cases alike with
  | raw text => rfl
  | pattern related =>
    rw [Relationship.check, Relationship.check, related.hops, Filter.check_alike mode related.filter]

theorem PathElement.check_alike {element element' : PathElement}
    (alike : element.Alike .blind element') : element.check mode = element'.check mode := by
  cases alike with
  | node related => exact Node.check_alike mode related
  | relationship related => exact Relationship.check_alike mode related

theorem checkEach_alike {α : Type} {same : α → α → Prop} {check : α → Except Error Unit}
    (each : ∀ item item', same item item' → check item = check item') {items items' : List α}
    (alike : List.Forall₂ same items items') : checkEach check items = checkEach check items' := by
  induction alike with
  | nil => rfl
  | cons first _ ih => rw [checkEach, checkEach, each _ _ first, ih]

theorem checkAlternation_alike {elements elements' : List PathElement}
    (alike : List.Forall₂ (PathElement.Alike .blind) elements elements') (index : Nat)
    (isNodeDue : Bool) :
    checkAlternation index isNodeDue elements = checkAlternation index isNodeDue elements' := by
  induction alike generalizing index isNodeDue with
  | nil => rfl
  | @cons element element' _ _ first _ ih =>
    have kind : element.isNode = element'.isNode := by cases first <;> rfl
    rw [checkAlternation, checkAlternation, kind, ih]

theorem Pattern.check_alike {pattern pattern' : Pattern} (alike : pattern.Alike .blind pattern') :
    pattern.check mode = pattern'.check mode := by
  cases alike with
  | node related => exact Node.check_alike mode related
  | nodes related =>
    cases related with
    | nil => rfl
    | cons first others =>
      have each (node node' : Node) : node.Alike .blind node' → node.check mode = node'.check mode :=
        Node.check_alike mode
      exact checkEach_alike each (.cons first others)
  | @path elements elements' related =>
    have each (element element' : PathElement) :
        element.Alike .blind element' → element.check mode = element'.check mode :=
      PathElement.check_alike mode
    have turns := checkAlternation_alike related 0 true
    have path : checkPath elements = checkPath elements' := by
      cases related with
      | nil => rfl
      | cons first others => exact turns
    rw [Pattern.check, Pattern.check, checkEach_alike each related, path]

/-! Clauses that bind no values are the same. -/

theorem Removal.eq_of_alike {removal removal' : Removal} (alike : removal.Alike .blind removal') :
    removal = removal' := by
  cases alike with
  | properties identified names => rw [(identified : Eq _ _), eq_of_forall₂_eq names]
  | labels identified names => rw [(identified : Eq _ _), eq_of_forall₂_eq names]

theorem Deletion.eq_of_alike {deletion deletion' : Deletion}
    (alike : deletion.Alike .blind deletion') : deletion = deletion' := by
  cases alike with
  | identifiers names => rw [eq_of_forall₂_eq names]
  | literal text => rfl

theorem ProjectionItem.eq_of_alike {item item' : ProjectionItem} (alike : item.Alike .blind item') :
    item = item' := by
  obtain ⟨identifier, property, newName⟩ := item
  obtain ⟨identifier', property', newName'⟩ := item'
  obtain ⟨identified, accessed, renamed⟩ := alike
  have identified : identifier = identifier' := identified
  rw [identified, (eq_of_optionRel accessed : property = property'),
    (eq_of_optionRel renamed : newName = newName')]

theorem Projection.eq_of_alike {projection projection' : Projection}
    (alike : projection.Alike .blind projection') : projection = projection' := by
  cases alike with
  | names given => rw [eq_of_forall₂_eq given]
  | items given => rw [eq_of_forall₂_eq (given.imp fun _ _ => ProjectionItem.eq_of_alike)]

theorem SortItem.eq_of_alike {item item' : SortItem} (alike : item.Alike .blind item') :
    item = item' := by
  obtain ⟨identifier, property, direction⟩ := item
  obtain ⟨identifier', property', direction'⟩ := item'
  obtain ⟨identified, accessed, directed⟩ := alike
  have identified : identifier = identifier' := identified
  have directed : direction = direction' := directed
  rw [identified, (eq_of_optionRel accessed : property = property'), directed]

theorem Unwinding.check_alike {source source' : Unwinding} (alike : source.Alike .blind source') :
    source.check = source'.check := by
  cases alike <;> rfl

theorem Page.check_alike (part : Page) {count count' : Nat}
    (alike : Likeness.blind.count count count') : part.check count = part.check count' := by
  obtain ⟨fits, fits'⟩ := alike
  rw [Page.check, Page.check, if_pos fits, if_pos fits']

theorem Clause.check_alike_of_plain {clause clause' : Clause} (home : AllocatorId)
    (plain : clause.body? = none) (alike : clause.Alike .blind clause') :
    clause.check home = clause'.check home := by
  cases alike with
  | spliced keyword text => rfl
  | raw text => rfl
  | pattern use related =>
    rw [Clause.check, Clause.check]
    exact Pattern.check_alike use.mode related
  | @assign moment assignment assignment' related =>
    have identified : Eq _ _ := related.identifier
    have empty : assignment.properties.isEmpty = assignment'.properties.isEmpty :=
      isEmpty_alike related.properties
    rw [Clause.check, Clause.check, Assignment.check, Assignment.check, identified, empty]
  | remove related => rw [Removal.eq_of_alike related]
  | delete detach related => rw [Deletion.eq_of_alike related]
  | project stage distinct related => rw [Projection.eq_of_alike related]
  | sort related => rw [eq_of_forall₂_eq (related.imp fun _ _ => SortItem.eq_of_alike)]
  | unwind related named =>
    have named : Eq _ _ := named
    rw [Clause.check, Clause.check, Unwinding.check_alike related, named]
  | page part counted =>
    rw [Clause.check, Clause.check]
    exact Page.check_alike part counted
  | restrict related => rw [Clause.check, Clause.check]
  | restrictBound related => rw [Clause.check, Clause.check]
  | forEach => cases plain
  | call => cases plain

theorem Clause.checkBody_alike (home : AllocatorId) (key : String) {body body' : Body Clause}
    (alike : body.Alike .blind body')
    (each : ∀ inner ∈ Query.clauses body, ∀ inner', inner.Alike .blind inner' → ∀ home,
      inner.check home = inner'.check home) :
    Clause.checkBody home key body = Clause.checkBody home key body' := by
  cases alike with
  | @mk written written' pending pending' id id' _ _ later homes =>
    obtain rfl : id = id' := homes
    have known := (List.forall₂_and_left _ _).mpr ⟨fun inner member =>
      each inner (List.mem_append_right _ member), later⟩
    rw [Clause.checkBody, Clause.checkBody, Clause.checkAll_eq, Clause.checkAll_eq,
      checkEach_alike (fun _ _ both => both.1 _ both.2 id) known]

/-- Whether a clause is refused, and why, does not depend on values. -/
theorem Clause.check_alike {clause clause' : Clause} (alike : clause.Alike .blind clause')
    (home : AllocatorId) : clause.check home = clause'.check home := by
  induction clause using Clause.induction generalizing clause' home with
  | plain clause noBody => exact Clause.check_alike_of_plain home noBody alike
  | nested clause body nested ih =>
    cases alike with
    | forEach list named related =>
      obtain rfl := Option.some.inj nested
      have named : Eq _ _ := named
      rw [Clause.check, Clause.check, named, Clause.checkBody_alike home _ related ih]
    | call related =>
      obtain rfl := Option.some.inj nested
      rw [Clause.check, Clause.check, Clause.checkBody_alike home _ related ih]
    | _ => cases nested

end Checks

/-! ## Statements -/

theorem Clause.checkAll_alike {clauses clauses' : List Clause}
    (alike : List.Forall₂ (Clause.Alike .blind) clauses clauses') (home : AllocatorId) :
    Clause.checkAll home clauses = Clause.checkAll home clauses' := by
  rw [Clause.checkAll_eq, Clause.checkAll_eq]
  have each (clause clause' : Clause) (related : clause.Alike .blind clause') :
      clause.check home = clause'.check home := Clause.check_alike related home
  exact checkEach_alike each alike

/-- Clauses that differ in values only are settled as the same fragments. -/
theorem settle_alike {clauses clauses' : List Clause}
    (alike : List.Forall₂ (Clause.Alike .blind) clauses clauses') {allocator allocator' : Allocator}
    (same : allocator.SameNames allocator') :
    (settle Query.fillAll (Clause.askAll clauses) allocator).1 =
        (settle Query.fillAll (Clause.askAll clauses') allocator').1 ∧
      (settle Query.fillAll (Clause.askAll clauses) allocator).2.SameNames
        (settle Query.fillAll (Clause.askAll clauses') allocator').2 := by
  obtain ⟨drafts, requests⟩ := Clause.drafts_askAll Likeness.keeps_blind alike [] [] .nil
  obtain ⟨names, after⟩ := same.grantAll requests
  rw [settle_eq, settle_eq, names]
  exact ⟨fillAll_alike drafts _, after⟩

/-- Two queries that differ in nothing but values, written with allocators of the same names,
fail with the same error or make the same statement. -/
theorem Query.write_blind {first second : Query} {allocator allocator' : Allocator}
    (alike : Body.Alike .blind first second) (same : allocator.SameNames allocator') :
    (∃ error, first.write allocator = .error error ∧ second.write allocator' = .error error) ∨
      ∃ done done' after after', first.write allocator = .ok (done, after) ∧
        second.write allocator' = .ok (done', after') ∧ done.text = done'.text ∧
        after.SameNames after' := by
  cases alike with
  | @mk written written' pending pending' home home' _ cached later homes =>
    obtain rfl : home = home' := homes
    have fragments : written.map Prod.snd = written'.map Prod.snd := by
      refine eq_of_forall₂_eq ?_
      rwa [List.forall₂_map_left_iff, List.forall₂_map_right_iff]
    obtain ⟨settled, after⟩ := settle_alike later same
    -- the checks decide for both at once, and neither of them sees the allocator
    rw [Query.write_eq, Query.write_eq, ← Clause.checkAll_alike later home]
    cases Clause.checkAll home pending with
    | error error => exact .inl ⟨error, rfl, rfl⟩
    | ok passed =>
      refine .inr ⟨_, _, _, _, rfl, rfl, ?_, after⟩
      rw [Query.text, Query.text, Query.fragments_settled, Query.fragments_settled, fragments,
        settled]

/-- A page, and a call that takes values. -/
def pagedCall (count : Nat) (values : List Value) : Query :=
  ⟨[], [.page .skip count, .call ⟨[], [.unwind (.values values) "x"], 0⟩], 0⟩

theorem Query.write_blind_pagedCall :
    ∃ done done' after after', (pagedCall 3 [.null]).write .empty = .ok (done, after) ∧
      (pagedCall 4 []).write .empty = .ok (done', after') ∧ done.text = done'.text ∧
      after.SameNames after' := by
  have pages : Clause.Alike .blind (.page .skip 3) (.page .skip 4) :=
    .page .skip ⟨by decide, by decide⟩
  have values : Clause.Alike .blind (.unwind (.values [.null]) "x") (.unwind (.values []) "x") :=
    .unwind (.values trivial) rfl
  have alike : Body.Alike .blind (pagedCall 3 [.null]) (pagedCall 4 []) :=
    .mk .nil .nil (.cons pages (.cons (.call (.mk .nil .nil (.cons values .nil) rfl)) .nil)) rfl
  have same : Allocator.empty.SameNames .empty := ⟨rfl, fun _ => .rfl⟩
  obtain ⟨error, failed, _⟩ | done := Query.write_blind alike same
  · cases failed
  · exact done

end Cypher
