import Cypher.Proofs.Asking
import Cypher.Proofs.Filling
import Cypher.Proofs.Nesting
import Cypher.Proofs.Rendering

/-!
# Rendering does what checks and drafts say

Rendering a clause in place fails with the error of its check, and otherwise
grants what its draft asks for and fills the gaps of the draft, although the
checks come between the grants.
-/

namespace Cypher

open Asking (Yields yields_pure yields_true yields_bind)

variable {α β γ δ : Type} {names : List String} {fill : α → β} {fill' : γ → δ}

/-! ## Renderings that cannot fail -/

/-- The rendering grants what the draft asks for and has the result of the draft, with its gaps
filled by `names`, when these go on with what is granted. -/
def Grants (names : List String) (draft : Asking α) (fill : α → β) (render : Rendering β) : Prop :=
  ∀ allocator asked, ∃ new, (draft.run asked).2 = asked ++ new ∧
    ((allocator.grantAll new).1 <+: names.drop asked.length →
      render.run allocator = .ok (fill (draft.run asked).1) (allocator.grantAll new).2)

theorem grants_pure {result : α} {result' : β} (same : fill result = result') :
    Grants names (pure result) fill (pure result') := by
  intro allocator asked
  refine ⟨[], (List.append_nil asked).symm, fun _ => ?_⟩
  rw [← same]
  rfl

theorem grants_ask (request : Request) :
    Grants names (ask request) (Ref.resolve names) (obtainName request) := by
  intro allocator asked
  refine ⟨[request], rfl, fun granted => ?_⟩
  obtain ⟨later, split⟩ := granted
  have named : (Ref.asked asked.length).resolve names = (allocator.grant request).1 := by
    rw [Ref.resolve, List.getD_eq_getElem?_getD, ← List.head?_drop, ← split]
    rfl
  exact congrArg (EStateM.Result.ok · _) named.symm

theorem grants_bind {kind : α → Prop} {draft : Asking α} {next : α → Asking γ}
    {render : Rendering β} {more : β → Rendering δ} (yields : Yields kind draft)
    (first : Grants names draft fill render)
    (second : ∀ result, kind result → Grants names (next result) fill' (more (fill result))) :
    Grants names (draft >>= next) fill' (render >>= more) := by
  intro allocator asked
  obtain ⟨new, grown, ran⟩ := first allocator asked
  obtain ⟨new', grown', ran'⟩ :=
    second _ (yields asked) (allocator.grantAll new).2 (draft.run asked).2
  refine ⟨new ++ new', ?_, fun granted => ?_⟩
  · rw [← List.append_assoc, ← grown]
    exact grown'
  · rw [grantAll_append] at granted ⊢
    rw [EStateM.run_bind, ran ((List.prefix_append _ _).trans granted)]
    refine ran' ?_
    obtain ⟨later, split⟩ := granted
    refine ⟨later, ?_⟩
    rw [grown, List.length_append, ← List.drop_drop, ← split, List.append_assoc,
      ← length_grantAll allocator new, List.drop_left]

/-- What is made of a result is made of the filled one. -/
theorem grants_map {draft : Asking α} {render : Rendering β} {make : α → γ} {make' : β → δ}
    (grants : Grants names draft fill render)
    (same : ∀ result, fill' (make result) = make' (fill result)) :
    Grants names (draft >>= fun result => pure (make result)) fill'
      (render >>= fun result => pure (make' result)) :=
  grants_bind (yields_true draft) grants fun result _ => grants_pure (same result)

theorem grants_askAll {draft : α → Asking γ} {render : α → Rendering δ} {items : List α}
    (each : ∀ item ∈ items, Grants names (draft item) fill' (render item)) :
    Grants names (askAll draft items) (List.map fill') (renderEach render items) := by
  induction items with
  | nil => exact grants_pure rfl
  | cons item rest ih =>
    simp only [List.forall_mem_cons] at each
    refine grants_bind (yields_true _) each.1 fun first _ => ?_
    exact grants_map (ih each.2) fun more => List.map_cons

/-- Rendering from the start is settling the draft. -/
theorem run_eq_settle {draft : Asking α} {fill : List String → α → β} {render : Rendering β}
    (grants : ∀ names, Grants names draft (fill names) render) (allocator : Allocator) :
    render.run allocator =
      .ok (settle fill draft allocator).1 (settle fill draft allocator).2 := by
  obtain ⟨new, grown, ran⟩ :=
    grants (allocator.grantAll (draft.run []).2).1 allocator []
  obtain rfl : (draft.run []).2 = new := grown
  exact ran (List.prefix_refl _)

/-! ## Renderings with checks -/

/-- The rendering fails as the check does, and else does what the draft says. -/
structure Renders (names : List String) (check : Except Error Unit) (draft : Asking α)
    (fill : α → β) (render : Rendering β) : Prop where
  fails : ∀ error, check = .error error → ∀ allocator, ∃ after,
    render.run allocator = .error error after
  grants : check = .ok () → Grants names draft fill render

theorem renders_of_grants {draft : Asking α} {render : Rendering β}
    (grants : Grants names draft fill render) : Renders names (.ok ()) draft fill render :=
  ⟨nofun, fun _ => grants⟩

/-- A check before anything else. -/
theorem renders_demand (check : Except Error Unit) {check' : Except Error Unit} {draft : Asking α}
    {render : Rendering β} (renders : Renders names check' draft fill render) :
    Renders names (check >>= fun _ => check') draft fill (demand check >>= fun _ => render) := by
  cases check with
  | error error =>
    refine ⟨fun reason failed allocator => ⟨allocator, ?_⟩, nofun⟩
    obtain rfl : error = reason := Except.error.inj failed
    rfl
  | ok => exact renders

/-- A check that is the only one. -/
theorem renders_guard (check : Except Error Unit) {draft : Asking α} {render : Rendering β}
    (grants : Grants names draft fill render) :
    Renders names check draft fill (demand check >>= fun _ => render) := by
  have renders := renders_demand check (renders_of_grants grants)
  rwa [show (check >>= fun _ => Except.ok ()) = check from bind_pure_unit] at renders

theorem renders_map {check : Except Error Unit} {draft : Asking α} {render : Rendering β}
    {make : α → γ} {make' : β → δ} (renders : Renders names check draft fill render)
    (same : ∀ result, fill' (make result) = make' (fill result)) :
    Renders names check (draft >>= fun result => pure (make result)) fill'
      (render >>= fun result => pure (make' result)) where
  fails := by
    intro error failed allocator
    obtain ⟨after, ran⟩ := renders.fails error failed allocator
    exact ⟨after, by rw [EStateM.run_bind, ran]⟩
  grants := fun passed => grants_map (renders.grants passed) same

/-- One rendering after the other. The first does not know what its gaps will be filled with. -/
theorem renders_bind {check check' : Except Error Unit} {draft : Asking α} {next : α → Asking γ}
    {fill : List String → α → β} {fill' : List String → γ → δ} {render : Rendering β}
    {more : β → Rendering δ} (first : ∀ names, Renders names check draft (fill names) render)
    (second : ∀ names result,
      Renders names check' (next result) (fill' names) (more (fill names result))) :
    ∀ names, Renders names (check >>= fun _ => check') (draft >>= next) (fill' names)
      (render >>= more) := by
  intro names
  cases passed : check with
  | error reason =>
    refine ⟨fun error failed allocator => ?_, nofun⟩
    obtain rfl : reason = error := Except.error.inj failed
    obtain ⟨after, ran⟩ := (first names).fails reason passed allocator
    exact ⟨after, by rw [EStateM.run_bind, ran]⟩
  | ok =>
    refine ⟨fun error failed allocator => ?_, fun there => ?_⟩
    · -- what the first has granted fills its gaps, and the second fails from there
      have ran := run_eq_settle (fun names => (first names).grants passed) allocator
      obtain ⟨after, ran'⟩ := (second (allocator.grantAll (draft.run []).2).1 _).fails
        error failed (settle fill draft allocator).2
      refine ⟨after, ?_⟩
      rw [EStateM.run_bind, ran]
      exact ran'
    · exact grants_bind (yields_true draft) ((first names).grants passed)
        fun result _ => (second names result).grants there

theorem renders_each {check : α → Except Error Unit} {draft : α → Asking γ}
    {fill : List String → γ → δ} {render : α → Rendering δ} {items : List α}
    (each : ∀ item ∈ items, ∀ names,
      Renders names (check item) (draft item) (fill names) (render item)) :
    ∀ names, Renders names (checkEach check items) (askAll draft items) (List.map (fill names))
      (renderEach render items) := by
  induction items with
  | nil => exact fun _ => renders_of_grants (grants_pure rfl)
  | cons item rest ih =>
    simp only [List.forall_mem_cons] at each
    refine renders_bind each.1 fun names first => ?_
    exact renders_map (ih each.2 names) fun more => List.map_cons

/-! ## Conditions and properties -/

theorem Operand.grants_render (operand : Operand) (property : String) :
    Grants names (operand.ask property) (BoundOperand.map (Ref.resolve names))
      (operand.render property) := by
  cases operand with
  | value bound => exact grants_map (grants_ask _) fun _ => rfl
  | literal text => exact grants_pure rfl

theorem Condition.grants_render (condition : Condition) (subject : Subject Ref)
    (property : String) :
    Grants names (condition.ask subject property) (List.map (Comparison.map (Ref.resolve names)))
      (condition.render (subject.map (Ref.resolve names)) property) :=
  grants_askAll fun comparison _ =>
    grants_map (Operand.grants_render comparison.2 property) fun _ => rfl

theorem Conditions.grants_render (conditions : Conditions) (subject : Subject Ref) :
    Grants names (conditions.ask subject) (Where.fill names)
      (conditions.render (subject.map (Ref.resolve names))) := by
  refine grants_map (grants_askAll fun entry _ =>
    Condition.grants_render entry.2 subject entry.1) fun parts => ?_
  rw [Where.fill, Where.map, List.map_flatten]

theorem Criteria.grants_render (criteria : Criteria) :
    Grants names criteria.ask (Where.fill names) criteria.render := by
  refine grants_map (grants_askAll fun entry _ =>
    Conditions.grants_render entry.2 (.given entry.1)) fun parts => ?_
  simp only [Where.fill, Where.map, List.map_flatten, List.map_map]
  rfl

theorem Properties.grants_render (properties : Properties) (separator : String)
    (owner : Fragment Ref) :
    Grants names (properties.ask separator owner) (List.map (Fragment.fill names))
      (properties.render separator (owner.fill names)) := by
  refine grants_askAll fun entry _ =>
    grants_map (Operand.grants_render entry.2 entry.1) fun operand => ?_
  simp [Fragment.fill]

theorem Properties.grants_renderInline (properties : Properties) :
    Grants names properties.askInline (Fragment.fill names) properties.renderInline :=
  grants_map (Properties.grants_render properties ": " []) fun parts =>
    Fragment.map_braced _ parts

/-! ## Patterns -/

/-- What a map can say are equalities on different properties, none of which it has already. -/
theorem Where.checkEntries_eq_ok_iff {ρ : Type} {seen : List String}
    {comparisons : List (Comparison ρ)} :
    checkEntries seen comparisons = .ok () ↔
      (∀ comparison ∈ comparisons, comparison.operator = .eq) ∧
        (comparisons.map Comparison.property).Nodup ∧
        ∀ comparison ∈ comparisons, comparison.property ∉ seen := by
  induction comparisons generalizing seen with
  | nil => simp [checkEntries]
  | cons comparison rest ih =>
    have equality : comparison.operator.isEq = true ↔ comparison.operator = .eq := beq_iff_eq
    simp only [checkEntries, List.forall_mem_cons, List.map_cons, List.nodup_cons]
    split
    · next other =>
      have different : comparison.operator ≠ .eq := fun same => by simp [equality.mpr same] at other
      simp [different]
    · next isEq =>
      rw [Bool.not_eq_false, equality] at isEq
      split
      · next among => simp [among]
      · next unseen =>
        -- the rest is new to what was seen and to this property
        have apart : (∀ other ∈ rest, other.property ∉ comparison.property :: seen) ↔
            comparison.property ∉ rest.map Comparison.property ∧
              ∀ other ∈ rest, other.property ∉ seen := by
          simp only [List.mem_cons, not_or, forall₂_and, List.mem_map, not_exists, not_and]
        rw [ih, apart]
        tauto

/-- Equalities on properties, one for each entry. -/
theorem yields_equalities {entries : List (String × Condition)} (subject : Subject Ref)
    (values : ∀ entry ∈ entries, ∃ operand, entry.2 = .value operand) :
    Yields (fun parts => parts.flatten.map (fun comparison =>
        (comparison.property, comparison.operator)) = entries.map fun entry => (entry.1, .eq))
      (askAll (fun entry => entry.2.ask subject entry.1) entries) := by
  induction entries with
  | nil => exact yields_pure rfl
  | cons entry rest ih =>
    simp only [List.forall_mem_cons] at values
    obtain ⟨⟨operand, value⟩, values⟩ := values
    have here : Yields (fun comparisons : List (Comparison Ref) => comparisons.map (fun comparison =>
        (comparison.property, comparison.operator)) = [(entry.1, .eq)])
        (entry.2.ask subject entry.1) := by
      rw [value]
      exact fun _ => rfl
    refine yields_bind here fun first equality => yields_bind (ih values) fun more equalities => ?_
    refine yields_pure ?_
    rw [List.flatten_cons, List.map_append, equality, equalities]
    rfl

/-- The half of conditions that a pattern has room for is one equality for each property. -/
theorem Conditions.yields_inlineHalf (conditions : Conditions) (subject : Subject Ref) :
    Yields (fun condition => Where.checkEntries [] condition.comparisons = .ok ())
      (conditions.inlineHalf.ask subject) := by
  have values : ∀ entry ∈ conditions.inlineHalf.entries, ∃ operand, entry.2 = .value operand := by
    intro entry member
    obtain ⟨given, _, selected⟩ := List.mem_filterMap.mp member
    obtain ⟨condition, first, rfl⟩ := Option.map_eq_some_iff.mp selected
    obtain ⟨operand, _, rfl⟩ := Option.map_eq_some_iff.mp first
    exact ⟨operand, rfl⟩
  refine yields_bind (yields_equalities subject values) fun parts equalities => yields_pure ?_
  -- every operator is an equality, and the properties are the names of an ordered map
  refine Where.checkEntries_eq_ok_iff.mpr ⟨fun comparison member => ?_, ?_, nofun⟩
  · have among := List.mem_map_of_mem (f := fun comparison : Comparison Ref =>
      (comparison.property, comparison.operator)) member
    rw [equalities] at among
    obtain ⟨entry, _, same⟩ := List.mem_map.mp among
    exact (congrArg Prod.snd same).symm
  · have properties := congrArg (List.map Prod.fst) equalities
    rw [List.map_map, List.map_map] at properties
    have names : parts.flatten.map Comparison.property = conditions.inlineHalf.names := properties
    rw [names]
    exact conditions.inlineHalf.distinct

theorem grants_askSubject (stem : String) (subject : Option (Subject Ref)) :
    Grants names (askSubject stem subject) (Subject.map (Ref.resolve names))
      (obtainSubject stem (subject.map (Subject.map (Ref.resolve names)))) := by
  cases subject with
  | none => exact grants_map (grants_ask _) fun _ => rfl
  | some subject => exact grants_pure rfl

theorem Filter.renders (mode : Mode) (stem : String) (identifier : Option String)
    (filter : Filter) (names : List String) :
    Renders names (filter.check mode) (filter.ask stem identifier) (FilterText.fill names)
      (filter.render mode stem identifier) := by
  have given : (identifier.map Subject.given).map (Subject.map (Ref.resolve names)) =
      identifier.map Subject.given := by
    cases identifier <;> rfl
  cases filter with
  | nothing =>
    refine renders_of_grants (grants_pure ?_)
    rw [FilterText.fill, given]
    rfl
  | properties values =>
    refine renders_of_grants (grants_map (Properties.grants_renderInline values) fun inside => ?_)
    rw [FilterText.fill, given]
    rfl
  | conditions required =>
    refine renders_guard _ ?_
    refine grants_bind (Conditions.yields_inlineHalf required _) (Conditions.grants_render _ _) ?_
    intro bound fits
    -- the half inside is a map whatever was granted, so nothing fails after it is bound
    have inside : (bound.fill names).inline? = .ok (bound.inline.fill names) := by
      rw [Where.inline?, Where.fill, Where.map, Where.checkEntries_map, fits, Fragment.fill,
        Where.map_inline]
      rfl
    rw [inside]
    show Grants names _ _ (if required.hoistedHalf.isEmpty then _ else _)
    split
    · refine grants_pure ?_
      rw [FilterText.fill, given]
      rfl
    · have subject := @grants_askSubject names stem (identifier.map .given)
      rw [given] at subject
      refine grants_bind (yields_true _) subject fun about _ => ?_
      exact grants_map (Conditions.grants_render required.hoistedHalf about) fun hoisted => rfl

theorem PatternText.fill_raw (names : List String) (text : String) :
    PatternText.fill names ⟨[.raw text], .empty⟩ = ⟨[.raw text], .empty⟩ := by
  simp only [fill, Fragment.fill, Fragment.map_cons, Fragment.map_nil, Fragment.mapPiece]
  rfl

theorem Node.renders (mode : Mode) (node : Node) (names : List String) :
    Renders names (node.check mode) node.ask (PatternText.fill names) (node.render mode) := by
  cases node with
  | raw text => exact renders_of_grants (grants_pure (PatternText.fill_raw names text))
  | pattern shape =>
    refine renders_map (Filter.renders mode _ shape.identifier shape.filter names) fun filter => ?_
    simp [PatternText.fill, FilterText.fill, Fragment.fill]

theorem Relationship.renders (mode : Mode) (relationship : Relationship) (names : List String) :
    Renders names (relationship.check mode) relationship.ask (PatternText.fill names)
      (relationship.render mode) := by
  cases relationship with
  | raw text => exact renders_of_grants (grants_pure (PatternText.fill_raw names text))
  | pattern shape =>
    refine renders_demand _ ?_
    refine renders_map (Filter.renders mode _ shape.identifier shape.filter names) fun filter => ?_
    simp [PatternText.fill, FilterText.fill, Fragment.fill]

theorem PathElement.renders (mode : Mode) (element : PathElement) (names : List String) :
    Renders names (element.check mode) element.ask (PatternText.fill names)
      (element.render mode) := by
  cases element with
  | node element => exact element.renders mode names
  | relationship element => exact element.renders mode names

theorem Pattern.renders (mode : Mode) (pattern : Pattern) (names : List String) :
    Renders names (pattern.check mode) pattern.ask (PatternText.fill names)
      (pattern.render mode) := by
  cases pattern with
  | node single => exact single.renders mode names
  | nodes siblings =>
    have each := renders_each fun (node : Node) (_ : node ∈ siblings) => node.renders mode
    have together := renders_map (each names) (PatternText.fill_together
      (Fragment.map_joinedBy (Ref.resolve names) ", "))
    cases siblings with
    | nil => exact renders_guard (checkNonEmpty "multiple" []) (together.grants rfl)
    | cons node rest => exact renders_demand (checkNonEmpty "multiple" (node :: rest)) together
  | path elements =>
    have each := renders_each fun (element : PathElement) (_ : element ∈ elements) =>
      element.renders mode
    have together := renders_map (each names) (PatternText.fill_together
      (Fragment.map_flatten (Ref.resolve names)))
    exact renders_demand _ together

/-! ## Clauses -/

theorem Assignment.grants_render (assignment : Assignment) :
    Grants names assignment.ask (Fragment.fill names) assignment.render := by
  have owner : Fragment.fill names [.name assignment.identifier, .fixed "."] =
      [.name assignment.identifier, .fixed "."] := by
    simp [Fragment.fill]
  have properties := @Properties.grants_render names assignment.properties " = "
    [.name assignment.identifier, .fixed "."]
  rw [owner] at properties
  exact grants_map properties (Fragment.map_joinedBy (Ref.resolve names) ", ")

theorem Unwinding.grants_render (source : Unwinding) :
    Grants names source.ask (Fragment.mapPiece (Ref.resolve names)) source.render := by
  cases source with
  | expression text => exact grants_pure (by simp)
  | values items => exact grants_map (grants_ask _) fun ref => by simp

theorem Clause.renders_of_plain {clause : Clause} (plain : clause.body? = none)
    (home : AllocatorId) (names : List String) :
    Renders names (clause.check home) clause.ask (Fragment.fill names) (clause.render home) := by
  cases clause with
  | spliced keyword text => exact renders_guard _ (grants_pure (by simp [Fragment.fill]))
  | raw text => exact renders_guard _ (grants_pure (by simp [Fragment.fill]))
  | pattern use shape =>
    refine renders_map (shape.renders use.mode names) fun drafted => ?_
    simp [Fragment.fill, PatternText.fill, Where.fill]
  | assign moment assignment =>
    exact renders_guard _ (grants_map assignment.grants_render (by simp [Fragment.fill]))
  | remove removal => exact renders_guard _ (grants_pure (by simp [Fragment.fill]))
  | delete detach deletion =>
    refine renders_guard _ (grants_pure ?_)
    cases detach <;> simp [Fragment.fill]
  | project stage distinct projection =>
    exact renders_guard _ (grants_pure (by simp [Fragment.fill]))
  | sort items =>
    refine renders_demand _ (renders_guard _ (grants_pure ?_))
    rw [Fragment.fill, Keyword.map_before, Fragment.map_joined (SortItem.map_fragment _)]
  | unwind source newName =>
    refine renders_demand _ (renders_guard _ (grants_map source.grants_render ?_))
    simp [Fragment.fill]
  | page part count =>
    exact renders_guard _ (grants_map (grants_ask _) (by simp [Fragment.fill]))
  | restrict criteria =>
    exact renders_of_grants (grants_map criteria.grants_render (Where.map_clause _))
  | restrictBound condition =>
    refine renders_of_grants (grants_pure ?_)
    rw [Fragment.fill, Where.map_clause]
    exact congrArg Where.clause (Where.fill_granted names condition)
  | forEach item list body => cases plain
  | call body => cases plain

theorem Clause.renderAll_eq (home : AllocatorId) (clauses : List Clause) :
    Clause.renderAll home clauses = renderEach (Clause.render home) clauses := by
  induction clauses with
  | nil => rw [Clause.renderAll, renderEach]
  | cons clause rest ih => rw [Clause.renderAll, renderEach, ih]

theorem Clause.renders_renderBody {body : Body Clause}
    (each : ∀ inner ∈ body.pending, ∀ home names, Renders names (inner.check home) inner.ask
      (Fragment.fill names) (inner.render home))
    (home : AllocatorId) (key : String) (names : List String) :
    Renders names (Clause.checkBody home key body) (Clause.askBody body)
      (Fragment.mapPiece (Ref.resolve names)) (Clause.renderBody home key body) := by
  obtain ⟨written, pending, allocator⟩ := body
  have all : Renders names (Clause.checkAll allocator pending) (Clause.askAll pending)
      (List.map (Fragment.fill names)) (Clause.renderAll allocator pending) := by
    rw [Clause.checkAll_eq, Clause.askAll_eq, Clause.renderAll_eq]
    exact renders_each (fun inner member => each inner member allocator) names
  rw [Clause.checkBody, Clause.askBody, Clause.renderBody]
  -- the clauses inside are checked against the allocator of their own body
  by_cases foreign : allocator ≠ home
  · rw [if_pos foreign, if_pos foreign]
    exact renders_demand _ (renders_map all (Fragment.fill_body names written))
  · rw [if_neg foreign, if_neg foreign]
    exact renders_demand (.ok ()) (renders_map all (Fragment.fill_body names written))

/-- Rendering a clause does what its check and its draft say, at every depth. -/
theorem Clause.renders (clause : Clause) (home : AllocatorId) (names : List String) :
    Renders names (clause.check home) clause.ask (Fragment.fill names) (clause.render home) := by
  induction clause using Clause.induction generalizing home names with
  | plain clause noBody => exact Clause.renders_of_plain noBody home names
  | nested clause body nested ih =>
    have inside := Clause.renders_renderBody fun inner member =>
      ih inner (List.mem_append_right _ member)
    cases clause with
    | forEach item list loop =>
      obtain rfl := Option.some.inj nested
      refine renders_demand _ (renders_demand _ (renders_map (inside home _ names) fun inner => ?_))
      simp [Fragment.fill]
    | call called =>
      obtain rfl := Option.some.inj nested
      refine renders_map (inside home _ names) fun inner => ?_
      simp [Fragment.fill]
    | _ => cases nested

theorem Clause.renders_renderAll (home : AllocatorId) (clauses : List Clause)
    (names : List String) :
    Renders names (Clause.checkAll home clauses) (Clause.askAll clauses) (Query.fillAll names)
      (Clause.renderAll home clauses) := by
  rw [Clause.checkAll_eq, Clause.askAll_eq, Clause.renderAll_eq]
  exact renders_each (fun clause _ => clause.renders home) names

end Cypher
