import Cypher.Draft
import Mathlib.Data.List.Forall2

/-!
# Reasoning about drafts

A draft only appends to what was asked. Three judgements about drafts are put
together along their steps: `Yields` is about the results of one draft,
`Covers` ties its results to what it asks for, and `Relates` compares two
drafts that are run side by side.
-/

namespace Cypher

variable {α β γ δ : Type}

theorem grantAll_append (allocator : Allocator) (first second : List Request) :
    allocator.grantAll (first ++ second) =
      ((allocator.grantAll first).1 ++ ((allocator.grantAll first).2.grantAll second).1,
        ((allocator.grantAll first).2.grantAll second).2) := by
  induction first generalizing allocator with
  | nil => rfl
  | cons request rest ih => simp [Allocator.grantAll, ih]

theorem length_grantAll (allocator : Allocator) (requests : List Request) :
    (allocator.grantAll requests).1.length = requests.length := by
  induction requests generalizing allocator with
  | nil => rfl
  | cons request rest ih => simp [Allocator.grantAll, ih]

theorem settle_eq (fill : List String → α → β) (draft : Asking α) (allocator : Allocator) :
    settle fill draft allocator =
      (fill (allocator.grantAll (draft.run []).2).1 (draft.run []).1,
        (allocator.grantAll (draft.run []).2).2) :=
  rfl

namespace Asking

/-! ## One draft -/

/-- Whatever was asked before, the result is of this kind. -/
def Yields (kind : α → Prop) (draft : Asking α) : Prop := ∀ asked, kind (draft.run asked).1

theorem yields_pure {kind : α → Prop} {result : α} (holds : kind result) :
    Yields kind (pure result) :=
  fun _ => holds

theorem yields_true (draft : Asking α) : Yields (fun _ => True) draft := fun _ => trivial

theorem yields_bind {kind : α → Prop} {kind' : β → Prop} {draft : Asking α} {next : α → Asking β}
    (first : Yields kind draft) (second : ∀ result, kind result → Yields kind' (next result)) :
    Yields kind' (draft >>= next) :=
  fun asked => second _ (first asked) _

theorem yields_askAll {kind : β → Prop} {draft : α → Asking β} {items : List α}
    (each : ∀ item ∈ items, Yields kind (draft item)) :
    Yields (fun results => ∀ result ∈ results, kind result) (askAll draft items) := by
  induction items with
  | nil => exact yields_pure (by simp)
  | cons item rest ih =>
    simp only [List.forall_mem_cons] at each
    refine yields_bind each.1 fun first holds => yields_bind (ih each.2) fun more all => ?_
    exact yields_pure (by simpa using ⟨holds, all⟩)

/-! ## What is asked for -/

/-- The answers to the requests for parameters, of which the first has this number. -/
def issued : Nat → List Request → List Ref
  | _, [] => []
  | number, .parameter _ _ :: rest => .asked number :: issued (number + 1) rest
  | number, .identifier _ :: rest => issued (number + 1) rest

theorem issued_append (number : Nat) (first second : List Request) :
    issued number (first ++ second) =
      issued number first ++ issued (number + first.length) second := by
  induction first generalizing number with
  | nil => rfl
  | cons request rest ih =>
    have shift : number + 1 + rest.length = number + (rest.length + 1) := by omega
    cases request <;> simp [issued, ih, shift]

/-- What is granted in answer to the requests for parameters are the names of the new ones. -/
theorem names_grantAll (allocator : Allocator) (requests : List Request) (before : List String) :
    (allocator.grantAll requests).2.parameters.names =
      allocator.parameters.names ++ (issued before.length requests).map
        (Ref.resolve (before ++ (allocator.grantAll requests).1)) := by
  induction requests generalizing allocator before with
  | nil => simp [Allocator.grantAll, issued]
  | cons request rest ih =>
    cases request with
    | parameter name value =>
      -- the name is fresh, so that its parameter comes last
      have fresh : allocator.freshName name ∉ allocator.parameters.names := fun present =>
        allocator.freshName_not_taken name (List.mem_append_left _ present)
      have later := ih (allocator.bind name value).2 (before ++ [allocator.freshName name])
      simp only [List.length_append, List.length_singleton, List.append_assoc,
        List.singleton_append] at later
      simp only [Allocator.grantAll, Allocator.grant, issued, List.map_cons, later]
      simp [Allocator.bind, fresh, Ref.resolve]
    | identifier name =>
      have later := ih (allocator.reserve name).2 (before ++ [allocator.freshName name])
      simp only [List.length_append, List.length_singleton, List.append_assoc,
        List.singleton_append] at later
      simp only [Allocator.grantAll, Allocator.grant, issued, later]
      rfl

/-- The result refers to the parameters that it did before and to all that are asked for, to each
of them once. -/
def Covers (before : List Ref) (refs : α → List Ref) (draft : Asking α) : Prop :=
  ∀ asked, ∃ new, (draft.run asked).2 = asked ++ new ∧
    (refs (draft.run asked).1).Perm (before ++ issued asked.length new)

theorem covers_pure {before : List Ref} {refs : α → List Ref} {result : α}
    (same : (refs result).Perm before) : Covers before refs (pure result) := by
  refine fun asked => ⟨[], (List.append_nil asked).symm, ?_⟩
  rw [issued, List.append_nil]
  exact same

theorem covers_bind {before : List Ref} {refs : α → List Ref} {refs' : β → List Ref}
    {draft : Asking α} {next : α → Asking β} (first : Covers before refs draft)
    (second : ∀ result, Covers (refs result) refs' (next result)) :
    Covers before refs' (draft >>= next) := by
  intro asked
  obtain ⟨new, grown, covered⟩ := first asked
  obtain ⟨new', grown', covered'⟩ := second (draft.run asked).1 (draft.run asked).2
  refine ⟨new ++ new', ?_, ?_⟩
  · rw [← List.append_assoc, ← grown]
    exact grown'
  · rw [issued_append, ← List.append_assoc]
    have length : (draft.run asked).2.length = asked.length + new.length := by
      rw [grown, List.length_append]
    rw [length] at covered'
    exact covered'.trans (covered.append_right _)

/-- What was referred to before stays. -/
theorem covers_before {before : List Ref} {refs : α → List Ref} {draft : Asking α}
    (covers : Covers [] refs draft) : Covers before (fun result => before ++ refs result) draft := by
  intro asked
  obtain ⟨new, grown, covered⟩ := covers asked
  exact ⟨new, grown, covered.append_left before⟩

theorem covers_congr {before : List Ref} {refs refs' : α → List Ref} {draft : Asking α}
    (covers : Covers before refs draft) (same : ∀ result, (refs' result).Perm (refs result)) :
    Covers before refs' draft := by
  intro asked
  obtain ⟨new, grown, covered⟩ := covers asked
  exact ⟨new, grown, (same _).trans covered⟩

theorem covers_askAll {refs : β → List Ref} {draft : α → Asking β} {items : List α}
    (each : ∀ item ∈ items, Covers [] refs (draft item)) :
    Covers [] (fun results => results.flatMap refs) (askAll draft items) := by
  induction items with
  | nil => exact covers_pure .rfl
  | cons item rest ih =>
    simp only [List.forall_mem_cons] at each
    refine covers_bind each.1 fun first => covers_bind (covers_before (ih each.2)) fun more => ?_
    exact covers_pure .rfl

/-! ## Two drafts side by side -/

/-- When what was asked before is related, then so are the results and all that is asked then. -/
def Relates (before : List Request → List Request → Prop) (same : α → β → Prop)
    (first : Asking α) (second : Asking β) : Prop :=
  ∀ asked asked', before asked asked' →
    same (first.run asked).1 (second.run asked').1 ∧
      before (first.run asked).2 (second.run asked').2

variable {before : List Request → List Request → Prop}

theorem relates_pure {same : α → β → Prop} {first : α} {second : β} (holds : same first second) :
    Relates before same (pure first) (pure second) :=
  fun _ _ asked => ⟨holds, asked⟩

theorem relates_bind {same : α → β → Prop} {same' : γ → δ → Prop} {first : Asking α}
    {second : Asking β} {next : α → Asking γ} {next' : β → Asking δ}
    (here : Relates before same first second)
    (there : ∀ result result', same result result' →
      Relates before same' (next result) (next' result')) :
    Relates before same' (first >>= next) (second >>= next') := by
  intro asked asked' related
  obtain ⟨results, between⟩ := here asked asked' related
  exact there _ _ results _ _ between

theorem relates_askAll {alike : α → β → Prop} {same : γ → δ → Prop} {draft : α → Asking γ}
    {draft' : β → Asking δ} {items : List α} {items' : List β}
    (pairs : List.Forall₂ alike items items')
    (each : ∀ item item', alike item item' → Relates before same (draft item) (draft' item')) :
    Relates before (List.Forall₂ same) (askAll draft items) (askAll draft' items') := by
  induction pairs with
  | nil => exact relates_pure .nil
  | cons pair _ ih =>
    refine relates_bind (each _ _ pair) fun first first' one => relates_bind ih fun more more' all => ?_
    exact relates_pure (.cons one all)

end Asking
end Cypher
