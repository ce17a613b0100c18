import Cypher.Query

/-!
# Filling gaps

A text that is put together from parts and filled is the same as the text that
is put together from the filled parts: no part is chosen by what stands for a
name.
-/

namespace Cypher

variable {ρ σ : Type}

namespace Fragment

theorem map_eq (f : ρ → σ) (fragment : List (Piece ρ)) :
    map f fragment = fragment.map (mapPiece f) := by
  induction fragment with
  | nil => simp [map]
  | cons piece rest ih => simp [map, ih]

theorem mapAll_eq (f : ρ → σ) (fragments : List (List (Piece ρ))) :
    mapAll f fragments = fragments.map (map f) := by
  induction fragments with
  | nil => simp [mapAll]
  | cons fragment rest ih => simp [mapAll, ih]

@[simp] theorem map_nil (f : ρ → σ) : map f [] = [] := by
  rw [map]

@[simp] theorem map_cons (f : ρ → σ) (piece : Piece ρ) (rest : Fragment ρ) :
    map f (piece :: rest) = mapPiece f piece :: map f rest := by
  rw [map]

@[simp] theorem map_append (f : ρ → σ) (first second : Fragment ρ) :
    map f (first ++ second) = map f first ++ map f second := by
  rw [map_eq, map_eq, map_eq, List.map_append]

@[simp] theorem isEmpty_map (f : ρ → σ) (fragment : Fragment ρ) :
    (map f fragment).isEmpty = fragment.isEmpty := by
  rw [map_eq, List.isEmpty_map]

attribute [simp] mapPiece

theorem map_joinedBy (f : ρ → σ) (separator : String) (fragments : List (Fragment ρ)) :
    map f (joinedBy separator fragments) = joinedBy separator (fragments.map (map f)) := by
  fun_induction joinedBy separator fragments with
  | case1 => simp [joinedBy]
  | case2 => simp [joinedBy]
  | case3 fragment next rest ih => simp [joinedBy, ih]

/-- Texts that have no gaps, one for each item. -/
theorem map_joined {α : Type} {f : ρ → σ} {write : α → Fragment ρ} {write' : α → Fragment σ}
    (each : ∀ item, map f (write item) = write' item) (separator : String) (items : List α) :
    map f (joinedBy separator (items.map write)) = joinedBy separator (items.map write') := by
  rw [map_joinedBy, List.map_map]
  congr 1
  exact List.map_congr_left fun item _ => each item

theorem map_flatten (f : ρ → σ) (fragments : List (Fragment ρ)) :
    map f fragments.flatten = (fragments.map (map f)).flatten := by
  induction fragments with
  | nil => simp
  | cons fragment rest ih => simp [ih]

@[simp] theorem map_names (f : ρ → σ) (separator : String) (given : List String) :
    map f (names separator given) = names separator given :=
  map_joined (by simp) separator given

theorem map_braced (f : ρ → σ) (entries : List (Fragment ρ)) :
    map f (braced entries) = braced (entries.map (map f)) := by
  cases entries with
  | nil => simp [braced]
  | cons entry rest => simp [braced, map_joinedBy]

mutual

theorem mapPiece_granted (names : List String) (piece : Piece String) :
    mapPiece (Ref.resolve names) (mapPiece Ref.granted piece) = piece := by
  cases piece with
  | body fragments => simp [mapAll_granted names fragments]
  | _ => simp [Ref.resolve]

/-- What is granted already has no gaps. -/
theorem fill_granted (names : List String) (fragment : List (Piece String)) :
    map (Ref.resolve names) (map Ref.granted fragment) = fragment := by
  cases fragment with
  | nil => simp
  | cons piece rest => simp [mapPiece_granted names piece, fill_granted names rest]

theorem mapAll_granted (names : List String) (fragments : List (List (Piece String))) :
    mapAll (Ref.resolve names) (mapAll Ref.granted fragments) = fragments := by
  cases fragments with
  | nil => simp [mapAll]
  | cons fragment rest => simp [mapAll, fill_granted names fragment, mapAll_granted names rest]

end

/-- In a body, what is written stays and what is drafted is filled. -/
theorem fill_body {κ : Type} (names : List String) (written : List (κ × Fragment String))
    (drafted : List (Fragment Ref)) :
    mapPiece (Ref.resolve names)
        (.body (written.map (fun entry => map Ref.granted entry.2) ++ drafted)) =
      .body (written.map Prod.snd ++ drafted.map (fill names)) := by
  rw [mapPiece, mapAll_eq, List.map_append, List.map_map]
  congr 2
  exact List.map_congr_left fun entry _ => fill_granted names entry.2

end Fragment

/-! ## Conditions -/

@[simp] theorem BoundOperand.mapPiece_piece (f : ρ → σ) (operand : BoundOperand ρ) :
    Fragment.mapPiece f operand.piece = (operand.map f).piece := by
  cases operand <;> simp [piece, map]

@[simp] theorem Subject.mapPiece_piece (f : ρ → σ) (subject : Subject ρ) :
    Fragment.mapPiece f subject.piece = (subject.map f).piece := by
  cases subject <;> simp [piece, map]

theorem Comparison.map_fragment (f : ρ → σ) (comparison : Comparison ρ) :
    Fragment.map f comparison.fragment = (comparison.map f).fragment := by
  obtain ⟨subject, property, operator, operand⟩ := comparison
  cases operator <;> simp [fragment, map]

theorem Comparison.map_entry (f : ρ → σ) (comparison : Comparison ρ) :
    Fragment.map f comparison.entry = (comparison.map f).entry := by
  simp [entry, map]

namespace Where

variable (f : ρ → σ) (condition : Where ρ)

@[simp] theorem isEmpty_map : (condition.map f).isEmpty = condition.isEmpty :=
  List.isEmpty_map

@[simp] theorem map_expression :
    Fragment.map f condition.expression = (condition.map f).expression := by
  rw [expression, expression, map, List.map_map]
  exact Fragment.map_joined (Comparison.map_fragment f) " AND " condition.comparisons

@[simp] theorem map_inline : Fragment.map f condition.inline = (condition.map f).inline := by
  rw [inline, Fragment.map_braced, inline, map, List.map_map, List.map_map]
  congr 1
  exact List.map_congr_left fun comparison _ => Comparison.map_entry f comparison

/-- Whether comparisons fit in a map does not depend on what they refer to. -/
theorem checkEntries_map (seen : List String) (comparisons : List (Comparison ρ)) :
    checkEntries seen (comparisons.map (·.map f)) = checkEntries seen comparisons := by
  induction comparisons generalizing seen with
  | nil => rfl
  | cons comparison rest ih =>
    rw [List.map_cons, checkEntries, checkEntries, ih]
    rfl

end Where

/-! ## Patterns -/

@[simp] theorem Label.map_fragment (f : ρ → σ) (label : Label) :
    Fragment.map f label.fragment = label.fragment := by
  cases label <;> simp [fragment]

@[simp] theorem map_labelPart (f : ρ → σ) (label : Option Label) :
    Fragment.map f (labelPart label) = labelPart label := by
  cases label with
  | none => simp [labelPart]
  | some label =>
    rw [labelPart, labelPart]
    split <;> simp

@[simp] theorem map_typePart (f : ρ → σ) (types : List String) :
    Fragment.map f (typePart types) = typePart types := by
  cases types <;> simp [typePart]

@[simp] theorem Hops.map_fragment (f : ρ → σ) (hops : Hops) :
    Fragment.map f hops.fragment = hops.fragment := by
  rw [fragment, fragment]
  split <;> simp

@[simp] theorem map_subjectPart (f : ρ → σ) (subject : Option (Subject ρ)) :
    Fragment.map f (subjectPart subject) = subjectPart (subject.map (Subject.map f)) := by
  cases subject <;> simp [subjectPart]

@[simp] theorem map_headAndInside (f : ρ → σ) (head inside : Fragment ρ) :
    Fragment.map f (headAndInside head inside) =
      headAndInside (Fragment.map f head) (Fragment.map f inside) := by
  simp only [headAndInside, Fragment.isEmpty_map]
  split
  · rfl
  · split <;> simp

@[simp] theorem Direction.map_around (f : ρ → σ) (direction : Direction) (inside : Fragment ρ) :
    Fragment.map f (direction.around inside) = direction.around (Fragment.map f inside) := by
  cases direction <;> simp [around]

/-- Fills the gaps of a filter. -/
def FilterText.fill (names : List String) (filter : FilterText Ref) : FilterText String :=
  ⟨filter.subject.map (Subject.map (Ref.resolve names)), filter.inside.fill names,
    filter.hoisted.fill names⟩

/-- Patterns put together are filled one by one. -/
theorem PatternText.fill_together {join : List (Fragment Ref) → Fragment Ref}
    {join' : List (Fragment String) → Fragment String} {names : List String}
    (joined : ∀ fragments, (join fragments).fill names = join' (fragments.map (Fragment.fill names)))
    (parts : List (PatternText Ref)) :
    (PatternText.together join parts).fill names =
      PatternText.together join' (parts.map (PatternText.fill names)) := by
  rw [together, fill, joined, together]
  simp only [Where.fill, Where.map, List.map_map, List.map_flatten]
  rfl

/-! ## Clauses -/

@[simp] theorem map_hoistedPart (f : ρ → σ) (hoisted : Where ρ) :
    Fragment.map f (hoistedPart hoisted) = hoistedPart (hoisted.map f) := by
  rw [hoistedPart, hoistedPart, Where.isEmpty_map]
  split <;> simp

@[simp] theorem Keyword.map_before (f : ρ → σ) (keyword : Keyword) (rest : Fragment ρ) :
    Fragment.map f (keyword.before rest) = keyword.before (Fragment.map f rest) := by
  simp [before]

@[simp] theorem Where.map_clause (f : ρ → σ) (condition : Where ρ) :
    Fragment.map f condition.clause = (condition.map f).clause := by
  rw [clause, clause, Where.isEmpty_map]
  split <;> simp

@[simp] theorem map_propertyAccess (f : ρ → σ) (identifier : String) (property : Option String) :
    Fragment.map f (propertyAccess identifier property) = propertyAccess identifier property := by
  cases property <;> simp [propertyAccess]

@[simp] theorem Removal.map_fragment (f : ρ → σ) (removal : Removal) :
    Fragment.map f removal.fragment = removal.fragment := by
  cases removal with
  | properties identifier names => exact Fragment.map_joined (by simp) ", " names
  | labels identifier names => simp [fragment]

@[simp] theorem Deletion.map_fragment (f : ρ → σ) (deletion : Deletion) :
    Fragment.map f deletion.fragment = deletion.fragment := by
  cases deletion <;> simp [fragment]

@[simp] theorem ProjectionItem.map_fragment (f : ρ → σ) (item : ProjectionItem) :
    Fragment.map f item.fragment = item.fragment := by
  rw [fragment, fragment]
  split <;> simp

@[simp] theorem Projection.map_fragment (f : ρ → σ) (projection : Projection) :
    Fragment.map f projection.fragment = projection.fragment := by
  cases projection with
  | names given => simp [fragment]
  | items given => exact Fragment.map_joined (by simp) ", " given

@[simp] theorem SortItem.map_fragment (f : ρ → σ) (item : SortItem) :
    Fragment.map f item.fragment = item.fragment := by
  rw [fragment, fragment]
  split <;> simp

/-- A condition that is bound already has no gaps. -/
theorem Where.fill_granted (names : List String) (condition : Where String) :
    (condition.map Ref.granted).fill names = condition := by
  obtain ⟨comparisons⟩ := condition
  rw [fill, map, map, List.map_map]
  congr 1
  refine (List.map_congr_left fun comparison _ => ?_).trans (List.map_id comparisons)
  obtain ⟨subject, property, operator, operand⟩ := comparison
  cases subject <;> cases operand <;> rfl

end Cypher
