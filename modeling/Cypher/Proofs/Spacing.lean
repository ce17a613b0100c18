import Cypher.Proofs.Lexing

/-!
# Spacing and lexemes

Joining fragments changes nothing but blanks: of the blanks between two lexemes
one space is left, and of those at the two ends nothing. When no fragment leaves
quotes open, the tokens of the statement are those of the fragments.
-/

namespace Cypher.Spacing

open Lexing

/-- The lexemes with one space in the place of the blanks between two others. -/
def squeeze : Mode → List (List Char) → List (List Char)
  | _, [] => []
  | mode, lexeme :: rest =>
      if Kind.of lexeme = .blank then squeeze (if mode = .blank then .blank else .gap) rest
      else if mode = .gap then [' '] :: lexeme :: squeeze .flush rest
      else lexeme :: squeeze .flush rest

/-- The lexemes of fragments that are joined. -/
def squeezeAll : Bool → List (List (List Char)) → List (List Char)
  | _, [] => []
  | begun, fragment :: rest =>
      let added := squeeze (if begun then .gap else .blank) fragment
      added ++ squeezeAll (begun || !added.isEmpty) rest

/-- Where the sweep stands, seen from the lexeme that is being read. -/
inductive Tracks : Mode → Phase → Prop
  | blank : Tracks .blank .idle
  | gap {phase : Phase} : phase.isOutside = true → Tracks .gap phase
  | flush {phase : Phase} : phase.isOutside = true → Tracks .flush phase
  | name : Tracks (.inside Name.backtick) .quoted
  | literal {quote : Char} : isQuote quote = true → quote ≠ Name.backtick →
      Tracks (.inside quote) (.literal quote)
  | escaped {quote : Char} : isQuote quote = true → quote ≠ Name.backtick →
      Tracks (.escaped quote) (.escaped quote)

/-- After a visible character outside of quotes the two still agree. -/
theorem Tracks.shown {phase : Phase} (outside : phase.isOutside = true) (c : Char) :
    Tracks (Mode.shown c) (phase.next c) := by
  rw [Mode.shown]
  rcases Phase.isOutside_next outside c with ⟨quote, begun⟩ | ⟨calm, out⟩
  · rw [begun, if_pos quote, Phase.start]
    split
    · next same => exact same ▸ .name
    · next other => simpa only [if_pos quote] using Tracks.literal quote other
  · rw [calm, if_neg Bool.false_ne_true]
    exact .flush out

/-- Inside of quotes too. -/
theorem Tracks.within {opener : Char} {phase : Phase} (tracks : Tracks (.inside opener) phase)
    (c : Char) : phase.cuts c = false ∧ Tracks (Mode.within opener c) (phase.next c) := by
  cases tracks with
  | name =>
    refine ⟨rfl, ?_⟩
    by_cases same : c = Name.backtick
    · subst same
      exact .flush rfl
    · have stays : Phase.quoted.next c = .quoted := by simp [Phase.next, Phase.cuts, same]
      have inside : Mode.within Name.backtick c = .inside Name.backtick := by
        simp [Mode.within, Name.backtick] at same ⊢
        exact same
      rw [stays, inside]
      exact .name
  | literal quote other =>
    refine ⟨rfl, ?_⟩
    have notTick : (opener != '`') = true := by simpa [Name.backtick] using other
    have notSlash : opener ≠ '\\' := by rintro rfl; exact absurd quote (by decide)
    simp only [Mode.within, Phase.next, Phase.cuts, notTick, Bool.and_true, beq_iff_eq,
      Bool.false_eq_true, if_false]
    split
    · exact .escaped quote other
    · split
      · exact .flush rfl
      · exact .literal quote other

theorem Tracks.afterEscape {opener : Char} {phase : Phase} (tracks : Tracks (.escaped opener) phase)
    (c : Char) : phase.cuts c = false ∧ Tracks (.inside opener) (phase.next c) := by
  cases tracks with
  | escaped quote other => exact ⟨rfl, .literal quote other⟩

/-! ## One fragment -/

/-- What is left of the lexemes of a text. -/
def settled (mode : Mode) (phase : Phase) (text : List Char) : List Char × List (List Char) :=
  if mode = .blank ∨ mode = .gap then ([], squeeze mode (lexemes text))
  else ((scan phase text).1, squeeze .flush (scan phase text).2)

theorem lexemes_blank {c : Char} (blank : Text.isBlank c = true) (rest : List Char) :
    lexemes (c :: rest) = [c] :: lexemes rest :=
  lexemes_cons_of_separates (separates_of_isBlank blank) rest

theorem squeeze_blank {c : Char} (blank : Text.isBlank c = true) (mode : Mode)
    (rest : List (List Char)) :
    squeeze mode ([c] :: rest) = squeeze (if mode = .blank then .blank else .gap) rest := by
  rw [squeeze, if_pos ((Kind.of_cons_eq_blank c []).mpr blank)]

theorem squeeze_visible {c : Char} (visible : ¬ Text.isBlank c = true) (mode : Mode)
    (ahead : List Char) (rest : List (List Char)) :
    squeeze mode ((c :: ahead) :: rest) =
      (if mode = .gap then [[' ']] else []) ++ (c :: ahead) :: squeeze .flush rest := by
  rw [squeeze, if_neg fun blank => visible ((Kind.of_cons_eq_blank c ahead).mp blank)]
  split <;> rfl

/-- Modes in which nothing is due before the next character. -/
def Mode.isAttached (mode : Mode) : Prop := ¬ (mode = .blank ∨ mode = .gap)

theorem isAttached_shown (c : Char) : (Mode.shown c).isAttached := by
  rw [Mode.shown]
  split <;> simp [Mode.isAttached]

theorem isAttached_within (opener c : Char) : (Mode.within opener c).isAttached := by
  rw [Mode.within]
  split
  · simp [Mode.isAttached]
  · split <;> simp [Mode.isAttached]

/-- A character that goes on with its lexeme. -/
theorem scan_sweep_of_not_cuts {mode after : Mode} {phase : Phase} {c : Char} {rest : List Char}
    (goesOn : phase.cuts c = false) (attached : mode.isAttached) (attached' : after.isAttached)
    (swept : scan (phase.next c) (sweep after rest) = settled after (phase.next c) rest) :
    scan phase (c :: sweep after rest) = settled mode phase (c :: rest) := by
  rw [settled, if_neg attached'] at swept
  rw [settled, if_neg attached, scan_of_not_cuts goesOn, scan_of_not_cuts goesOn, swept]

/-- Sweeping a text leaves its lexemes as they are, but for the blanks. -/
theorem scan_sweep {mode : Mode} {phase : Phase} (tracks : Tracks mode phase) (text : List Char) :
    scan phase (sweep mode text) = settled mode phase text := by
  induction text generalizing mode phase with
  | nil => cases tracks <;> rfl
  | cons c rest ih =>
    -- a visible character that begins a lexeme, with the sweep of what follows
    have begun (visible : ¬ Text.isBlank c = true) (squeezed : Mode) :
        (if squeezed = .gap then [[' ']] else []) ++ lexemes (c :: sweep (Mode.shown c) rest) =
          squeeze squeezed (lexemes (c :: rest)) := by
      have idle : Phase.idle.isOutside = true := rfl
      have swept := ih (Tracks.shown idle c)
      rw [settled, if_neg (isAttached_shown c), Phase.next_idle] at swept
      rw [lexemes_cons, lexemes_cons, swept, squeeze_visible visible]
    -- outside of quotes blanks are squeezed; inside of them every character is kept
    cases tracks with
    | blank =>
      by_cases blank : Text.isBlank c = true
      · rw [sweep, if_pos blank, ih .blank]
        simp [settled, lexemes_blank blank, squeeze_blank blank]
      · rw [sweep, if_neg blank, scan_of_breaks (breaks_idle _)]
        simpa [settled] using begun blank .blank
    | gap outside =>
      by_cases blank : Text.isBlank c = true
      · rw [sweep, if_pos blank, ih (.gap outside)]
        simp [settled, lexemes_blank blank, squeeze_blank blank]
      · have apart : separates ' ' = true := by decide
        rw [sweep, if_neg blank, scan_of_breaks (breaks_of_separates outside apart _),
          lexemes_cons_of_separates apart]
        simpa [settled] using begun blank .gap
    | flush outside =>
      by_cases blank : Text.isBlank c = true
      · have breaks := breaks_of_separates outside (separates_of_isBlank blank) rest
        rw [sweep, if_pos blank, ih (.gap outside)]
        simp [settled, scan_of_breaks breaks, lexemes_blank blank, squeeze_blank blank]
      · rw [sweep, if_neg blank]
        cases cut : phase.cuts c with
        | true =>
          have breaks := breaks_of_cuts cut
          rw [scan_of_breaks (breaks _), settled, if_neg (by simp), scan_of_breaks (breaks _)]
          simpa using begun blank .flush
        | false =>
          exact scan_sweep_of_not_cuts cut (by simp [Mode.isAttached]) (isAttached_shown c)
            (ih (.shown outside c))
    | name =>
      obtain ⟨goesOn, tracks⟩ := Tracks.name.within c
      exact scan_sweep_of_not_cuts goesOn (by simp [Mode.isAttached]) (isAttached_within _ c)
        (ih tracks)
    | literal quote other =>
      obtain ⟨goesOn, tracks⟩ := (Tracks.literal quote other).within c
      exact scan_sweep_of_not_cuts goesOn (by simp [Mode.isAttached]) (isAttached_within _ c)
        (ih tracks)
    | escaped quote other =>
      obtain ⟨goesOn, tracks⟩ := (Tracks.escaped quote other).afterEscape c
      exact scan_sweep_of_not_cuts goesOn (by simp [Mode.isAttached]) (by simp [Mode.isAttached])
        (ih tracks)

/-- A sweep leaves quotes open at the end where the text does. -/
theorem like_after_sweep {mode : Mode} {phase : Phase} (tracks : Tracks mode phase)
    (text : List Char) : Phase.Like (phase.after (sweep mode text)) (phase.after text) := by
  induction text generalizing mode phase with
  | nil => cases tracks <;> exact .inl rfl
  | cons c rest ih =>
    have idle : Phase.idle.isOutside = true := rfl
    -- blanks are dropped, which quotes do not notice
    have dropped {phase : Phase} (outside : phase.isOutside = true)
        (blank : Text.isBlank c = true) :
        Phase.Like (phase.after (sweep .gap rest)) (phase.after (c :: rest)) := by
      have same : Phase.Like phase (phase.next c) := by
        rw [Phase.next_of_separates outside (separates_of_isBlank blank)]
        exact .inr ⟨outside, rfl⟩
      exact (ih (.gap outside)).trans (same.after rest)
    cases tracks with
    | blank =>
      by_cases blank : Text.isBlank c = true
      · rw [sweep, if_pos blank, Phase.after_cons,
          Phase.next_of_separates idle (separates_of_isBlank blank)]
        exact ih .blank
      · rw [sweep, if_neg blank]
        exact ih (.shown idle c)
    | gap outside =>
      by_cases blank : Text.isBlank c = true
      · rw [sweep, if_pos blank]
        exact dropped outside blank
      · -- the space that stands for the gap is read before the character
        have spaced := Phase.next_of_separates outside (show separates ' ' = true by decide)
        have same : Phase.Like (Phase.idle.next c) (_ : Phase) :=
          Phase.Like.next (.inr ⟨idle, outside⟩) c
        rw [sweep, if_neg blank, Phase.after_cons, spaced]
        exact (ih (.shown idle c)).trans (same.after rest)
    | flush outside =>
      by_cases blank : Text.isBlank c = true
      · rw [sweep, if_pos blank]
        exact dropped outside blank
      · rw [sweep, if_neg blank]
        exact ih (.shown outside c)
    | name => exact ih (Tracks.name.within c).2
    | literal quote other => exact ih ((Tracks.literal quote other).within c).2
    | escaped quote other => exact ih ((Tracks.escaped quote other).afterEscape c).2

/-! ## Joined fragments -/

/-- What is swept into a statement that is begun is set apart from it. -/
theorem opensApart_sweep_gap (text : List Char) : OpensApart (sweep .gap text) := by
  induction text with
  | nil => exact opensApart_nil
  | cons c rest ih =>
    rw [sweep]
    split
    · exact ih
    · rintro d ⟨⟩
      decide

theorem opensApart_sweepAll (fragments : List (List Char)) :
    OpensApart (sweepAll true fragments) := by
  induction fragments with
  | nil => exact opensApart_nil
  | cons fragment rest ih =>
    simp only [sweepAll, if_true, Bool.true_or]
    intro c first
    cases added : sweep .gap fragment with
    | nil =>
      rw [added] at first
      exact ih c first
    | cons d more =>
      -- what is begun goes on with a space
      have apart := opensApart_sweep_gap fragment
      rw [added] at first apart
      exact apart c first

/-- The mode in which a fragment is swept. -/
theorem tracks_begun {begun : Bool} {phase : Phase} (outside : phase.isOutside = true)
    (fresh : begun = false → phase = .idle) :
    Tracks (if begun then .gap else .blank) phase := by
  cases begun with
  | true => exact .gap outside
  | false => exact fresh rfl ▸ .blank

theorem settled_begun (begun : Bool) (phase : Phase) (text : List Char) :
    settled (if begun then .gap else .blank) phase text =
      ([], squeeze (if begun then .gap else .blank) (lexemes text)) := by
  rw [settled, if_pos]
  cases begun <;> simp

/-- Text without lexemes is empty. -/
theorem isEmpty_of_scan {phase : Phase} {text : List Char} {kept : List (List Char)}
    (scanned : scan phase text = ([], kept)) : kept.isEmpty = text.isEmpty := by
  have whole := flatten_scan phase text
  rw [scanned] at whole
  cases text with
  | nil =>
    cases scanned
    rfl
  | cons c rest =>
    cases kept with
    | nil => simp at whole
    | cons _ _ => rfl

theorem scan_sweepAll {begun : Bool} {phase : Phase} {fragments : List (List Char)}
    (outside : phase.isOutside = true) (fresh : begun = false → phase = .idle)
    (balanced : ∀ fragment ∈ fragments, Balanced fragment) :
    scan phase (sweepAll begun fragments) = ([], squeezeAll begun (fragments.map lexemes)) ∧
      (phase.after (sweepAll begun fragments)).isOutside = true := by
  induction fragments generalizing begun phase with
  | nil => exact ⟨rfl, outside⟩
  | cons fragment rest ih =>
    simp only [List.forall_mem_cons] at balanced
    have tracks := tracks_begun outside fresh
    rw [sweepAll, List.map_cons, squeezeAll]
    have swept := scan_sweep tracks fragment
    rw [settled_begun] at swept
    have ended := (like_after_sweep tracks fragment).isOutside
    rw [Phase.isOutside_after outside balanced.1] at ended
    generalize sweep (if begun then .gap else .blank) fragment = added at swept ended ⊢
    generalize squeeze (if begun then .gap else .blank) (lexemes fragment) = kept at swept ⊢
    have empty := isEmpty_of_scan swept
    have fresh' : (begun || !added.isEmpty) = false → phase.after added = .idle := by
      intro nothing
      simp only [Bool.or_eq_false_iff, Bool.not_eq_false', List.isEmpty_iff] at nothing
      rw [nothing.2]
      exact fresh nothing.1
    -- the next fragment begins with a space, or it is the first that is not empty
    have breaks : Breaks (phase.after added) (sweepAll (begun || !added.isEmpty) rest) := by
      cases begun' : begun || !added.isEmpty with
      | true => exact (opensApart_sweepAll rest).breaks ended
      | false => exact fresh' begun' ▸ breaks_idle _
    obtain ⟨scanned, outside'⟩ := ih ended fresh' balanced.2
    rw [scan_of_breaks breaks, Prod.mk.injEq] at scanned
    rw [scan_append breaks, swept, scanned.2, empty, Phase.after_append]
    exact ⟨rfl, outside'⟩

/-- The lexemes of a statement are those of its fragments, set apart by spaces. -/
theorem lexemes_joined {fragments : List (List Char)}
    (balanced : ∀ fragment ∈ fragments, Balanced fragment) :
    lexemes (joined fragments) = squeezeAll false (fragments.map lexemes) := by
  obtain ⟨scanned, _⟩ := @scan_sweepAll false .idle fragments rfl (fun _ => rfl) balanced
  rw [lexemes, joined, scanned]

theorem balanced_joined {fragments : List (List Char)}
    (balanced : ∀ fragment ∈ fragments, Balanced fragment) : Balanced (joined fragments) :=
  (@scan_sweepAll false .idle fragments rfl (fun _ => rfl) balanced).2

/-! ## Tokens -/

theorem visible_squeeze (mode : Mode) (lexemes : List (List Char)) :
    visible (squeeze mode lexemes) = visible lexemes := by
  have space : Kind.of [' '] = .blank := by decide
  induction lexemes generalizing mode with
  | nil => rfl
  | cons lexeme rest ih =>
    rw [squeeze]
    by_cases blank : Kind.of lexeme = .blank
    · rw [if_pos blank, ih]
      simp [visible, blank]
    · have kept : (Kind.of lexeme != .blank) = true := by simpa using blank
      have more := ih .flush
      simp only [visible] at more ⊢
      rw [if_neg blank]
      split <;> simp [space, kept, more]

theorem visible_squeezeAll (begun : Bool) (fragments : List (List (List Char))) :
    visible (squeezeAll begun fragments) = (fragments.map visible).flatten := by
  induction fragments generalizing begun with
  | nil => rfl
  | cons fragment rest ih =>
    simp only [squeezeAll, visible_append, visible_squeeze, ih, List.map_cons, List.flatten_cons]

/-- The tokens of a statement are those of its fragments. -/
theorem tokens_joined {fragments : List (List Char)}
    (balanced : ∀ fragment ∈ fragments, Balanced fragment) :
    tokens (joined fragments) = (fragments.map tokens).flatten := by
  rw [tokens, lexemes_joined balanced, visible_squeezeAll, List.map_map]
  rfl

end Cypher.Spacing
