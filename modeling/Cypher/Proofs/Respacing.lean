import Cypher.Proofs.Spacing

/-!
# Spacing what is spaced already

A statement that was joined can be swept again, on its own or as a part of a
fragment, and stays as it is: all its blanks outside of quotes are single spaces
between visible characters. So nested statements are spaced once for each level
that they stand in, and read as if they had been spaced once.

`sweep_joined` is this for a joined statement on its own, and `sweep_gap` tells
what becomes of a text behind a blank.
-/

namespace Cypher.Spacing

open Lexing

/-! ## One character -/

/-- Where the sweep stands after one more character. -/
def Mode.next : Mode → Char → Mode
  | .inside opener, c => .within opener c
  | .escaped opener, _ => .inside opener
  | .blank, c => if Text.isBlank c then .blank else .shown c
  | .flush, c => if Text.isBlank c then .gap else .shown c
  | .gap, c => if Text.isBlank c then .gap else .shown c

/-- What one more character adds. -/
def Mode.adds : Mode → Char → List Char
  | .inside _, c => [c]
  | .escaped _, c => [c]
  | .blank, c => if Text.isBlank c then [] else [c]
  | .flush, c => if Text.isBlank c then [] else [c]
  | .gap, c => if Text.isBlank c then [] else [' ', c]

/-- Where the sweep stands after a text. -/
def Mode.after (mode : Mode) (text : List Char) : Mode := text.foldl next mode

@[simp] theorem Mode.after_nil (mode : Mode) : mode.after [] = mode := rfl

@[simp] theorem Mode.after_cons (mode : Mode) (c : Char) (rest : List Char) :
    mode.after (c :: rest) = (mode.next c).after rest := rfl

@[simp] theorem Mode.after_append (mode : Mode) (first second : List Char) :
    mode.after (first ++ second) = (mode.after first).after second :=
  List.foldl_append

@[simp] theorem sweep_nil (mode : Mode) : sweep mode [] = [] := by
  cases mode <;> rfl

theorem sweep_cons (mode : Mode) (c : Char) (rest : List Char) :
    sweep mode (c :: rest) = mode.adds c ++ sweep (mode.next c) rest := by
  cases mode with
  | inside opener => rfl
  | escaped opener => rfl
  | _ =>
    rw [sweep, Mode.adds, Mode.next]
    split <;> rfl

/-- A text is swept piece by piece. -/
theorem sweep_append (mode : Mode) (first second : List Char) :
    sweep mode (first ++ second) = sweep mode first ++ sweep (mode.after first) second := by
  induction first generalizing mode with
  | nil => rw [sweep_nil]; rfl
  | cons c rest ih =>
    rw [List.cons_append, sweep_cons, sweep_cons, ih, Mode.after_cons, List.append_assoc]

/-! ## Sweeping twice -/

/-- Where a sweep over what is written stands: a space that is due is not there yet. -/
def Mode.output (mode : Mode) : Mode := if mode = .gap then .flush else mode

theorem Mode.output_shown (c : Char) : (Mode.shown c).output = .shown c := by
  rw [Mode.shown]
  split <;> simp [Mode.output]

theorem Mode.output_within (opener c : Char) : (Mode.within opener c).output = .within opener c := by
  rw [Mode.within]
  split
  · simp [Mode.output]
  · split <;> simp [Mode.output]

/-- What a character adds is swept as it is. -/
theorem sweep_adds (mode : Mode) (c : Char) :
    sweep mode.output (mode.adds c) = mode.adds c ∧
      mode.output.after (mode.adds c) = (mode.next c).output := by
  have space : Text.isBlank ' ' = true := by decide
  by_cases blank : Text.isBlank c = true
  · cases mode with
    | inside opener =>
      exact ⟨rfl, (Mode.output_within opener c).symm⟩
    | _ => simp [Mode.adds, Mode.next, Mode.output, sweep, blank]
  · cases mode with
    | inside opener => exact ⟨rfl, (Mode.output_within opener c).symm⟩
    | escaped opener => exact ⟨rfl, rfl⟩
    | _ =>
      have shown := Mode.output_shown c
      simpa [Mode.adds, Mode.next, Mode.output, sweep, blank, space] using shown.symm

/-- What was swept is swept as it is. -/
theorem sweep_sweep (mode : Mode) (text : List Char) :
    sweep mode.output (sweep mode text) = sweep mode text ∧
      mode.output.after (sweep mode text) = (mode.after text).output := by
  induction text generalizing mode with
  | nil =>
    rw [sweep_nil, sweep_nil]
    exact ⟨rfl, rfl⟩
  | cons c rest ih =>
    obtain ⟨here, there⟩ := sweep_adds mode c
    obtain ⟨swept, ended⟩ := ih (mode.next c)
    rw [sweep_cons, sweep_append, Mode.after_append, here, there, swept, ended]
    exact ⟨rfl, rfl⟩

/-! ## Texts that leave no quotes open -/

theorem Tracks.next {mode : Mode} {phase : Phase} (tracks : Tracks mode phase) (c : Char) :
    Tracks (mode.next c) (phase.next c) := by
  have out (blank : Text.isBlank c = true) {phase : Phase} (outside : phase.isOutside = true) :
      phase.next c = .idle :=
    Phase.next_of_separates outside (separates_of_isBlank blank)
  cases tracks with
  | blank =>
    by_cases blank : Text.isBlank c = true
    · rw [Mode.next, if_pos blank, out blank rfl]
      exact .blank
    · rw [Mode.next, if_neg blank]
      exact .shown rfl c
  | gap outside =>
    by_cases blank : Text.isBlank c = true
    · rw [Mode.next, if_pos blank, out blank outside]
      exact .gap rfl
    · rw [Mode.next, if_neg blank]
      exact .shown outside c
  | flush outside =>
    by_cases blank : Text.isBlank c = true
    · rw [Mode.next, if_pos blank, out blank outside]
      exact .gap rfl
    · rw [Mode.next, if_neg blank]
      exact .shown outside c
  | name => exact (Tracks.name.within c).2
  | literal quote other => exact ((Tracks.literal quote other).within c).2
  | escaped quote other => exact ((Tracks.escaped quote other).afterEscape c).2

theorem Tracks.after {mode : Mode} {phase : Phase} (tracks : Tracks mode phase)
    (text : List Char) : Tracks (mode.after text) (phase.after text) := by
  induction text generalizing mode phase with
  | nil => exact tracks
  | cons c rest ih => exact ih (tracks.next c)

theorem Tracks.of_isOutside {mode : Mode} {phase : Phase} (tracks : Tracks mode phase)
    (outside : phase.isOutside = true) : mode = .blank ∨ mode = .gap ∨ mode = .flush := by
  cases tracks with
  | blank => exact .inl rfl
  | gap _ => exact .inr (.inl rfl)
  | flush _ => exact .inr (.inr rfl)
  | name => cases outside
  | literal _ _ => cases outside
  | escaped _ _ => cases outside

theorem Mode.next_ne_blank {mode : Mode} (begun : mode ≠ .blank) (c : Char) :
    mode.next c ≠ .blank := by
  have shown : Mode.shown c ≠ .blank := fun same => isAttached_shown c (.inl same)
  cases mode with
  | blank => exact absurd rfl begun
  | inside opener => exact fun same => isAttached_within opener c (.inl same)
  | escaped opener => exact nofun
  | _ =>
    rw [Mode.next]
    split
    · exact nofun
    · exact shown

/-- Nothing is begun for as long as nothing is written. -/
theorem Mode.after_eq_blank (mode : Mode) (text : List Char) :
    mode.after text = .blank ↔ mode = .blank ∧ sweep mode text = [] := by
  induction text generalizing mode with
  | nil => simp
  | cons c rest ih =>
    rw [Mode.after_cons, ih, sweep_cons, List.append_eq_nil_iff]
    by_cases fresh : mode = .blank
    · subst fresh
      have shown : Mode.shown c ≠ .blank := fun same => isAttached_shown c (.inl same)
      by_cases blank : Text.isBlank c = true
      · simp [Mode.next, Mode.adds, blank]
      · simp [Mode.next, Mode.adds, blank, shown]
    · exact iff_of_false (fun both => Mode.next_ne_blank fresh c both.1) fun both => fresh both.1

/-- After a text that leaves no quotes open nothing is begun or all is written. -/
theorem Mode.output_after {mode : Mode} (outside : mode = .blank ∨ mode = .gap) {text : List Char}
    (balanced : Balanced text) : (mode.after text).output =
      if mode = .blank ∧ sweep mode text = [] then .blank else .flush := by
  have tracks : Tracks mode .idle := by
    rcases outside with rfl | rfl
    · exact .blank
    · exact .gap rfl
  have fresh := mode.after_eq_blank text
  split
  · next nothing => rw [fresh.mpr nothing]; rfl
  · next something =>
    rcases (tracks.after text).of_isOutside balanced with same | same | same
    · exact absurd (fresh.mp same) something
    · rw [same]; rfl
    · rw [same]; rfl

/-! ## Joined statements -/

theorem sweep_sweepAll {begun : Bool} {fragments : List (List Char)}
    (balanced : ∀ fragment ∈ fragments, Balanced fragment) :
    let mode : Mode := if begun then .flush else .blank
    sweep mode (sweepAll begun fragments) = sweepAll begun fragments ∧
      mode.after (sweepAll begun fragments) =
        if begun = false ∧ sweepAll begun fragments = [] then .blank else .flush := by
  induction fragments generalizing begun with
  | nil =>
    cases begun <;> exact ⟨rfl, rfl⟩
  | cons fragment rest ih =>
    rw [List.forall_mem_cons] at balanced
    have outside : (if begun then Mode.gap else .blank) = .blank ∨
        (if begun then Mode.gap else .blank) = .gap := by
      cases begun
      · exact .inl rfl
      · exact .inr rfl
    obtain ⟨swept, ended⟩ := sweep_sweep (if begun then .gap else .blank) fragment
    rw [Mode.output_after outside balanced.1] at ended
    have first : (if begun then Mode.gap else .blank).output = if begun then .flush else .blank := by
      cases begun <;> rfl
    rw [first] at swept ended
    intro mode
    rw [sweepAll]
    generalize sweep (if begun then .gap else .blank) fragment = added at swept ended ⊢
    -- the rest is swept from where the first fragment has ended
    have next : mode.after added = if begun || !added.isEmpty then .flush else .blank := by
      rw [ended]
      cases begun <;> cases added <;> rfl
    obtain ⟨swept', ended'⟩ := @ih (begun || !added.isEmpty) balanced.2
    simp only [sweep_append, Mode.after_append, next, swept', ended']
    refine ⟨congrArg (· ++ _) swept, ?_⟩
    cases begun <;> cases added <;> simp

/-- A joined statement is swept as it is. -/
theorem sweep_joined {fragments : List (List Char)}
    (balanced : ∀ fragment ∈ fragments, Balanced fragment) :
    sweep .blank (joined fragments) = joined fragments ∧
      (joined fragments ≠ [] → Mode.blank.after (joined fragments) = .flush) := by
  obtain ⟨swept, ended⟩ := @sweep_sweepAll false fragments balanced
  refine ⟨swept, fun something => ended.trans (if_neg ?_)⟩
  exact fun nothing => something nothing.2

/-- Behind a blank a text is what it is on its own, with a space before it. -/
theorem sweep_gap (text : List Char) :
    (sweep .blank text = [] → sweep .gap text = [] ∧ Mode.gap.after text = .gap) ∧
      (sweep .blank text ≠ [] →
        sweep .gap text = ' ' :: sweep .blank text ∧
          Mode.gap.after text = Mode.blank.after text) := by
  induction text with
  | nil => simp
  | cons c rest ih =>
    by_cases blank : Text.isBlank c = true
    · simpa [sweep_cons, Mode.adds, Mode.next, blank] using ih
    · simp [sweep_cons, Mode.adds, Mode.next, blank]

/-- Nothing is left of a text only when it is blank. -/
theorem sweep_blank_eq_nil {text : List Char} :
    sweep .blank text = [] ↔ text.all Text.isBlank = true := by
  induction text with
  | nil => simp
  | cons c rest ih =>
    by_cases blank : Text.isBlank c = true
    · simpa [sweep_cons, Mode.adds, Mode.next, blank] using ih
    · simp [sweep_cons, Mode.adds, blank]

/-- A text between blanks, with at least one character that is none. -/
theorem sweep_gap_spaced {text : List Char} (balanced : Balanced text)
    (visible : text.all Text.isBlank = false) (rest : List Char) :
    ∃ mode : Mode, (mode = .gap ∨ mode = .flush) ∧
      sweep .gap (text ++ rest) = ' ' :: joined [text] ++ sweep mode rest := by
  have something : sweep .blank text ≠ [] := by
    rw [Ne, sweep_blank_eq_nil, visible]
    exact Bool.false_ne_true
  obtain ⟨spaced, ended⟩ := (sweep_gap text).2 something
  have written := Mode.output_after (.inl rfl) balanced
  rw [if_neg fun nothing => something nothing.2] at written
  refine ⟨Mode.blank.after text, ?_, ?_⟩
  · unfold Mode.output at written
    split at written
    · next gap => exact .inl gap
    · exact .inr written
  · have alone : joined [text] = sweep .blank text := List.append_nil _
    rw [sweep_append, spaced, ended, alone]

/-- A joined statement behind a blank, and what follows it. -/
theorem sweep_gap_joined {fragments : List (List Char)}
    (balanced : ∀ fragment ∈ fragments, Balanced fragment) (something : joined fragments ≠ [])
    (rest : List Char) :
    sweep .gap (joined fragments ++ rest) = ' ' :: joined fragments ++ sweep .flush rest := by
  obtain ⟨swept, ended⟩ := sweep_joined balanced
  have behind := (sweep_gap (joined fragments)).2
  rw [swept] at behind
  obtain ⟨spaced, ended'⟩ := behind something
  rw [sweep_append, spaced, ended', ended something]

/-- Every fragment of a statement is somewhere in it. -/
theorem sweep_infix_sweepAll {begun : Bool} {fragments : List (List Char)} {fragment : List Char}
    (member : fragment ∈ fragments) :
    ∃ mode, (mode = .blank ∨ mode = .gap) ∧ sweep mode fragment <:+: sweepAll begun fragments := by
  induction member generalizing begun with
  | head rest =>
    rw [sweepAll]
    refine ⟨if begun then .gap else .blank, ?_, (List.prefix_append _ _).isInfix⟩
    cases begun
    · exact .inl rfl
    · exact .inr rfl
  | tail first _ ih =>
    rw [sweepAll]
    obtain ⟨mode, outside, inside⟩ := @ih (begun || !(sweep (if begun then .gap else .blank) first).isEmpty)
    exact ⟨mode, outside, inside.trans (List.suffix_append _ _).isInfix⟩

/-! ## Written names -/

theorem next_inside_backtick : (Mode.inside Name.backtick).next Name.backtick = .flush := rfl

theorem next_inside_of_ne {c : Char} (other : c ≠ Name.backtick) :
    (Mode.inside Name.backtick).next c = .inside Name.backtick := by
  have noEscape : (Name.backtick != '`') = false := rfl
  simp [Mode.next, Mode.within, noEscape, other]

theorem sweep_doubled (content : List Char) :
    sweep (.inside Name.backtick) (Name.doubled content ++ [Name.backtick]) =
        Name.doubled content ++ [Name.backtick] ∧
      (Mode.inside Name.backtick).after (Name.doubled content ++ [Name.backtick]) = .flush := by
  induction content with
  | nil => exact ⟨rfl, rfl⟩
  | cons c more ih =>
    obtain ⟨swept, ended⟩ := ih
    rw [Name.doubled]
    split
    · -- the quotes are closed by the first of two backticks and opened by the second one
      have opens : Mode.flush.next Name.backtick = .inside Name.backtick := rfl
      have adds : Mode.flush.adds Name.backtick = [Name.backtick] := rfl
      simp only [List.cons_append]
      rw [sweep_cons, sweep_cons, Mode.after_cons, Mode.after_cons, next_inside_backtick, opens,
        adds, swept, ended]
      exact ⟨rfl, rfl⟩
    · next other =>
      rw [List.cons_append, sweep_cons, Mode.after_cons, next_inside_of_ne other, swept, ended]
      exact ⟨rfl, rfl⟩

theorem sweep_word {word : List Char} (parts : word.all Name.isWordPart = true) :
    sweep .flush word = word ∧ Mode.flush.after word = .flush := by
  induction word with
  | nil => exact ⟨rfl, rfl⟩
  | cons c more ih =>
    rw [List.all_cons, Bool.and_eq_true] at parts
    obtain ⟨swept, ended⟩ := ih parts.2
    have calm := not_isQuote_of_isWordPart parts.1
    have visible := not_isBlank_of_isWordPart parts.1
    have next : Mode.flush.next c = .flush := by simp [Mode.next, Mode.shown, visible, calm]
    have adds : Mode.flush.adds c = [c] := by simp [Mode.adds, visible]
    rw [sweep_cons, Mode.after_cons, next, adds, swept, ended]
    exact ⟨rfl, rfl⟩

/-- A name is swept as it is written. -/
theorem sweep_written (name : List Char) :
    sweep .flush (Name.written name) = Name.written name ∧
      Mode.flush.after (Name.written name) = .flush := by
  rcases Name.word_or_quoted (written_isName name) with plain | ⟨content, same⟩
  · refine sweep_word ?_
    cases token : Name.written name with
    | nil => rfl
    | cons c more =>
      rw [token, Name.isPlain, Bool.and_eq_true] at plain
      rw [List.all_cons, isWordPart_of_isWordStart plain.1, plain.2]
      rfl
  · obtain ⟨swept, ended⟩ := sweep_doubled content
    have opens : Mode.flush.next Name.backtick = .inside Name.backtick := rfl
    have adds : Mode.flush.adds Name.backtick = [Name.backtick] := rfl
    rw [same, Name.quoted, List.cons_append, sweep_cons, Mode.after_cons, opens, adds, swept, ended]
    exact ⟨rfl, rfl⟩

end Cypher.Spacing
