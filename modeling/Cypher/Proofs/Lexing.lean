import Cypher.Name
import Cypher.Spacing

/-!
# Lexing

A statement is read as a row of lexemes: names (plain words, and texts between
backticks in which every backtick is doubled), string literals, numbers, blanks
and marks, which are all other characters one by one. Nothing is lost: the
lexemes put together are the text.

`lexemes_append` cuts a text wherever the lexeme before the cut cannot go on
behind it, and `lexemes_written` says that a written name is one lexeme there.
-/

namespace Cypher.Lexing

/-- What the lexeme that is being read may still take. -/
inductive Phase
  /-- Nothing more. -/
  | idle
  /-- Letters, digits and underscores. -/
  | word
  /-- Everything up to a backtick. -/
  | quoted
  /-- Another backtick; then the two stand for one inside of the name. -/
  | closing
  /-- Everything up to the quote. -/
  | literal (quote : Char)
  /-- Everything up to the quote that follows the next character. -/
  | escaped (quote : Char)
  deriving DecidableEq, Repr

namespace Phase

/-- Whether the character begins another lexeme. -/
def cuts : Phase → Char → Bool
  | idle, _ => true
  | word, c => !Name.isWordPart c
  | closing, c => c != Name.backtick
  | _, _ => false

/-- After the first character of a lexeme. -/
def start (c : Char) : Phase :=
  if c = Name.backtick then quoted
  else if Spacing.isQuote c then literal c
  else if Name.isWordPart c then word
  else idle

/-- After one more character. -/
def next (phase : Phase) (c : Char) : Phase :=
  if phase.cuts c then start c
  else match phase with
    | closing => quoted
    | quoted => if c = Name.backtick then closing else quoted
    | literal quote => if c = '\\' then escaped quote else if c = quote then idle else literal quote
    | escaped quote => literal quote
    | same => same

/-- After a text. -/
def after (phase : Phase) (text : List Char) : Phase := text.foldl next phase

/-- Whether no quotes are open. -/
def isOutside : Phase → Bool
  | idle | word | closing => true
  | _ => false

end Phase

/-- The rest of the lexeme that is being read, and the lexemes behind it. -/
def scan : Phase → List Char → List Char × List (List Char)
  | _, [] => ([], [])
  | phase, c :: rest =>
      let (ahead, more) := scan (phase.next c) rest
      if phase.cuts c then ([], (c :: ahead) :: more) else (c :: ahead, more)

/-- The lexemes of a text. -/
def lexemes (text : List Char) : List (List Char) := (scan .idle text).2

/-- Whether no quotes are open at the end of the text. -/
def Balanced (text : List Char) : Prop := (Phase.idle.after text).isOutside = true

instance (text : List Char) : Decidable (Balanced text) := inferInstanceAs (Decidable (_ = true))

/-- What a lexeme is. -/
inductive Kind
  | name
  | string
  | number
  | blank
  | mark
  deriving DecidableEq, Repr

/-- The kind of a lexeme. A name is a plain word or properly quoted. -/
def Kind.of (lexeme : List Char) : Kind :=
  if Name.needsQuotes lexeme = false then name
  else match lexeme with
    | [] => mark
    | c :: _ =>
        if c ≠ Name.backtick ∧ Spacing.isQuote c then string
        else if c.isDigit then number
        else if Text.isBlank c then blank
        else mark

/-- The lexemes that are not blanks. -/
def visible (lexemes : List (List Char)) : List (List Char) :=
  lexemes.filter fun lexeme => Kind.of lexeme != .blank

/-- The lexemes of a text that are not blanks. -/
def tokens (text : List Char) : List (List Char) := visible (lexemes text)

/-- A character at which a lexeme outside of quotes ends, and that opens none. -/
def separates (c : Char) : Bool := !Name.isWordPart c && !Spacing.isQuote c

example : (tokens "MATCH (`a``b`) SET n.x = 'it\\'s'".toList).map (fun t => (String.ofList t, Kind.of t)) =
    [("MATCH", .name), ("(", .mark), ("`a``b`", .name), (")", .mark), ("SET", .name), ("n", .name),
      (".", .mark), ("x", .name), ("=", .mark), ("'it\\'s'", .string)] := by decide +kernel

/-! ## Characters -/

@[simp] theorem isQuote_backtick : Spacing.isQuote Name.backtick = true := rfl

theorem isQuote_iff (c : Char) :
    Spacing.isQuote c = true ↔ c = Name.backtick ∨ c = '\'' ∨ c = '"' := by
  simp [Spacing.isQuote, Name.backtick, or_assoc]

theorem not_isQuote_of_isWordPart {c : Char} (part : Name.isWordPart c = true) :
    Spacing.isQuote c = false := by
  rw [Bool.eq_false_iff, Ne, isQuote_iff]
  rintro (rfl | rfl | rfl) <;> exact absurd part (by decide)

theorem isWordPart_of_isWordStart {c : Char} (first : Name.isWordStart c = true) :
    Name.isWordPart c = true := by
  simp only [Name.isWordStart, Name.isWordPart, Char.isAlphanum, Bool.or_eq_true] at first ⊢
  exact first.imp_left .inl

/-- The code points of the characters inside words. -/
theorem toNat_of_isWordPart {c : Char} (part : Name.isWordPart c = true) :
    (65 ≤ c.toNat ∧ c.toNat ≤ 90) ∨ (97 ≤ c.toNat ∧ c.toNat ≤ 122) ∨
      (48 ≤ c.toNat ∧ c.toNat ≤ 57) ∨ c.toNat = 95 := by
  simp only [Name.isWordPart, Char.isAlphanum] at part
  delta Char.isAlpha Char.isUpper Char.isLower at part
  simp only [Char.isDigit, Bool.or_eq_true, Bool.and_eq_true, decide_eq_true_eq, beq_iff_eq,
    ge_iff_le, UInt32.le_iff_toNat_le] at part
  rcases part with ((part | part) | part) | rfl
  · exact .inl part
  · exact .inr (.inl part)
  · exact .inr (.inr (.inl part))
  · exact .inr (.inr (.inr rfl))

theorem separates_of_isBlank {c : Char} (blank : Text.isBlank c = true) : separates c = true := by
  have notPart : Name.isWordPart c = false := by
    rw [Bool.eq_false_iff]
    intro part
    have range := toNat_of_isWordPart part
    simp only [Text.isBlank, Bool.or_eq_true, decide_eq_true_eq, Bool.and_eq_true,
      beq_iff_eq] at blank
    omega
  have notQuote : Spacing.isQuote c = false := by
    rw [Bool.eq_false_iff, Ne, isQuote_iff]
    rintro (rfl | rfl | rfl) <;> exact absurd blank (by decide)
  simp [separates, notPart, notQuote]

theorem not_isBlank_of_isWordPart {c : Char} (part : Name.isWordPart c = true) :
    Text.isBlank c = false := by
  rw [Bool.eq_false_iff]
  intro blank
  have apart := separates_of_isBlank blank
  simp [separates, part] at apart

theorem not_isBlank_of_isQuote {c : Char} (quote : Spacing.isQuote c = true) : Text.isBlank c = false := by
  rw [Bool.eq_false_iff]
  intro blank
  have apart := separates_of_isBlank blank
  simp [separates, quote] at apart

/-- A lexeme is blank when its first character is. -/
theorem Kind.of_cons_eq_blank (c : Char) (rest : List Char) :
    Kind.of (c :: rest) = .blank ↔ Text.isBlank c = true := by
  constructor
  · intro blank
    simp only [Kind.of] at blank
    split at blank
    · cases blank
    · split at blank
      · cases blank
      · split at blank
        · cases blank
        · split at blank
          · assumption
          · cases blank
  · intro blank
    have apart := separates_of_isBlank blank
    simp only [separates, Bool.and_eq_true, Bool.not_eq_true'] at apart
    have notStart : Name.isWordStart c = false := by
      rw [Bool.eq_false_iff]
      intro first
      simp [isWordPart_of_isWordStart first] at apart
    have notDigit : c.isDigit = false := by
      simp only [Name.isWordPart, Char.isAlphanum, Bool.or_eq_false_iff] at apart
      exact apart.1.1.2
    have other : c ≠ Name.backtick := fun same => by simp [same] at apart
    simp [Kind.of, Name.needsQuotes, Name.isPlain, Name.isQuoted, Name.unquoted?, notStart, other,
      apart.2, notDigit, blank]

/-! ## Phases -/

namespace Phase

@[simp] theorem after_nil (phase : Phase) : phase.after [] = phase := rfl

@[simp] theorem after_cons (phase : Phase) (c : Char) (rest : List Char) :
    phase.after (c :: rest) = (phase.next c).after rest := rfl

@[simp] theorem after_append (phase : Phase) (first second : List Char) :
    phase.after (first ++ second) = (phase.after first).after second :=
  List.foldl_append

theorem next_of_cuts {phase : Phase} {c : Char} (cut : phase.cuts c = true) :
    phase.next c = start c := by
  simp [next, cut]

theorem next_idle (c : Char) : idle.next c = start c := next_of_cuts rfl

theorem cuts_of_separates {phase : Phase} {c : Char} (outside : phase.isOutside = true)
    (apart : separates c = true) : phase.cuts c = true := by
  simp only [separates, Bool.and_eq_true, Bool.not_eq_true'] at apart
  cases phase with
  | idle => rfl
  | word => simp [cuts, apart.1]
  | closing =>
    have other : c ≠ Name.backtick := fun same => by simp [same] at apart
    simp [cuts, other]
  | _ => simp [isOutside] at outside

theorem start_of_separates {c : Char} (apart : separates c = true) : start c = idle := by
  simp only [separates, Bool.and_eq_true, Bool.not_eq_true'] at apart
  have other : c ≠ Name.backtick := fun same => by simp [same] at apart
  simp [start, other, apart]

theorem next_of_separates {phase : Phase} {c : Char} (outside : phase.isOutside = true)
    (apart : separates c = true) : phase.next c = idle := by
  rw [next_of_cuts (cuts_of_separates outside apart), start_of_separates apart]

/-- Two phases that quotes cannot tell apart. -/
def Like (first second : Phase) : Prop :=
  first = second ∨ (first.isOutside = true ∧ second.isOutside = true)

theorem Like.isOutside {first second : Phase} (like : Like first second) :
    first.isOutside = second.isOutside := by
  rcases like with rfl | ⟨one, two⟩
  · rfl
  · rw [one, two]

theorem Like.trans {first second third : Phase} (one : Like first second)
    (two : Like second third) : Like first third := by
  rcases one with rfl | ⟨out, _⟩
  · exact two
  · rcases two with rfl | ⟨_, out'⟩
    · exact .inr ⟨out, by assumption⟩
    · exact .inr ⟨out, out'⟩

/-- Outside of quotes only the character says whether quotes are opened. -/
theorem isOutside_next {phase : Phase} (outside : phase.isOutside = true) (c : Char) :
    (Spacing.isQuote c = true ∧ phase.next c = start c) ∨
      (Spacing.isQuote c = false ∧ (phase.next c).isOutside = true) := by
  cases quote : Spacing.isQuote c with
  | true =>
    refine .inl ⟨rfl, ?_⟩
    cases phase with
    | idle => exact next_idle c
    | word =>
      have notPart : Name.isWordPart c = false := by
        rw [Bool.eq_false_iff]
        intro part
        simp [not_isQuote_of_isWordPart part] at quote
      exact next_of_cuts (by simp [cuts, notPart])
    | closing =>
      -- a backtick right behind a closed name opens it again, as it would open another
      by_cases same : c = Name.backtick
      · simp [next, cuts, start, same]
      · exact next_of_cuts (by simp [cuts, same])
    | _ => simp [Phase.isOutside] at outside
  | false =>
    refine .inr ⟨rfl, ?_⟩
    have other : c ≠ Name.backtick := fun same => by simp [same] at quote
    have begun : (start c).isOutside = true := by
      simp only [start, other, quote, if_false, Bool.false_eq_true]
      split <;> rfl
    cases cut : phase.cuts c with
    | true => rwa [next_of_cuts cut]
    | false => cases phase <;> simp_all [cuts, next, Phase.isOutside]

theorem Like.next {first second : Phase} (like : Like first second) (c : Char) :
    Like (first.next c) (second.next c) := by
  rcases like with rfl | ⟨one, two⟩
  · exact .inl rfl
  · rcases isOutside_next one c with ⟨quote, same⟩ | ⟨plain, out⟩
    · rcases isOutside_next two c with ⟨_, same'⟩ | ⟨plain, _⟩
      · exact .inl (same.trans same'.symm)
      · simp [quote] at plain
    · rcases isOutside_next two c with ⟨quote, _⟩ | ⟨_, out'⟩
      · simp [plain] at quote
      · exact .inr ⟨out, out'⟩

theorem Like.after {first second : Phase} (like : Like first second) (text : List Char) :
    Like (first.after text) (second.after text) := by
  induction text generalizing first second with
  | nil => exact like
  | cons c rest ih => exact ih (like.next c)

/-- A balanced text leaves no quotes open wherever it stands outside of quotes. -/
theorem isOutside_after {phase : Phase} {text : List Char} (outside : phase.isOutside = true)
    (balanced : Balanced text) : (phase.after text).isOutside = true := by
  have like : Like phase idle := .inr ⟨outside, rfl⟩
  rw [(like.after text).isOutside]
  exact balanced

theorem isOutside_after_of_calm {phase : Phase} {text : List Char}
    (outside : phase.isOutside = true) (calm : ∀ c ∈ text, Spacing.isQuote c = false) :
    (phase.after text).isOutside = true := by
  induction text generalizing phase with
  | nil => exact outside
  | cons c rest ih =>
    rcases isOutside_next outside c with ⟨quote, _⟩ | ⟨_, out⟩
    · simp [calm c] at quote
    · exact ih out fun d member => calm d (List.mem_cons_of_mem _ member)

end Phase

/-- A text without quotes that ends with a separating character closes every lexeme. -/
theorem after_eq_idle {phase : Phase} {text : List Char} (outside : phase.isOutside = true)
    (calm : ∀ c ∈ text, Spacing.isQuote c = false)
    (closes : text.getLast?.any separates = true) : phase.after text = .idle := by
  obtain ⟨last, final, apart⟩ := (Option.any_eq_true _ _).mp closes
  obtain ⟨init, rfl⟩ := List.getLast?_eq_some_iff.mp final
  have ended := Phase.isOutside_after_of_calm outside
    fun c member => calm c (List.mem_append_left _ member)
  rw [Phase.after_append]
  exact Phase.next_of_separates ended apart

theorem balanced_nil : Balanced [] := rfl

theorem balanced_append {first second : List Char} (one : Balanced first)
    (two : Balanced second) : Balanced (first ++ second) := by
  rw [Balanced, Phase.after_append]
  exact Phase.isOutside_after one two

theorem balanced_of_calm {text : List Char} (calm : ∀ c ∈ text, Spacing.isQuote c = false) :
    Balanced text :=
  Phase.isOutside_after_of_calm rfl calm

/-! ## Cutting texts -/

/-- Nothing that stands at the beginning of the text goes on with the lexeme. -/
def Breaks (phase : Phase) (text : List Char) : Prop := ∀ c ∈ text.head?, phase.cuts c = true

/-- The text is empty or begins with a separating character. -/
def OpensApart (text : List Char) : Prop := ∀ c ∈ text.head?, separates c = true

theorem opensApart_nil : OpensApart [] := fun _ first => nomatch first

theorem OpensApart.breaks {text : List Char} (apart : OpensApart text) {phase : Phase}
    (outside : phase.isOutside = true) : Breaks phase text :=
  fun c first => Phase.cuts_of_separates outside (apart c first)

theorem breaks_of_cuts {phase : Phase} {c : Char} (cut : phase.cuts c = true) (rest : List Char) :
    Breaks phase (c :: rest) := by
  rintro _ ⟨⟩
  exact cut

theorem breaks_of_separates {phase : Phase} {c : Char} (outside : phase.isOutside = true)
    (apart : separates c = true) (rest : List Char) : Breaks phase (c :: rest) :=
  breaks_of_cuts (Phase.cuts_of_separates outside apart) rest

theorem breaks_idle (text : List Char) : Breaks .idle text := fun _ _ => rfl

theorem scan_of_breaks {phase : Phase} {text : List Char} (breaks : Breaks phase text) :
    scan phase text = ([], lexemes text) := by
  cases text with
  | nil => rfl
  | cons c rest =>
    have cut : phase.cuts c = true := breaks c rfl
    have first : Phase.idle.cuts c = true := rfl
    simp [lexemes, scan, cut, first, Phase.next_of_cuts]

theorem scan_of_not_cuts {phase : Phase} {c : Char} (goesOn : phase.cuts c = false)
    (rest : List Char) :
    scan phase (c :: rest) = (c :: (scan (phase.next c) rest).1, (scan (phase.next c) rest).2) := by
  simp [scan, goesOn]

theorem lexemes_cons (c : Char) (rest : List Char) :
    lexemes (c :: rest) =
      (c :: (scan (Phase.start c) rest).1) :: (scan (Phase.start c) rest).2 := by
  simp [lexemes, scan, Phase.next_idle, Phase.cuts]

theorem lexemes_cons_of_separates {c : Char} (apart : separates c = true) (rest : List Char) :
    lexemes (c :: rest) = [c] :: lexemes rest := by
  rw [lexemes_cons, Phase.start_of_separates apart, scan_of_breaks (breaks_idle rest)]

theorem scan_append {phase : Phase} {first second : List Char}
    (breaks : Breaks (phase.after first) second) :
    scan phase (first ++ second) =
      ((scan phase first).1, (scan phase first).2 ++ lexemes second) := by
  induction first generalizing phase with
  | nil => exact scan_of_breaks breaks
  | cons c rest ih =>
    rw [Phase.after_cons] at breaks
    simp only [List.cons_append, scan, ih breaks]
    split <;> rfl

theorem lexemes_append {first second : List Char}
    (breaks : Breaks (Phase.idle.after first) second) :
    lexemes (first ++ second) = lexemes first ++ lexemes second := by
  rw [lexemes, scan_append breaks]
  rfl

/-- Nothing is lost. -/
theorem flatten_scan (phase : Phase) (text : List Char) :
    (scan phase text).1 ++ (scan phase text).2.flatten = text := by
  induction text generalizing phase with
  | nil => rfl
  | cons c rest ih =>
    have whole := ih (phase.next c)
    simp only [scan]
    split <;> simp [whole]

theorem flatten_lexemes (text : List Char) : (lexemes text).flatten = text := by
  have whole := flatten_scan .idle text
  rwa [scan_of_breaks (breaks_idle text)] at whole

@[simp] theorem visible_append (first second : List (List Char)) :
    visible (first ++ second) = visible first ++ visible second :=
  List.filter_append first second

/-! ## Written names -/

theorem written_isName (name : List Char) : Name.needsQuotes (Name.written name) = false := by
  rw [Name.written]
  split
  · simp [Name.needsQuotes, Name.isQuoted, Name.unquoted?]
  · next plain => exact Bool.eq_false_iff.mpr plain

theorem read_written (name : List Char) :
    Name.read (Name.written name) = Name.read name := by
  rw [Name.written]
  split
  · next quotes =>
    simp only [Name.needsQuotes, Name.isQuoted, Bool.and_eq_true, Bool.not_eq_true',
      Option.isSome_eq_false_iff, Option.isNone_iff_eq_none] at quotes
    rw [Name.read, Name.read, quotes.2]
    simp [Name.unquoted?]
  · rfl

theorem Kind.of_written (name : List Char) : Kind.of (Name.written name) = .name := by
  simp [Kind.of, written_isName]

theorem scan_word {word rest : List Char} (parts : word.all Name.isWordPart = true)
    (breaks : Breaks .word rest) :
    scan .word (word ++ rest) = (word, lexemes rest) ∧ Phase.word.after word = .word := by
  induction word with
  | nil => exact ⟨scan_of_breaks breaks, rfl⟩
  | cons c more ih =>
    simp only [List.all_cons, Bool.and_eq_true] at parts
    obtain ⟨scanned, ended⟩ := ih parts.2
    have same : Phase.word.next c = .word := by simp [Phase.next, Phase.cuts, parts.1]
    simp [scan, same, scanned, ended, Phase.cuts, parts.1]

theorem scan_doubled (content : List Char) {rest : List Char} (breaks : Breaks .closing rest) :
    scan .quoted (Name.doubled content ++ [Name.backtick] ++ rest) =
        (Name.doubled content ++ [Name.backtick], lexemes rest) ∧
      Phase.quoted.after (Name.doubled content ++ [Name.backtick]) = .closing := by
  induction content with
  | nil => simp [Name.doubled, scan, Phase.next, Phase.cuts, scan_of_breaks breaks]
  | cons c more ih =>
    obtain ⟨scanned, ended⟩ := ih
    rw [Name.doubled]
    split
    · -- a doubled quote closes and opens again, and the token goes on
      have closes : Phase.quoted.next Name.backtick = .closing := rfl
      have opens : Phase.closing.next Name.backtick = .quoted := rfl
      simp only [List.cons_append]
      rw [scan, scan, Phase.after_cons, Phase.after_cons, closes, opens, scanned, ended]
      exact ⟨rfl, rfl⟩
    · next other =>
      have same : Phase.quoted.next c = .quoted := by simp [Phase.next, Phase.cuts, other]
      simp only [List.cons_append]
      rw [scan, same, scanned, Phase.after_cons, same]
      simp [Phase.cuts, ended]

/-- A token that is a name is one lexeme, and no quotes are open behind it. -/
theorem lexemes_append_of_isName {token rest : List Char}
    (name : Name.needsQuotes token = false) (apart : OpensApart rest) :
    lexemes (token ++ rest) = token :: lexemes rest ∧
      (Phase.idle.after token).isOutside = true := by
  rcases Name.word_or_quoted name with plain | ⟨content, rfl⟩
  · cases token with
    | nil => cases plain
    | cons c more =>
      rw [Name.isPlain, Bool.and_eq_true] at plain
      have part := isWordPart_of_isWordStart plain.1
      have calm := not_isQuote_of_isWordPart part
      have other : c ≠ Name.backtick := fun same => by simp [same] at calm
      have first : Phase.start c = .word := by simp [Phase.start, other, calm, part]
      obtain ⟨scanned, ended⟩ := scan_word plain.2 (apart.breaks rfl)
      rw [List.cons_append, lexemes_cons, Phase.after_cons, Phase.next_idle, first, scanned, ended]
      exact ⟨rfl, rfl⟩
  · have opened : Phase.start Name.backtick = .quoted := rfl
    obtain ⟨scanned, ended⟩ := scan_doubled content (apart.breaks rfl)
    rw [Name.quoted, List.cons_append, List.cons_append, lexemes_cons, Phase.after_cons,
      Phase.next_idle, opened, scanned, ended]
    exact ⟨rfl, rfl⟩

theorem lexemes_written_append (name : List Char) {rest : List Char} (apart : OpensApart rest) :
    lexemes (Name.written name ++ rest) = Name.written name :: lexemes rest :=
  (lexemes_append_of_isName (written_isName name) apart).1

theorem balanced_written (name : List Char) : Balanced (Name.written name) :=
  (lexemes_append_of_isName (written_isName name) opensApart_nil).2

end Cypher.Lexing
