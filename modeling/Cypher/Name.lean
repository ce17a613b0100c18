/-!
# Names

A name is written as a plain word where it can be, and between backticks
otherwise, with every backtick of the name written twice. A name that already
has the quoted form stands for what it quotes and is written as it is.
-/

namespace Cypher.Name

/-- The quote around a name. -/
def backtick : Char := '`'

/-- A character that may begin a plain word. -/
def isWordStart (c : Char) : Bool := c.isAlpha || c == '_'

/-- A character that may stand inside a plain word. -/
def isWordPart (c : Char) : Bool := c.isAlphanum || c == '_'

/-- Whether the name is a plain word. -/
def isPlain : List Char → Bool
  | [] => false
  | c :: rest => isWordStart c && rest.all isWordPart

/-- Reads what follows an opening backtick up to the closing one, which must come last. -/
def quotedBody? : List Char → Option (List Char)
  | [] => none
  | [c] => if c = backtick then some [] else none
  | c :: d :: rest =>
      if c = backtick then
        if d = backtick then (quotedBody? rest).map (backtick :: ·) else none
      else (quotedBody? (d :: rest)).map (c :: ·)

/-- The name inside a well-formed quoted name. -/
def unquoted? : List Char → Option (List Char)
  | [] => none
  | c :: rest => if c = backtick then quotedBody? rest else none

/-- Whether the name is already between backticks, with every inner backtick doubled. -/
def isQuoted (name : List Char) : Bool := (unquoted? name).isSome

/-- Every backtick twice, all else once. -/
def doubled : List Char → List Char
  | [] => []
  | c :: rest => if c = backtick then backtick :: backtick :: doubled rest else c :: doubled rest

/-- Whether the name cannot be written as it is. -/
def needsQuotes (name : List Char) : Bool := !isPlain name && !isQuoted name

/-- The name as it is written in a statement. -/
def written (name : List Char) : List Char :=
  if needsQuotes name then backtick :: doubled name ++ [backtick] else name

/-- The name that a written name stands for. -/
def read (token : List Char) : List Char := (unquoted? token).getD token

/-- Whether a name is put between backticks. -/
def needsEscaping (name : String) : Bool := needsQuotes name.toList

/-- The text of a name in a statement. -/
def escape (name : String) : String := String.ofList (written name.toList)

/-- The names in a row, each as it is written. -/
def escapeJoined (names : List String) (joiner : String) : String :=
  joiner.intercalate (names.map escape)

@[simp] theorem quotedBody?_doubled (name : List Char) :
    quotedBody? (doubled name ++ [backtick]) = some name := by
  induction name with
  | nil => simp [doubled, quotedBody?]
  | cons c rest ih =>
    by_cases quote : c = backtick
    · simp [doubled, quote, quotedBody?, ih]
    · have step : ∀ tail : List Char, tail ≠ [] →
          quotedBody? (c :: tail) = (quotedBody? tail).map (c :: ·) := by
        intro tail nonempty
        match tail, nonempty with
        | d :: more, _ => simp [quotedBody?, quote]
      simp [doubled, quote, step, ih]

/-- The name between backticks, its own backticks doubled. -/
def quoted (content : List Char) : List Char := backtick :: doubled content ++ [backtick]

/-- Reading up to the closing backtick undoes the doubling, and accepts nothing else. -/
theorem eq_doubled_of_quotedBody? {body content : List Char}
    (read : quotedBody? body = some content) : body = doubled content ++ [backtick] := by
  fun_induction quotedBody? body generalizing content with
  | case1 => cases read
  | case2 =>
    cases read
    rfl
  | case3 => cases read
  | case4 rest ih =>
    obtain ⟨inner, found, rfl⟩ := Option.map_eq_some_iff.mp read
    rw [ih found, doubled, if_pos rfl]
    rfl
  | case5 => cases read
  | case6 c d rest other ih =>
    obtain ⟨inner, found, rfl⟩ := Option.map_eq_some_iff.mp read
    rw [ih found, doubled, if_neg other]
    rfl

theorem unquoted?_eq_some_iff {name content : List Char} :
    unquoted? name = some content ↔ name = quoted content := by
  constructor
  · intro found
    cases name with
    | nil => cases found
    | cons c rest =>
      obtain ⟨rfl, read⟩ := Option.ite_none_right_eq_some.mp found
      exact congrArg (backtick :: ·) (eq_doubled_of_quotedBody? read)
  · rintro rfl
    exact quotedBody?_doubled content

theorem read_quoted (content : List Char) : read (quoted content) = content := by
  rw [read, unquoted?_eq_some_iff.mpr rfl, Option.getD_some]

theorem isQuoted_iff {name : List Char} : isQuoted name = true ↔ ∃ content, name = quoted content := by
  simp only [isQuoted, Option.isSome_iff_exists, unquoted?_eq_some_iff]

/-- A name that is written as it is, is a plain word or quoted. -/
theorem word_or_quoted {token : List Char} (name : needsQuotes token = false) :
    isPlain token = true ∨ ∃ content, token = quoted content := by
  rw [needsQuotes, Bool.and_eq_false_iff, Bool.not_eq_false', Bool.not_eq_false'] at name
  exact name.imp_right isQuoted_iff.mp

theorem length_doubled (content : List Char) : content.length ≤ (doubled content).length := by
  induction content with
  | nil => exact Nat.le_refl 0
  | cons c rest ih =>
    rw [doubled]
    split
    · exact Nat.le_succ_of_le (Nat.succ_le_succ ih)
    · exact Nat.succ_le_succ ih

example : escape "a b" = "`a b`" ∧ escape "a`b" = "`a``b`" ∧ escape "`a b`" = "`a b`" := by decide

end Cypher.Name
