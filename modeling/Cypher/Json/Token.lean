import Cypher.Json.Numeral
import Cypher.Text.Basic

/-!
# JSON tokens

A text is cut into tokens from left to right. Where no token can be read the
list ends with a broken one, which says why, so that the reader only complains
about it when it comes to that place.
-/

namespace Cypher.Json

/-- A token, or the place where tokens end too early. -/
inductive Token
  | openArray
  | closeArray
  | openObject
  | closeObject
  | comma
  | colon
  | text (value : String)
  | scalar (value : Json)
  /-- A string that does not end, or has something in it that may not be there. -/
  | brokenText (fault : Fault)
  /-- Anything else that is no token. -/
  | broken (fault : Fault)

namespace Token

/-- The four kinds of white space that may stand between tokens. -/
def isSpace (c : Char) : Bool := c == ' ' || c == '\t' || c == '\n' || c == '\r'

/-- The value of hexadecimal digits. -/
def hexValue? (cs : List Char) : Option Nat :=
  cs.foldlM (fun value c => (Decimal.digitValue? c).map (value * 16 + ·)) 0

/-- The code unit after a backslash and `u`. With less than four bytes left the text has ended
too early. -/
def unit : List Char → Except Fault (Nat × List Char)
  | a :: b :: c :: d :: rest =>
      match hexValue? [a, b, c, d] with
      | some value => .ok (value, rest)
      | none => .error .malformed
  | cs => .error (if Text.byteSize cs < 4 then .unexpectedEnd else .malformed)

/-- The second half of a surrogate pair, itself an escape. -/
def lowSurrogate : List Char → Except Fault (Nat × List Char)
  | [] => .error .unexpectedEnd
  | ['\\'] => .error .unexpectedEnd
  | '\\' :: 'u' :: cs => do
      let (value, rest) ← unit cs
      if 0xDC00 ≤ value ∧ value < 0xE000 then .ok (value, rest) else .error .malformed
  | _ => .error .malformed

/-- The character of a `u` escape; surrogates must come as a pair. -/
def codePoint (cs : List Char) : Except Fault (Char × List Char) := do
  let (high, rest) ← unit cs
  if 0xDC00 ≤ high ∧ high < 0xE000 then .error .malformed
  else if 0xD800 ≤ high ∧ high < 0xDC00 then do
    -- ten bits from each half
    let (low, after) ← lowSurrogate rest
    .ok (Char.ofNat (0x10000 + (high - 0xD800) * 0x400 + (low - 0xDC00)), after)
  else .ok (Char.ofNat high, rest)

/-- The character of an escape, given what follows the backslash. -/
def escaped : List Char → Except Fault (Char × List Char)
  | [] => .error .unexpectedEnd
  | c :: rest =>
      if c = 'u' then codePoint rest
      else if c = '"' ∨ c = '\\' ∨ c = '/' then .ok (c, rest)
      else if c = 'b' then .ok ('\x08', rest)
      else if c = 'f' then .ok ('\x0C', rest)
      else if c = 'n' then .ok ('\n', rest)
      else if c = 'r' then .ok ('\r', rest)
      else if c = 't' then .ok ('\t', rest)
      else .error .malformed

theorem unit_length {cs rest : List Char} {value : Nat}
    (found : unit cs = .ok (value, rest)) : rest.length < cs.length := by
  unfold unit at found
  split at found
  · split at found
    · simp only [Except.ok.injEq, Prod.mk.injEq] at found
      simp [← found.2]; omega
    · simp at found
  · simp at found

theorem lowSurrogate_length {cs rest : List Char} {value : Nat}
    (found : lowSurrogate cs = .ok (value, rest)) : rest.length < cs.length := by
  unfold lowSurrogate at found
  split at found
  · simp at found
  · simp at found
  · next tail =>
    cases inner : unit tail with
    | error fault => simp [inner, bind, Except.bind] at found
    | ok read =>
      have bound := unit_length (show unit tail = .ok (read.1, read.2) from inner)
      simp only [inner, bind, Except.bind] at found
      split at found
      · simp only [Except.ok.injEq, Prod.mk.injEq] at found
        simp [← found.2]; omega
      · simp at found
  · simp at found

theorem codePoint_length {cs rest : List Char} {c : Char}
    (found : codePoint cs = .ok (c, rest)) : rest.length < cs.length := by
  cases inner : unit cs with
  | error fault => simp [codePoint, inner, bind, Except.bind] at found
  | ok read =>
    have bound := unit_length (show unit cs = .ok (read.1, read.2) from inner)
    simp only [codePoint, inner, bind, Except.bind] at found
    split at found
    · simp at found
    · split at found
      · cases second : lowSurrogate read.2 with
        | error fault => simp [second] at found
        | ok low =>
          have more := lowSurrogate_length
            (show lowSurrogate read.2 = .ok (low.1, low.2) from second)
          simp only [second, Except.ok.injEq, Prod.mk.injEq] at found
          rw [← found.2]; omega
      · simp only [Except.ok.injEq, Prod.mk.injEq] at found
        rw [← found.2]; omega

theorem escaped_length {cs rest : List Char} {c : Char}
    (found : escaped cs = .ok (c, rest)) : rest.length < cs.length := by
  cases cs with
  | nil => simp [escaped] at found
  | cons d tail =>
    simp only [escaped] at found
    split at found
    · have bound := codePoint_length found
      simp; omega
    · repeat' split at found
      all_goals simp at found
      all_goals simp [← found.2]

/-- The rest of a string after its opening quote. -/
def string (cs : List Char) : Except Fault (List Char × List Char) :=
  match cs with
  | [] => .error .unexpectedEnd
  | c :: rest =>
      if c = '"' then .ok ([], rest)
      else if c = '\\' then
        match _h : escaped rest with
        | .error fault => .error fault
        | .ok (d, after) => (string after).map fun read => (d :: read.1, read.2)
      else if c.toNat < 0x20 then .error .malformed
      else (string rest).map fun read => (c :: read.1, read.2)
termination_by cs.length
decreasing_by
  · have bound := escaped_length ‹_›; simp; omega
  · simp

/-- What follows a word, of which the first letter is read. -/
def word : List Char → List Char → Except Fault (List Char)
  | [], cs => .ok cs
  | _ :: _, [] => .error .unexpectedEnd
  | letter :: letters, c :: rest => if c = letter then word letters rest else .error .malformed

theorem string_length {cs : List Char} {read : List Char × List Char}
    (found : string cs = .ok read) : read.2.length < cs.length := by
  fun_induction string cs generalizing read with
  | case1 => simp at found
  | case2 rest => simp only [Except.ok.injEq] at found; simp [← found]
  | case3 => simp at found
  | case4 rest d after next _ ih =>
    cases inner : string after with
    | error fault => simp [inner, Except.map] at found
    | ok more =>
      have bound := ih inner
      have escape := escaped_length next
      simp only [inner, Except.map, Except.ok.injEq] at found
      simp [← found]; omega
  | case5 => simp at found
  | case6 c rest _ _ _ ih =>
    cases inner : string rest with
    | error fault => simp [inner, Except.map] at found
    | ok more =>
      have bound := ih inner
      simp only [inner, Except.map, Except.ok.injEq] at found
      simp [← found]; omega

theorem word_length {letters cs rest : List Char}
    (found : word letters cs = .ok rest) : rest.length ≤ cs.length := by
  fun_induction word letters cs with
  | case1 => simp only [Except.ok.injEq] at found; simp [found]
  | case2 => simp at found
  | case3 _ _ _ ih => have := ih found; simp; omega
  | case4 => simp at found

/-- The word, or numeral, that a text begins with. -/
def scalarAt (c : Char) (rest : List Char) : Except Fault (Json × List Char) :=
  if c = 'n' then (word ['u', 'l', 'l'] rest).map fun after => (.null, after)
  else if c = 't' then (word ['r', 'u', 'e'] rest).map fun after => (.bool true, after)
  else if c = 'f' then (word ['a', 'l', 's', 'e'] rest).map fun after => (.bool false, after)
  else if c = '-' ∨ c.isDigit then
    match Numeral.read (c :: rest) with
    | .error fault => .error fault
    | .ok (n, after) =>
        match n.number? with
        | some value => .ok (.number value, after)
        | none => .error .malformed
  else .error .malformed

theorem scalarAt_length {c : Char} {rest : List Char} {read : Json × List Char}
    (found : scalarAt c rest = .ok read) : read.2.length ≤ rest.length := by
  have ofWord : ∀ (letters : List Char) (value : Json),
      (word letters rest).map (fun after => (value, after)) = .ok read →
        read.2.length ≤ rest.length := by
    intro letters value same
    cases inner : word letters rest with
    | error fault => simp [inner, Except.map] at same
    | ok after =>
      have bound := word_length inner
      simp only [inner, Except.map, Except.ok.injEq] at same
      simpa [← same] using bound
  unfold scalarAt at found
  repeat' split at found
  · exact ofWord _ _ found
  · exact ofWord _ _ found
  · exact ofWord _ _ found
  · simp at found
  · next n after numeral _ value _ =>
    have bound := Numeral.read_length numeral
    simp only [Except.ok.injEq] at found
    simp only [← found]; simp at bound; omega
  · simp at found
  · simp at found

/-- The token of a character that is one by itself. -/
def punctuation? (c : Char) : Option Token :=
  if c = '[' then some openArray
  else if c = ']' then some closeArray
  else if c = '{' then some openObject
  else if c = '}' then some closeObject
  else if c = ',' then some comma
  else if c = ':' then some colon
  else none

/-- The tokens of a text. -/
def tokens (cs : List Char) : List Token :=
  match cs with
  | [] => []
  | c :: rest =>
      if isSpace c then tokens rest
      else
        match punctuation? c with
        | some token => token :: tokens rest
        | none =>
            if c = '"' then
              match _h : string rest with
              | .error fault => [.brokenText fault]
              | .ok (value, after) => .text (String.ofList value) :: tokens after
            else
              match _h : scalarAt c rest with
              | .error fault => [.broken fault]
              | .ok (value, after) => .scalar value :: tokens after
termination_by cs.length
decreasing_by
  · simp
  · simp
  · have bound := string_length ‹_›; simp at bound ⊢; omega
  · have bound := scalarAt_length ‹_›; simp at bound ⊢; omega

end Token
end Cypher.Json
