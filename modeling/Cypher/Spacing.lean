import Cypher.Text.Basic

/-!
# Spacing

Fragments are joined into one statement with single spaces. Outside quotes
every run of blanks becomes one space, none stands at either end, and quoted
names and string literals are copied as they are. A quote that a fragment
leaves open ends with the fragment.
-/

namespace Cypher.Spacing

/-- Where the sweep over a fragment stands. -/
inductive Mode
  /-- Nothing is written yet. -/
  | blank
  /-- A space is due before the next visible character. -/
  | gap
  /-- Right after a visible character. -/
  | flush
  /-- Inside the quotes that the character opened. -/
  | inside (opener : Char)
  /-- Inside them, after a backslash. -/
  | escaped (opener : Char)
  deriving DecidableEq, Repr

/-- The three characters that open quotes. -/
def isQuote (c : Char) : Bool := c == '`' || c == '\'' || c == '"'

/-- Where the sweep stands after a visible character outside quotes. -/
def Mode.shown (c : Char) : Mode := if isQuote c then .inside c else .flush

/-- Where it stands after a character inside quotes; only string literals have escapes. -/
def Mode.within (opener c : Char) : Mode :=
  if c == '\\' && opener != '`' then .escaped opener
  else if c == opener then .flush
  else .inside opener

/-- What one fragment adds to the statement. -/
def sweep : Mode → List Char → List Char
  | _, [] => []
  | .inside opener, c :: rest => c :: sweep (.within opener c) rest
  | .escaped opener, c :: rest => c :: sweep (.inside opener) rest
  | .blank, c :: rest => if Text.isBlank c then sweep .blank rest else c :: sweep (.shown c) rest
  | .flush, c :: rest => if Text.isBlank c then sweep .gap rest else c :: sweep (.shown c) rest
  | .gap, c :: rest => if Text.isBlank c then sweep .gap rest else ' ' :: c :: sweep (.shown c) rest

/-- What the fragments add after a statement that is or is not begun. -/
def sweepAll : Bool → List (List Char) → List Char
  | _, [] => []
  | begun, fragment :: rest =>
      let added := sweep (if begun then .gap else .blank) fragment
      added ++ sweepAll (begun || !added.isEmpty) rest

/-- The statement that the fragments make. -/
def joined (fragments : List (List Char)) : List Char := sweepAll false fragments

example : String.ofList (joined [" a \n b".toList, [], "'c  d' ".toList]) = "a b 'c  d'" := by
  decide

end Cypher.Spacing
