import Cypher.Json.Reader
import Cypher.Proofs.NameOrder

/-!
# JSON that texts can say

A text of JSON can say integers that fit 64 bits, with a sign or without, and
its objects have no name twice. `Json.Proper` says this of a value at every
depth. Whatever text is read, the value is proper: it is so token by token,
together with all that is still open.
-/

namespace Cypher

/-! ## Numbers -/

namespace Number

/-- An integer that fits 64 bits only without a sign. -/
def isUnsigned : Number → Bool
  | integer value => Int64.maxValue.toInt < value && value < UInt64.size
  | float _ => false

/-- A double, or an integer that fits 64 bits, with a sign or without. -/
def Fits : Number → Prop
  | integer value => Int64.minValue.toInt ≤ value ∧ value < UInt64.size
  | float _ => True

/-- Of the integers that a text can say, those without a sign are the ones that need no sign. -/
theorem int64?_eq_none_iff {value : Int} (fits : (integer value).Fits) :
    (integer value).int64? = none ↔ (integer value).isUnsigned = true := by
  obtain ⟨low, high⟩ := fits
  rw [int64?, isUnsigned, Bool.and_eq_true, decide_eq_true_iff, decide_eq_true_iff]
  split
  · next inside => exact iff_of_false (Option.some_ne_none _) (by omega)
  · next outside => exact iff_of_true rfl (by omega)

end Number

namespace Json

mutual

/-- The numbers in a value, in the order in which its text has them. -/
def numbers : Json → List Number
  | .number value => [value]
  | .array items => numbersOfItems items
  | .object entries => numbersOfEntries entries
  | .null | .bool _ | .string _ => []

def numbersOfItems : List Json → List Number
  | [] => []
  | item :: rest => item.numbers ++ numbersOfItems rest

def numbersOfEntries : List (String × Json) → List Number
  | [] => []
  | (_, value) :: rest => value.numbers ++ numbersOfEntries rest

end

mutual

/-- All integers fit, and no object has a name twice. -/
def Proper : Json → Prop
  | .number value => value.Fits
  | .array items => ProperItems items
  | .object entries => (entries.map Prod.fst).Nodup ∧ ProperEntries entries
  | .null | .bool _ | .string _ => True

def ProperItems : List Json → Prop
  | [] => True
  | item :: rest => item.Proper ∧ ProperItems rest

def ProperEntries : List (String × Json) → Prop
  | [] => True
  | (_, value) :: rest => value.Proper ∧ ProperEntries rest

end

mutual

/-- The value with the entries of every object in the order of the bytes of their names. -/
def sorted : Json → Json
  | .array items => .array (sortedItems items)
  | .object entries => .object (Text.byBytes (sortedEntries entries))
  | .null => .null
  | .bool value => .bool value
  | .number value => .number value
  | .string value => .string value

def sortedItems : List Json → List Json
  | [] => []
  | item :: rest => item.sorted :: sortedItems rest

/-- The entries as they stand, with sorted values. -/
def sortedEntries : List (String × Json) → List (String × Json)
  | [] => []
  | (name, value) :: rest => (name, value.sorted) :: sortedEntries rest

end

theorem properItems_iff {items : List Json} : ProperItems items ↔ ∀ item ∈ items, item.Proper := by
  induction items with
  | nil => exact iff_of_true trivial nofun
  | cons item rest ih => rw [ProperItems, List.forall_mem_cons, ih]

theorem properEntries_iff {entries : List (String × Json)} :
    ProperEntries entries ↔ ∀ entry ∈ entries, entry.2.Proper := by
  induction entries with
  | nil => exact iff_of_true trivial nofun
  | cons entry rest ih => rw [ProperEntries, List.forall_mem_cons, ih]

/-! ## Numerals -/

namespace Numeral

theorem accumulate_lt {significand : Nat} (start : significand < UInt64.size) (ds : List Nat) :
    (accumulate significand ds).1 < UInt64.size := by
  fun_induction accumulate significand ds with
  | case1 => exact start
  | case2 significand digit rest fits value count same ih =>
    rw [same] at ih
    exact ih fits
  | case3 => exact start

theorem significand_lt (n : Numeral) : n.significand.1 < UInt64.size := by
  have zero : 0 < UInt64.size := by decide
  exact accumulate_lt (accumulate_lt zero n.whole) (n.fraction.getD [])

theorem fits_of_number? {n : Numeral} {number : Number} (read : n.number? = some number) :
    number.Fits := by
  have bound := n.significand_lt
  have least : Int64.minValue.toInt = -2 ^ 63 := rfl
  have size : UInt64.size = 2 ^ 64 := rfl
  unfold number? at read
  generalize n.significand = parts at read bound
  obtain ⟨value, shift⟩ := parts
  dsimp only at read bound
  split at read
  · cases read
    exact ⟨by omega, by omega⟩
  · split at read
    · next small =>
      have most : value ≤ 2 ^ 63 := small.2.2
      cases read
      exact ⟨by omega, by omega⟩
    · obtain ⟨x, -, rfl⟩ := Option.map_eq_some_iff.mp read
      trivial

end Numeral

/-! ## Tokens -/

namespace Token

/-- A value that is a token by itself is proper. -/
def Proper : Token → Prop
  | scalar value => value.Proper
  | _ => True

theorem proper_scalarAt {c : Char} {rest : List Char} {read : Json × List Char}
    (found : scalarAt c rest = .ok read) : read.1.Proper := by
  have ofWord (letters : List Char) {value : Json} (proper : value.Proper)
      (same : (word letters rest).map (fun after => (value, after)) = .ok read) :
      read.1.Proper := by
    obtain ⟨after, -, rfl⟩ := map_eq_ok same
    exact proper
  unfold scalarAt at found
  repeat' split at found
  · exact ofWord _ (by simp [Json.Proper]) found
  · exact ofWord _ (by simp [Json.Proper]) found
  · exact ofWord _ (by simp [Json.Proper]) found
  · cases found
  · next number read =>
    cases found
    rw [Json.Proper]
    exact Numeral.fits_of_number? read
  · cases found
  · cases found

theorem proper_punctuation? {c : Char} {token : Token} (found : punctuation? c = some token) :
    token.Proper := by
  unfold punctuation? at found
  repeat' split at found
  all_goals
    cases found
    try trivial

theorem proper_tokens (cs : List Char) : ∀ token ∈ tokens cs, token.Proper := by
  fun_induction tokens cs with
  | case1 => exact nofun
  | case2 c rest space ih => exact ih
  | case3 c rest space token found ih =>
    exact List.forall_mem_cons.mpr ⟨proper_punctuation? found, ih⟩
  | case4 => exact List.forall_mem_singleton.mpr trivial
  | case5 _ _ _ _ _ _ ih => exact List.forall_mem_cons.mpr ⟨trivial, ih⟩
  | case6 => exact List.forall_mem_singleton.mpr trivial
  | case7 c rest _ _ _ value after found ih =>
    exact List.forall_mem_cons.mpr ⟨proper_scalarAt found, ih⟩

end Token

/-! ## Reading -/

/-- What can be the entries of a proper object. -/
def Entries.Proper (entries : List (String × Json)) : Prop :=
  (entries.map Prod.fst).Nodup ∧ ∀ entry ∈ entries, entry.2.Proper

theorem proper_object {entries : List (String × Json)} (proper : Entries.Proper entries) :
    (Json.object entries).Proper := by
  rw [Proper, properEntries_iff]
  exact proper

theorem Entries.proper_nil : Entries.Proper [] := ⟨List.nodup_nil, nofun⟩

theorem Entries.Proper.setEntry {entries : List (String × Json)} (proper : Entries.Proper entries)
    (name : String) {value : Json} (fine : value.Proper) :
    Entries.Proper (setEntry name value entries) := by
  refine ⟨nodup_setEntry name value proper.1, ?_⟩
  have every := proper.2
  clear proper
  induction entries with
  | nil => exact List.forall_mem_singleton.mpr fine
  | cons entry rest ih =>
    rw [List.forall_mem_cons] at every
    rw [Cypher.setEntry]
    split
    · exact List.forall_mem_cons.mpr ⟨fine, every.2⟩
    · exact List.forall_mem_cons.mpr ⟨every.1, ih every.2⟩

/-- What is there of an array or object that is open is proper. -/
def Open.Proper : Open → Prop
  | array items => ∀ item ∈ items, item.Proper
  | entry entries _ => Entries.Proper entries

/-- All that was read is proper. -/
def Reading.Proper : Reading → Prop
  | dueValue around | dueItem around | dueFirst around => ∀ outer ∈ around, outer.Proper
  | dueName entries around | dueColon entries _ around | afterEntry entries around =>
      Entries.Proper entries ∧ ∀ outer ∈ around, outer.Proper
  | afterItem items around => (∀ item ∈ items, item.Proper) ∧ ∀ outer ∈ around, outer.Proper
  | finished result => result.Proper

section Reading

variable {limit : Nat} {around : List Open} {token : Token} {after : Reading}

theorem proper_complete {value : Json} (fine : value.Proper)
    (outside : ∀ outer ∈ around, outer.Proper) : (Reading.complete value around).Proper := by
  cases around with
  | nil => exact fine
  | cons innermost outer =>
    rw [List.forall_mem_cons] at outside
    cases innermost with
    | array items => exact ⟨List.forall_mem_cons.mpr ⟨fine, outside.1⟩, outside.2⟩
    | entry entries name => exact ⟨outside.1.setEntry name fine, outside.2⟩

theorem proper_startValue (outside : ∀ outer ∈ around, outer.Proper) (fine : token.Proper)
    (read : startValue limit around token = .ok after) : after.Proper := by
  cases token with
  | openArray =>
    rw [startValue] at read
    split at read
    · cases read
      exact outside
    · cases read
  | openObject =>
    rw [startValue] at read
    split at read
    · cases read
      exact outside
    · cases read
  | text value =>
    cases read
    exact proper_complete (by simp [Json.Proper]) outside
  | scalar value =>
    cases read
    exact proper_complete fine outside
  | _ => cases read

theorem proper_startName {entries : List (String × Json)} (proper : Entries.Proper entries)
    (outside : ∀ outer ∈ around, outer.Proper)
    (read : startName entries around token = .ok after) : after.Proper := by
  cases token with
  | text name =>
    cases read
    exact ⟨proper, outside⟩
  | _ => cases read

/-- One token keeps all that was read proper. -/
theorem Reading.Proper.next {reading : Reading} (proper : reading.Proper) (fine : token.Proper)
    (read : reading.next limit token = .ok after) : after.Proper := by
  cases reading with
  | dueValue around => exact proper_startValue proper fine read
  | dueItem around =>
    cases token with
    | closeArray =>
      cases read
      exact proper_complete (by simp [Json.Proper, ProperItems]) proper
    | _ =>
      have empty : (Open.array []).Proper := List.forall_mem_nil _
      simp only [Reading.next] at read
      exact proper_startValue (List.forall_mem_cons.mpr ⟨empty, proper⟩) fine read
  | dueFirst around =>
    cases token with
    | closeObject =>
      cases read
      exact proper_complete (proper_object Entries.proper_nil) proper
    | _ =>
      simp only [Reading.next] at read
      exact proper_startName Entries.proper_nil proper read
  | dueName entries around => exact proper_startName proper.1 proper.2 read
  | dueColon entries name around =>
    cases token with
    | colon =>
      cases read
      exact List.forall_mem_cons.mpr proper
    | _ => cases read
  | afterItem items around =>
    cases token with
    | comma =>
      cases read
      exact List.forall_mem_cons.mpr proper
    | closeArray =>
      cases read
      refine proper_complete ?_ proper.2
      rw [Json.Proper, properItems_iff]
      exact fun item member => proper.1 item (List.mem_reverse.mp member)
    | _ => cases read
  | afterEntry entries around =>
    cases token with
    | comma =>
      cases read
      exact proper
    | closeObject =>
      cases read
      exact proper_complete (proper_object proper.1) proper.2
    | _ => cases read
  | finished result => cases read

theorem Reading.Proper.run {reading : Reading} (proper : reading.Proper) {tokens : List Token}
    (fine : ∀ token ∈ tokens, token.Proper) {value : Json}
    (read : reading.run limit tokens = .ok value) : value.Proper := by
  induction tokens generalizing reading with
  | nil =>
    cases reading with
    | finished result =>
      cases read
      exact proper
    | _ => cases read
  | cons token rest ih =>
    rw [List.forall_mem_cons] at fine
    rw [Reading.run] at read
    split at read
    · next after step => exact ih (proper.next fine.1 step) fine.2 read
    · cases read

end Reading

/-- A value that is read from a text is proper. -/
theorem proper_read {text : String} {value : Json} (read : Json.read text = .ok value) :
    value.Proper := by
  have start : (Reading.dueValue []).Proper := List.forall_mem_nil _
  exact start.run (Token.proper_tokens _) read

end Json
end Cypher
