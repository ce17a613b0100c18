import Cypher.Proofs.Numerals

/-!
# What is written is read back

Both spellings of a value have the same tokens, since they differ only in the
white space between them. Reading these tokens comes to the value itself, as
long as no object has a name twice, arrays and objects are not nested deeper
than a reader allows, and every number is denoted by its own numeral. For
integers of 64 bits that is so; what is asked of doubles is that the digits
they are written with stand for them.
-/

namespace Cypher.Json

open Numeral (Apart Denotes)

/-! ## Strings -/

namespace Token

section Strings

variable {rest : List Char}

theorem string_quote : string ('"' :: rest) = .ok ([], rest) := by
  rw [string]
  rfl

theorem string_plain {c : Char} (notQuote : c ≠ '"') (notBackslash : c ≠ '\\')
    (notControl : ¬ c.toNat < 0x20) :
    string (c :: rest) = (string rest).map fun read => (c :: read.1, read.2) := by
  rw [string, if_neg notQuote, if_neg notBackslash, if_neg notControl]

theorem string_escaped {c : Char} {cs : List Char} (found : escaped cs = .ok (c, rest)) :
    string ('\\' :: cs) = (string rest).map fun read => (c :: read.1, read.2) := by
  rw [string, if_neg (by decide), if_pos rfl]
  split
  · next failed =>
    rw [found] at failed
    cases failed
  · next same =>
    rw [found] at same
    cases same
    rfl

/-- The four digits of a control character. -/
theorem codePoint_control {c : Char} (control : c.toNat < 0x20) :
    codePoint ('0' :: '0' :: Decimal.digitChar (c.toNat / 16) :: Decimal.digitChar (c.toNat % 16) ::
      rest) = .ok (c, rest) := by
  have digits : ∀ n : Fin 0x20, hexValue? ['0', '0', Decimal.digitChar (n.val / 16),
      Decimal.digitChar (n.val % 16)] = some n.val := by decide
  have value : unit ('0' :: '0' :: Decimal.digitChar (c.toNat / 16) ::
      Decimal.digitChar (c.toNat % 16) :: rest) = .ok (c.toNat, rest) := by
    rw [unit, digits ⟨c.toNat, control⟩]
  rw [codePoint, value]
  show (if 0xDC00 ≤ c.toNat ∧ c.toNat < 0xE000 then _ else _) = _
  rw [if_neg (by omega), if_neg (by omega), Char.ofNat_toNat]

/-- A character is read from what it is written as. -/
theorem string_stringChar (c : Char) :
    string (stringChar c ++ rest) = (string rest).map fun read => (c :: read.1, read.2) := by
  unfold stringChar
  split_ifs with quote backslash backspace formFeed newLine return_ tab control
  · subst quote
    exact string_escaped rfl
  · subst backslash
    exact string_escaped rfl
  · subst backspace
    exact string_escaped rfl
  · subst formFeed
    exact string_escaped rfl
  · subst newLine
    exact string_escaped rfl
  · subst return_
    exact string_escaped rfl
  · subst tab
    exact string_escaped rfl
  · exact string_escaped (codePoint_control control)
  · exact string_plain quote backslash control

theorem string_flatMap (cs : List Char) :
    string (cs.flatMap stringChar ++ '"' :: rest) = .ok (cs, rest) := by
  induction cs with
  | nil => exact string_quote
  | cons c more ih =>
    rw [List.flatMap_cons, List.append_assoc, string_stringChar, ih]
    rfl

end Strings

/-! ## Tokens -/

section Tokens

variable {rest : List Char}

theorem tokens_space {c : Char} (space : isSpace c = true) : tokens (c :: rest) = tokens rest := by
  rw [tokens, if_pos space]

theorem tokens_punctuation {c : Char} {token : Token} (found : punctuation? c = some token) :
    tokens (c :: rest) = token :: tokens rest := by
  have visible : isSpace c = false := by
    unfold punctuation? at found
    split_ifs at found <;> (subst c; rfl)
  rw [tokens, if_neg (by simp [visible]), found]

theorem tokens_stringText (value : String) :
    tokens (stringText value ++ rest) = .text value :: tokens rest := by
  have found : string (value.toList.flatMap stringChar ++ '"' :: rest) = _ :=
    string_flatMap value.toList
  have text : stringText value ++ rest =
      '"' :: (value.toList.flatMap stringChar ++ '"' :: rest) := by
    simp [stringText]
  rw [text, tokens, if_neg (by decide)]
  show (if '"' = '"' then _ else _) = _
  rw [if_pos rfl]
  split
  · next failed =>
    rw [found] at failed
    cases failed
  · next same =>
    rw [found] at same
    cases same
    rw [String.ofList_toList]

/-- No word or numeral begins like anything else. -/
theorem apart_of_scalarAt {c : Char} {cs : List Char} {read : Json × List Char}
    (found : scalarAt c cs = .ok read) :
    isSpace c = false ∧ punctuation? c = none ∧ c ≠ '"' := by
  unfold scalarAt at found
  split_ifs at found with null true_ false_ numeral
  · subst null
    decide
  · subst true_
    decide
  · subst false_
    decide
  · rcases numeral with rfl | digit
    · decide
    · have other {d : Char} (no : d.isDigit = false) : c ≠ d := by
        rintro rfl
        rw [digit] at no
        cases no
      simp [isSpace, punctuation?, other]

theorem tokens_scalar {c : Char} {cs after : List Char} {value : Json}
    (found : scalarAt c cs = .ok (value, after)) :
    tokens (c :: cs) = .scalar value :: tokens after := by
  obtain ⟨visible, noMark, notQuote⟩ := apart_of_scalarAt found
  rw [tokens, if_neg (by simp [visible]), noMark]
  dsimp only
  rw [if_neg notQuote]
  split
  · next failed =>
    rw [found] at failed
    cases failed
  · next same =>
    rw [found] at same
    cases same
    rfl

theorem tokens_number {number : Number} (denotes : Denotes number.chars number)
    (apart : Apart rest) :
    tokens (number.chars ++ rest) = .scalar (.number number) :: tokens rest := by
  obtain ⟨n, found, value⟩ := denotes
  have longer := Numeral.read_append apart found
  cases text : number.chars with
  | nil =>
    rw [text] at found
    cases found
  | cons c cs =>
    rw [text] at found longer
    have head := Numeral.head_of_read found
    have noWord : c ≠ 'n' ∧ c ≠ 't' ∧ c ≠ 'f' := by
      refine ⟨?_, ?_, ?_⟩ <;> rintro rfl <;> revert head <;> decide
    rw [List.cons_append] at longer ⊢
    refine tokens_scalar ?_
    rw [scalarAt, if_neg noWord.1, if_neg noWord.2.1, if_neg noWord.2.2, if_pos head, longer]
    simp only [value, List.nil_append]

end Tokens

end Token

/-! ## The tokens of a value -/

section Values

open Token (tokens tokens_punctuation tokens_stringText tokens_scalar tokens_number)

mutual

/-- The tokens of a value. -/
def toTokens : Json → List Token
  | string value => [.text value]
  | array [] => [.openArray, .closeArray]
  | array (first :: rest) =>
      .openArray :: first.toTokens ++ tokensOfItems rest ++ [.closeArray]
  | object [] => [.openObject, .closeObject]
  | object ((name, value) :: rest) =>
      .openObject :: .text name :: .colon :: value.toTokens ++ tokensOfEntries rest ++
        [.closeObject]
  | value => [.scalar value]

/-- The tokens of items after the first. -/
def tokensOfItems : List Json → List Token
  | [] => []
  | item :: rest => .comma :: item.toTokens ++ tokensOfItems rest

/-- The tokens of entries after the first. -/
def tokensOfEntries : List (String × Json) → List Token
  | [] => []
  | (name, value) :: rest =>
      .comma :: .text name :: .colon :: value.toTokens ++ tokensOfEntries rest

end

/-- Every number is denoted by its own numeral. -/
def Legible (numbers : List Number) : Prop := ∀ number ∈ numbers, Denotes number.chars number

theorem legible_append {first second : List Number} :
    Legible (first ++ second) ↔ Legible first ∧ Legible second := List.forall_mem_append

variable {rest : List Char}

/-- What can stand behind a value. -/
theorem apart_mark {c : Char} (mark : c ∈ [',', ']', '}', '\n']) : Apart (c :: rest) := by
  rintro _ ⟨⟩
  simp only [List.mem_cons, List.not_mem_nil, or_false] at mark
  rcases mark with rfl | rfl | rfl | rfl <;> decide

theorem apart_itemChars (items : List Json) (apart : Apart rest) :
    Apart (itemChars items ++ rest) := by
  cases items with
  | nil => exact apart
  | cons item more => exact apart_mark (by decide)

theorem apart_entryChars (entries : List (String × Json)) (apart : Apart rest) :
    Apart (entryChars entries ++ rest) := by
  cases entries with
  | nil => exact apart
  | cons entry more => exact apart_mark (by decide)

mutual

/-- The tokens of a value on one line. -/
theorem tokens_chars (value : Json) (legible : Legible value.numbers) {rest : List Char}
    (apart : Apart rest) :
    tokens (value.chars ++ rest) = value.toTokens ++ tokens rest := by
  match value with
  | .null => exact tokens_scalar rfl
  | .bool true => exact tokens_scalar rfl
  | .bool false => exact tokens_scalar rfl
  | .number n =>
    rw [numbers] at legible
    exact tokens_number (legible n (List.mem_singleton_self _)) apart
  | .string value => exact tokens_stringText value
  | .array [] =>
    show tokens ('[' :: ']' :: rest) = _
    rw [tokens_punctuation rfl, tokens_punctuation rfl]
    rfl
  | .array (first :: more) =>
    rw [numbers, numbersOfItems, legible_append] at legible
    rw [chars, toTokens]
    simp only [List.cons_append, List.append_assoc, List.nil_append]
    rw [tokens_punctuation rfl,
      tokens_chars first legible.1 (apart_itemChars more (apart_mark (by decide))),
      tokens_itemChars more legible.2 (apart_mark (by decide)), tokens_punctuation rfl]
  | .object [] =>
    show tokens ('{' :: '}' :: rest) = _
    rw [tokens_punctuation rfl, tokens_punctuation rfl]
    rfl
  | .object ((name, value) :: more) =>
    rw [numbers, numbersOfEntries, legible_append] at legible
    rw [chars, toTokens]
    simp only [List.cons_append, List.append_assoc, List.nil_append]
    rw [tokens_punctuation rfl, tokens_stringText, tokens_punctuation rfl,
      tokens_chars value legible.1 (apart_entryChars more (apart_mark (by decide))),
      tokens_entryChars more legible.2 (apart_mark (by decide)), tokens_punctuation rfl]

theorem tokens_itemChars (items : List Json) (legible : Legible (numbersOfItems items))
    {rest : List Char} (apart : Apart rest) :
    tokens (itemChars items ++ rest) = tokensOfItems items ++ tokens rest := by
  match items with
  | [] => rfl
  | item :: more =>
    rw [numbersOfItems, legible_append] at legible
    rw [itemChars, tokensOfItems]
    simp only [List.cons_append, List.append_assoc]
    rw [tokens_punctuation rfl, tokens_chars item legible.1 (apart_itemChars more apart),
      tokens_itemChars more legible.2 apart]

theorem tokens_entryChars (entries : List (String × Json))
    (legible : Legible (numbersOfEntries entries)) {rest : List Char} (apart : Apart rest) :
    tokens (entryChars entries ++ rest) = tokensOfEntries entries ++ tokens rest := by
  match entries with
  | [] => rfl
  | (name, value) :: more =>
    rw [numbersOfEntries, legible_append] at legible
    rw [entryChars, tokensOfEntries]
    simp only [List.cons_append, List.append_assoc]
    rw [tokens_punctuation rfl, tokens_stringText, tokens_punctuation rfl,
      tokens_chars value legible.1 (apart_entryChars more apart),
      tokens_entryChars more legible.2 apart]

end

theorem tokens_newLine (depth : Nat) : tokens (newLine depth ++ rest) = tokens rest := by
  rw [newLine, List.cons_append, Token.tokens_space rfl]
  induction 2 * depth with
  | zero => rfl
  | succ width ih => rw [List.replicate_succ, List.cons_append, Token.tokens_space rfl, ih]

theorem apart_newLine (depth : Nat) : Apart (newLine depth ++ rest) := apart_mark (by decide)

theorem apart_spreadItems (depth : Nat) (items : List Json) (apart : Apart rest) :
    Apart (spreadItems depth items ++ rest) := by
  cases items with
  | nil => exact apart
  | cons item more => exact apart_mark (by decide)

theorem apart_spreadEntries (depth : Nat) (entries : List (String × Json)) (apart : Apart rest) :
    Apart (spreadEntries depth entries ++ rest) := by
  cases entries with
  | nil => exact apart
  | cons entry more => exact apart_mark (by decide)

mutual

/-- Over several lines a value has the tokens that it has on one line. -/
theorem tokens_spreadChars (depth : Nat) (value : Json) (legible : Legible value.numbers)
    {rest : List Char} (apart : Apart rest) :
    tokens (spreadChars depth value ++ rest) = value.toTokens ++ tokens rest := by
  match value with
  | .null => exact tokens_chars .null legible apart
  | .bool b => exact tokens_chars (.bool b) legible apart
  | .number n => exact tokens_chars (.number n) legible apart
  | .string text => exact tokens_chars (.string text) legible apart
  | .array [] => exact tokens_chars (.array []) legible apart
  | .array (first :: more) =>
    rw [numbers, numbersOfItems, legible_append] at legible
    rw [spreadChars, toTokens]
    simp only [List.cons_append, List.append_assoc, List.nil_append]
    rw [tokens_punctuation rfl, tokens_newLine,
      tokens_spreadChars (depth + 1) first legible.1
        (apart_spreadItems (depth + 1) more (apart_newLine depth)),
      tokens_spreadItems (depth + 1) more legible.2 (apart_newLine depth), tokens_newLine,
      tokens_punctuation rfl]
  | .object [] => exact tokens_chars (.object []) legible apart
  | .object ((name, value) :: more) =>
    rw [numbers, numbersOfEntries, legible_append] at legible
    rw [spreadChars, toTokens]
    simp only [List.cons_append, List.append_assoc, List.nil_append]
    rw [tokens_punctuation rfl, tokens_newLine, tokens_stringText, tokens_punctuation rfl,
      Token.tokens_space rfl,
      tokens_spreadChars (depth + 1) value legible.1
        (apart_spreadEntries (depth + 1) more (apart_newLine depth)),
      tokens_spreadEntries (depth + 1) more legible.2 (apart_newLine depth), tokens_newLine,
      tokens_punctuation rfl]

theorem tokens_spreadItems (depth : Nat) (items : List Json)
    (legible : Legible (numbersOfItems items)) {rest : List Char} (apart : Apart rest) :
    tokens (spreadItems depth items ++ rest) = tokensOfItems items ++ tokens rest := by
  match items with
  | [] => rfl
  | item :: more =>
    rw [numbersOfItems, legible_append] at legible
    rw [spreadItems, tokensOfItems]
    simp only [List.cons_append, List.append_assoc]
    rw [tokens_punctuation rfl, tokens_newLine,
      tokens_spreadChars depth item legible.1 (apart_spreadItems depth more apart),
      tokens_spreadItems depth more legible.2 apart]

theorem tokens_spreadEntries (depth : Nat) (entries : List (String × Json))
    (legible : Legible (numbersOfEntries entries)) {rest : List Char} (apart : Apart rest) :
    tokens (spreadEntries depth entries ++ rest) = tokensOfEntries entries ++ tokens rest := by
  match entries with
  | [] => rfl
  | (name, value) :: more =>
    rw [numbersOfEntries, legible_append] at legible
    rw [spreadEntries, tokensOfEntries]
    simp only [List.cons_append, List.append_assoc]
    rw [tokens_punctuation rfl, tokens_newLine, tokens_stringText, tokens_punctuation rfl,
      Token.tokens_space rfl,
      tokens_spreadChars depth value legible.1 (apart_spreadEntries depth more apart),
      tokens_spreadEntries depth more legible.2 apart]

end

end Values

/-! ## Reading -/

mutual

/-- How many arrays and objects stand inside each other. -/
def depth : Json → Nat
  | array items => depthOfItems items + 1
  | object entries => depthOfEntries entries + 1
  | _ => 0

def depthOfItems : List Json → Nat
  | [] => 0
  | item :: rest => max item.depth (depthOfItems rest)

def depthOfEntries : List (String × Json) → Nat
  | [] => 0
  | (_, value) :: rest => max value.depth (depthOfEntries rest)

end

section Reading

variable {limit : Nat} {around : List Open}

theorem run_cons {reading after : Reading} {token : Token} {rest : List Token}
    (read : reading.next limit token = .ok after) :
    reading.run limit (token :: rest) = after.run limit rest := by
  rw [Reading.run, read]

theorem next_openArray (shallow : around.length < limit) :
    (Reading.dueValue around).next limit .openArray = .ok (.dueItem around) := if_pos shallow

theorem next_openObject (shallow : around.length < limit) :
    (Reading.dueValue around).next limit .openObject = .ok (.dueFirst around) := if_pos shallow

/-- Where an array may end, a value is read as its first item. -/
theorem run_dueItem (value : Json) (rest : List Token) :
    (Reading.dueItem around).run limit (value.toTokens ++ rest) =
      (Reading.dueValue (.array [] :: around)).run limit (value.toTokens ++ rest) := by
  match value with
  | .null | .bool _ | .number _ | .string _ | .array [] | .array (_ :: _) | .object []
  | .object ((_, _) :: _) => rfl

end Reading

mutual

/-- The tokens of a value are read to that value, wherever it stands. -/
theorem run_toTokens (value : Json) (proper : value.Proper) {limit : Nat} {around : List Open}
    (shallow : around.length + value.depth ≤ limit) (rest : List Token) :
    (Reading.dueValue around).run limit (value.toTokens ++ rest) =
      (Reading.complete value around).run limit rest := by
  match value with
  | .null => rfl
  | .bool b => rfl
  | .number n => rfl
  | .string text => rfl
  | .array [] =>
    rw [depth, depthOfItems] at shallow
    exact (run_cons (next_openArray (by omega))).trans (run_cons rfl)
  | .array (first :: more) =>
    rw [Proper, ProperItems] at proper
    rw [depth, depthOfItems] at shallow
    rw [toTokens]
    simp only [List.cons_append, List.append_assoc, List.nil_append]
    rw [run_cons (next_openArray (by omega)), run_dueItem,
      run_toTokens first proper.1 (by simp only [List.length_cons]; omega)]
    show (Reading.afterItem [first] around).run limit _ = _
    rw [run_tokensOfItems more proper.2 (by omega), run_cons rfl, List.reverse_append,
      List.reverse_reverse]
    rfl
  | .object [] =>
    rw [depth, depthOfEntries] at shallow
    exact (run_cons (next_openObject (by omega))).trans (run_cons rfl)
  | .object ((name, value) :: more) =>
    rw [Proper, ProperEntries] at proper
    rw [depth, depthOfEntries] at shallow
    rw [toTokens]
    simp only [List.cons_append, List.append_assoc, List.nil_append]
    rw [run_cons (next_openObject (by omega)), run_cons rfl, run_cons rfl,
      run_toTokens value proper.2.1 (by simp only [List.length_cons]; omega)]
    show (Reading.afterEntry [(name, value)] around).run limit _ = _
    rw [run_tokensOfEntries more proper.2.2 (by omega) _ proper.1, run_cons rfl]
    rfl

/-- Each item goes on with the array. -/
theorem run_tokensOfItems (items : List Json) (proper : ProperItems items) {limit : Nat}
    {around : List Open} (shallow : around.length + 1 + depthOfItems items ≤ limit)
    (before : List Json) (rest : List Token) :
    (Reading.afterItem before around).run limit (tokensOfItems items ++ rest) =
      (Reading.afterItem (items.reverse ++ before) around).run limit rest := by
  match items with
  | [] => rfl
  | item :: more =>
    rw [ProperItems] at proper
    rw [depthOfItems] at shallow
    rw [tokensOfItems]
    simp only [List.cons_append, List.append_assoc]
    rw [run_cons rfl, run_toTokens item proper.1 (by simp only [List.length_cons]; omega)]
    show (Reading.afterItem (item :: before) around).run limit _ = _
    rw [run_tokensOfItems more proper.2 (by omega), List.reverse_cons, List.append_assoc]
    rfl

/-- Each entry has a name that the object does not have yet, and goes on with it. -/
theorem run_tokensOfEntries (entries : List (String × Json)) (proper : ProperEntries entries)
    {limit : Nat} {around : List Open}
    (shallow : around.length + 1 + depthOfEntries entries ≤ limit)
    (before : List (String × Json)) (distinct : ((before ++ entries).map Prod.fst).Nodup)
    (rest : List Token) :
    (Reading.afterEntry before around).run limit (tokensOfEntries entries ++ rest) =
      (Reading.afterEntry (before ++ entries) around).run limit rest := by
  match entries with
  | [] => rw [tokensOfEntries, List.append_nil, List.nil_append]
  | (name, value) :: more =>
    rw [ProperEntries] at proper
    rw [depthOfEntries] at shallow
    rw [tokensOfEntries]
    simp only [List.cons_append, List.append_assoc]
    have absent : name ∉ before.map Prod.fst := by
      intro member
      rw [List.map_append, List.nodup_append] at distinct
      exact distinct.2.2 name member name List.mem_cons_self rfl
    rw [run_cons rfl, run_cons rfl, run_cons rfl,
      run_toTokens value proper.1 (by simp only [List.length_cons]; omega)]
    show (Reading.afterEntry (setEntry name value before) around).run limit _ = _
    have assoc : before ++ (name, value) :: more = before ++ [(name, value)] ++ more := by simp
    rw [setEntry_of_not_mem value absent, assoc]
    exact run_tokensOfEntries more proper.2 (by omega) _ (assoc ▸ distinct) rest

end

/-- A text that has the tokens of a value is read to that value. -/
theorem read_of_tokens {value : Json} (proper : value.Proper) (shallow : value.depth ≤ nestingLimit)
    {text : String} (same : Token.tokens text.toList = value.toTokens) : read text = .ok value := by
  have ran : (Reading.dueValue []).run nestingLimit (value.toTokens ++ []) = .ok value :=
    run_toTokens value proper (by simpa using shallow) []
  rw [read, readNested, same, ← List.append_nil value.toTokens, ran]

/-- A proper value is read from either spelling, also with nothing but white space behind it. -/
theorem read_written {value : Json} (proper : value.Proper) (shallow : value.depth ≤ nestingLimit)
    (legible : Legible value.numbers) (last : String) (apart : Apart last.toList)
    (blank : Token.tokens last.toList = []) :
    read (value.compact ++ last) = .ok value ∧ read (value.pretty ++ last) = .ok value := by
  have compact := tokens_chars value legible apart
  have pretty := tokens_spreadChars 0 value legible apart
  rw [blank, List.append_nil] at compact pretty
  constructor
  · refine read_of_tokens proper shallow ?_
    rw [String.toList_append, Json.compact, String.toList_ofList, compact]
  · refine read_of_tokens proper shallow ?_
    rw [String.toList_append, Json.pretty, String.toList_ofList, pretty]

end Cypher.Json
