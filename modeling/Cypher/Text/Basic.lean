/-!
# Characters and texts

Classes of characters are tests on code points, the larger ones given as tables
of ranges. Blank characters are those with the Unicode property White_Space:
texts count as empty, and white space is collapsed, by this one rule. Sizes and
places in a text are counted in the bytes that its characters take.
-/

namespace Cypher.Text

/-- Whether a code point is in one of the ranges, which include their ends. -/
def inRanges (ranges : List (Nat × Nat)) (code : Nat) : Bool :=
  ranges.any fun range => range.1 ≤ code && code ≤ range.2

/-- The Unicode property White_Space. -/
def isBlank (c : Char) : Bool :=
  let code := c.toNat
  (0x9 ≤ code && code ≤ 0xD) || code == 0x20 || code == 0x85 || code == 0xA0 ||
    code == 0x1680 || (0x2000 ≤ code && code ≤ 0x200A) || code == 0x2028 ||
    code == 0x2029 || code == 0x202F || code == 0x205F || code == 0x3000

/-- Whether nothing but blanks stands in the text. -/
def isBlankText (text : String) : Bool :=
  text.toList.all isBlank

/-- The text without the blanks at its two ends. -/
def trim (text : String) : String :=
  String.ofList ((text.toList.dropWhile isBlank).reverse.dropWhile isBlank).reverse

example : isBlank '\u3000' = true ∧ isBlank '\u200B' = false ∧ isBlank '\u001C' = false := by decide
example : trim " \u00A0a b\n" = "a b" := by decide

/-- The size in bytes. -/
def byteSize : List Char → Nat
  | [] => 0
  | c :: rest => c.utf8Size + byteSize rest

/-- Removes bytes from the front; none if that divides a character or if there are fewer. -/
def dropBytes? (count : Nat) : List Char → Option (List Char)
  | [] => if count = 0 then some [] else none
  | c :: rest =>
      if count = 0 then some (c :: rest)
      else if c.utf8Size ≤ count then dropBytes? (count - c.utf8Size) rest
      else none

end Cypher.Text
