import Cypher.Text.ClusterClass

/-!
# Grapheme clusters

A text falls into clusters, each of which a reader takes for one character: the
extended grapheme clusters of Unicode. Whether a border stands before a character
depends on its class, on the class before it, and on a tail that remembers the
flag, the pictograph or the conjunct under way.

A backspace in a typed line takes back the cluster before it. The size of a
cluster in bytes is kept in one byte, so that of a cluster of 256 bytes or more
only the bytes beyond the last multiple of 256 are taken back.
-/

namespace Cypher.Text

/-- What is under way at the end of a text. -/
inductive Tail
  | nothing
  /-- The first half of a flag. -/
  | halfFlag
  /-- A pictograph, maybe with extenders. -/
  | pictograph
  /-- The same with a joiner behind it. -/
  | joinedPictograph
  /-- A consonant, maybe with extenders. -/
  | consonant
  /-- The same with a linker among them. -/
  | linkedConsonant
  deriving DecidableEq, Repr

/-- The tail after one more character. -/
def Tail.next : Tail → ClusterClass → Tail
  | halfFlag, .regional => nothing
  | _, .regional => halfFlag
  | _, .pictograph => pictograph
  | _, .consonant => consonant
  | pictograph, .extender | pictograph, .linker | pictograph, .nonJoiner => pictograph
  | pictograph, .joiner => joinedPictograph
  | consonant, .linker => linkedConsonant
  | consonant, .extender | consonant, .joiner => consonant
  | linkedConsonant, .extender | linkedConsonant, .linker | linkedConsonant, .joiner =>
      linkedConsonant
  | _, _ => nothing

/-- Whether the second part of a syllable goes on with the syllable of the first. -/
def HangulPart.joins : HangulPart → HangulPart → Bool
  | leading, next => next != trailing
  | openSyllable, next | vowel, next => next == vowel || next == trailing
  | closedSyllable, next | trailing, next => next == trailing

/-- A class that always stands in a cluster of its own. -/
def ClusterClass.isAlone : ClusterClass → Bool
  | carriageReturn | lineFeed | control => true
  | _ => false

/-- A class that always goes on with the cluster before it. -/
def ClusterClass.isAttached : ClusterClass → Bool
  | extender | linker | nonJoiner | joiner | spacingMark => true
  | _ => false

/-- Whether a class takes another one behind it into its cluster. -/
def ClusterClass.joins (last : ClusterClass) (tail : Tail) (next : ClusterClass) : Bool :=
  if last = carriageReturn ∧ next = lineFeed then true
  else if last.isAlone || next.isAlone then false
  else if next.isAttached || last == prepended then true
  else
    match last, next with
    | hangul part, hangul following => part.joins following
    | _, consonant => tail == .linkedConsonant
    | _, pictograph => tail == .joinedPictograph
    | _, regional => tail == .halfFlag
    | _, _ => false

/-- The rest of the cluster that ends with a class and a tail, and the clusters behind it. -/
def clustersAfter (last : ClusterClass) (tail : Tail) :
    List Char → List Char × List (List Char)
  | [] => ([], [])
  | c :: rest =>
      let next := ClusterClass.ofChar c
      let (more, others) := clustersAfter next (tail.next next) rest
      if last.joins tail next then (c :: more, others) else ([], (c :: more) :: others)

/-- The clusters of a text. A border stands at its beginning, as behind a line feed. -/
def clusters (text : List Char) : List (List Char) :=
  (clustersAfter .lineFeed .nothing text).2

example : clusters ['e', '\u0301', 'x'] = [['e', '\u0301'], ['x']] := by decide +kernel

/-- A line as far as it is typed. -/
structure Typed where
  /-- What is kept, the last character first. -/
  kept : List Char
  /-- The sizes of the clusters that are kept, the last one first. -/
  sizes : List Nat

/-- Types one cluster. -/
def Typed.accept? (typed : Typed) (cluster : List Char) : Option Typed :=
  if cluster = ['\x08'] then
    match typed.sizes with
    | [] => some typed
    | size :: sizes => (dropBytes? size typed.kept).map (⟨·, sizes⟩)
  else some ⟨cluster.reverse ++ typed.kept, byteSize cluster % 256 :: typed.sizes⟩

/-- The line that remains when its backspaces are done; none if one divides a character. -/
def applyBackspaces? (line : String) : Option String :=
  if line.toList.contains '\x08' then
    ((clusters line.toList).foldlM Typed.accept? ⟨[], []⟩).map
      fun typed => String.ofList typed.kept.reverse
  else some line

example : applyBackspaces? "ab\x08c" = some "ac" := by decide +kernel
example : applyBackspaces? "\x08e\u0301\x08!" = some "!" := by decide +kernel

end Cypher.Text
