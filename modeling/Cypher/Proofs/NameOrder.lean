import Cypher.Proofs.FieldOrder
import Mathlib.Data.List.Induction
import Mathlib.Data.List.Sort

/-!
# Names in the order of their bytes

The entries of a map stand in the order of their names, which is that of code
points. The bytes of names in UTF-8 have the same order: where two names differ
first, the bytes of the greater character are greater, and neither character
begins with the bytes of the other. So the entries of a map are those that it
was made of, sorted by the bytes of their names.
-/

namespace Cypher

/-! ## Bytes -/

namespace Text

/-- The bytes of a name in UTF-8. -/
def bytes (name : String) : List UInt8 := name.toUTF8.data.toList

theorem bytes_eq (name : String) : bytes name = name.toList.flatMap String.utf8EncodeChar := by
  show name.toByteArray.data.toList = _
  rw [← String.utf8Encode_toList]
  exact List.toList_data_toByteArray

/-- A character has six bits in each byte but the first one. -/
theorem utf8EncodeChar_cases (c : Char) :
    c.toNat ≤ 127 ∧ String.utf8EncodeChar c = [.ofNat c.toNat] ∨
      (127 < c.toNat ∧ c.toNat ≤ 2047) ∧ String.utf8EncodeChar c =
        [.ofNat (c.toNat / 64 % 32 + 192), .ofNat (c.toNat % 64 + 128)] ∨
      (2047 < c.toNat ∧ c.toNat ≤ 65535) ∧ String.utf8EncodeChar c =
        [.ofNat (c.toNat / 4096 % 16 + 224), .ofNat (c.toNat / 64 % 64 + 128),
          .ofNat (c.toNat % 64 + 128)] ∨
      (65535 < c.toNat ∧ c.toNat ≤ 1114111) ∧ String.utf8EncodeChar c =
        [.ofNat (c.toNat / 262144 % 8 + 240), .ofNat (c.toNat / 4096 % 64 + 128),
          .ofNat (c.toNat / 64 % 64 + 128), .ofNat (c.toNat % 64 + 128)] := by
  have top : c.toNat ≤ 1114111 := by
    have valid := c.valid
    simp only [UInt32.isValidChar, Nat.isValidChar, Char.toNat_val] at valid
    omega
  unfold String.utf8EncodeChar
  rw [Char.toNat_val]
  dsimp only
  split
  · next one => exact .inl ⟨one, rfl⟩
  · split
    · next more two => exact .inr (.inl ⟨⟨Nat.not_le.mp more, two⟩, rfl⟩)
    · split
      · next more three => exact .inr (.inr (.inl ⟨⟨Nat.not_le.mp more, three⟩, rfl⟩))
      · next more => exact .inr (.inr (.inr ⟨⟨Nat.not_le.mp more, top⟩, rfl⟩))

/-- The bytes of a smaller character are smaller, whatever follows them. -/
theorem utf8EncodeChar_append_lt {c d : Char} (less : c < d) (first second : List UInt8) :
    String.utf8EncodeChar c ++ first < String.utf8EncodeChar d ++ second := by
  have less : c.toNat < d.toNat := less
  -- the digits of a number in base 64, one after the other
  have twice (v : Nat) : v / 4096 = v / 64 / 64 := (Nat.div_div_eq_div_mul v 64 64).symm
  have thrice (v : Nat) : v / 262144 = v / 64 / 64 / 64 := by
    rw [← twice, Nat.div_div_eq_div_mul]
  obtain ⟨here, one⟩ | ⟨here, one⟩ | ⟨here, one⟩ | ⟨here, one⟩ := utf8EncodeChar_cases c <;>
  obtain ⟨there, other⟩ | ⟨there, other⟩ | ⟨there, other⟩ | ⟨there, other⟩ :=
    utf8EncodeChar_cases d <;>
  · rw [one, other]
    simp only [List.cons_append, List.nil_append, List.cons_lt_cons_iff, UInt8.lt_iff_toNat_lt,
      UInt8.toNat_ofNat', ← UInt8.toNat_inj, twice, thrice]
    omega

theorem flatMap_utf8EncodeChar_lt {first second : List Char} (less : first < second) :
    first.flatMap String.utf8EncodeChar < second.flatMap String.utf8EncodeChar := by
  induction first generalizing second with
  | nil =>
    cases second with
    | nil => exact absurd less (List.lt_irrefl [])
    | cons d rest =>
      obtain ⟨byte, more, encoded⟩ : ∃ byte more, String.utf8EncodeChar d = byte :: more :=
        List.exists_cons_of_ne_nil String.utf8EncodeChar_ne_nil
      rw [List.flatMap_nil, List.flatMap_cons, encoded]
      exact List.nil_lt_cons byte _
  | cons c rest ih =>
    cases second with
    | nil => exact absurd less (List.not_lt_nil _)
    | cons d rest' =>
      rw [List.flatMap_cons, List.flatMap_cons]
      obtain smaller | ⟨rfl, later⟩ := List.cons_lt_cons_iff.mp less
      · exact utf8EncodeChar_append_lt smaller _ _
      · exact List.append_left_lt (ih later)

/-- Names have the order of their bytes. -/
theorem bytes_lt_iff {first second : String} : bytes first < bytes second ↔ first < second := by
  have mono {first second : String} (less : first < second) : bytes first < bytes second := by
    rw [bytes_eq, bytes_eq]
    exact flatMap_utf8EncodeChar_lt (String.lt_iff_toList_lt.mp less)
  refine ⟨fun less => ?_, mono⟩
  obtain smaller | rfl | greater := lt_trichotomy first second
  · exact smaller
  · exact absurd less (List.lt_irrefl _)
  · exact absurd less (List.lt_asymm (mono greater))

theorem bytes_le_iff {first second : String} : bytes first ≤ bytes second ↔ first ≤ second := by
  rw [← not_lt, ← bytes_lt_iff]
  exact List.not_lt.symm

/-- The entries in the order of the bytes of their names. -/
def byBytes {α : Type} (entries : List (String × α)) : List (String × α) :=
  entries.mergeSort fun first second => bytes first.1 ≤ bytes second.1

theorem byBytes_eq {α : Type} (entries : List (String × α)) :
    byBytes entries = entries.mergeSort fun first second => first.1 ≤ second.1 := by
  unfold byBytes
  simp only [bytes_le_iff]

theorem pairwise_byBytes {α : Type} (entries : List (String × α)) :
    (byBytes entries).Pairwise fun first second => first.1 ≤ second.1 := by
  let le (first second : String × α) : Bool := first.1 ≤ second.1
  have trans (first second third : String × α) (here : le first second) (there : le second third) :
      le first third :=
    decide_eq_true ((of_decide_eq_true here).trans (of_decide_eq_true there))
  have total (first second : String × α) : (le first second || le second first) = true := by
    simpa [le] using le_total first.1 second.1
  rw [byBytes_eq]
  exact (List.pairwise_mergeSort trans total entries).imp of_decide_eq_true

end Text

/-! ## Sorted entries -/

/-- Entries of different names have one order in which they are sorted. -/
theorem entries_eq_of_sorted {α : Type} {first second : List (String × α)}
    (distinct : (first.map Prod.fst).Nodup) (same : first.Perm second)
    (sorted : first.Pairwise fun entry later => entry.1 ≤ later.1)
    (sorted' : second.Pairwise fun entry later => entry.1 ≤ later.1) : first = second := by
  refine List.Perm.eq_of_pairwise (fun entry later member member' here there => ?_) sorted sorted'
    same
  exact List.inj_on_of_nodup_map distinct member (same.mem_iff.mpr member') (le_antisymm here there)

namespace Value

variable {α : Type} {name : String} {value : α} {entries : List (String × α)}

theorem mem_insertSorted {entry : String × α} (member : entry ∈ insertSorted name value entries) :
    entry = (name, value) ∨ entry ∈ entries := by
  induction entries with
  | nil => grind [insertSorted]
  | cons other rest ih => grind [insertSorted]

theorem pairwise_insertSorted (sorted : entries.Pairwise fun entry later => entry.1 < later.1) :
    (insertSorted name value entries).Pairwise fun entry later => entry.1 < later.1 := by
  induction entries with
  | nil => exact List.pairwise_singleton _ _
  | cons other rest ih =>
    obtain ⟨behind, sorted⟩ := List.pairwise_cons.mp sorted
    rw [insertSorted]
    split
    · next less =>
      refine .cons (List.forall_mem_cons.mpr ⟨less, fun entry member => ?_⟩) (.cons behind sorted)
      exact less.trans (behind entry member)
    · split
      · next same => exact .cons (fun entry member => same ▸ behind entry member) sorted
      · next notLess different =>
        refine .cons (fun entry member => ?_) (ih sorted)
        obtain rfl | member := mem_insertSorted member
        · exact lt_of_le_of_ne (not_lt.mp notLess) (Ne.symm different)
        · exact behind entry member

theorem insertSorted_perm (absent : name ∉ entries.map Prod.fst) :
    (insertSorted name value entries).Perm ((name, value) :: entries) := by
  induction entries with
  | nil => exact .rfl
  | cons other rest ih =>
    rw [List.map_cons, List.mem_cons, not_or] at absent
    rw [insertSorted]
    split
    · exact .rfl
    · rw [if_neg absent.1]
      exact ((ih absent.2).cons other).trans (.swap _ _ _)

theorem sortEntries_concat (entries : List (String × α)) (entry : String × α) :
    sortEntries (entries ++ [entry]) = insertSorted entry.1 entry.2 (sortEntries entries) :=
  List.foldl_append

theorem pairwise_sortEntries (entries : List (String × α)) :
    (sortEntries entries).Pairwise fun entry later => entry.1 < later.1 := by
  induction entries using List.reverseRecOn with
  | nil => exact .nil
  | append_singleton entries entry ih =>
    rw [sortEntries_concat]
    exact pairwise_insertSorted ih

theorem mem_sortEntries {entry : String × α} (member : entry ∈ sortEntries entries) :
    entry ∈ entries := by
  induction entries using List.reverseRecOn with
  | nil => exact member
  | append_singleton entries other ih =>
    rw [sortEntries_concat] at member
    obtain rfl | member := mem_insertSorted member
    · exact List.mem_concat_self
    · exact List.mem_append_left _ (ih member)

theorem sortEntries_perm_self (distinct : (entries.map Prod.fst).Nodup) :
    (sortEntries entries).Perm entries := by
  induction entries using List.reverseRecOn with
  | nil => exact .rfl
  | append_singleton entries entry ih =>
    rw [List.map_append, List.map_singleton, List.nodup_append] at distinct
    have same := ih distinct.1
    rw [sortEntries_concat]
    refine (insertSorted_perm fun member => ?_).trans ?_
    · exact distinct.2.2 _ ((same.map Prod.fst).mem_iff.mp member) _ (List.mem_singleton_self _) rfl
    · exact (same.cons entry).trans (List.perm_append_singleton _ _).symm

/-- What is sorted is sorted by the bytes of names. -/
theorem sortEntries_eq_byBytes (distinct : (entries.map Prod.fst).Nodup) :
    sortEntries entries = Text.byBytes entries := by
  have same := sortEntries_perm_self distinct
  refine entries_eq_of_sorted ((same.map Prod.fst).nodup_iff.mpr distinct)
    (same.trans (List.mergeSort_perm entries _).symm) ?_ (Text.pairwise_byBytes entries)
  exact (pairwise_sortEntries entries).imp le_of_lt

/-- Sorting what is sorted changes nothing. -/
theorem sortEntries_sortEntries (entries : List (String × α)) :
    sortEntries (sortEntries entries) = sortEntries entries := by
  have sorted := pairwise_sortEntries entries
  have distinct : ((sortEntries entries).map Prod.fst).Nodup :=
    List.pairwise_map.mpr (sorted.imp ne_of_lt)
  exact entries_eq_of_sorted ((sortEntries_perm_self distinct).map Prod.fst |>.nodup_iff.mpr distinct)
    (sortEntries_perm_self distinct) ((pairwise_sortEntries _).imp le_of_lt) (sorted.imp le_of_lt)

end Value
end Cypher
