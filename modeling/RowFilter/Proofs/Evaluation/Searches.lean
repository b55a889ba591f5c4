import RowFilter.Proofs.Evaluation.TextCall
import RowFilter.Proofs.Text.Occurrences

/-!
The functions that look for one text in another, as long as they do not pass over case, all speak of
the same occurrences. Those that count and number them have them from left to right without overlaps;
the first and the last position are those of all occurrences. The parts between the occurrences give
the text back when they are joined, or the text with another one put in their place.
-/

namespace RowFilter

open Text (OccursAt Leftmost)

/-! ## Numbers of texts -/

namespace Value

theorem fits_min_greatest (n : ℕ) : IntType.int32.Fits (min (n : ℤ) IntType.int32.greatest) := by
  have hrange : IntType.int32.least = -2147483648 ∧ IntType.int32.greatest = 2147483647 := by
    decide
  rw [IntType.Fits, hrange.1, hrange.2]
  omega

/-- Counts stay at the greatest number. -/
theorem count_eq_integer_iff {n : ℕ} {k : Word .int32} :
    count n = .integer .int32 k ↔ min (n : ℤ) IntType.int32.greatest = k.toInt := by
  obtain ⟨m, hm⟩ := k
  simp [count, int32, Word.wrap, IntType.reduce_of_fits (fits_min_greatest n)]

theorem exists_count (n : ℕ) : ∃ k : Word .int32, count n = .integer .int32 k ∧
    k.toInt = min (n : ℤ) IntType.int32.greatest :=
  ⟨⟨_, fits_min_greatest n⟩, count_eq_integer_iff.mpr rfl, rfl⟩

theorem count_eq {n : ℕ} (h : n < 2 ^ 31) : count n = .int32 n := by
  have hgreatest : IntType.int32.greatest = 2147483647 := by decide
  have hmin : min (n : ℤ) IntType.int32.greatest = n := by
    rw [hgreatest]
    omega
  rw [count, hmin]

end Value

namespace Call

variable {position : Option ℕ}

theorem positionOrNone_some {p : ℕ} (h : p < 2 ^ 31) : positionOrNone (some p) = .int32 p :=
  Value.count_eq h

theorem positionOrNone_eq_none_iff : positionOrNone position = .int32 (-1) ↔ position = none := by
  cases position with
  | none => exact iff_of_true rfl rfl
  | some p =>
    have hreduce : (Word.wrap .int32 (-1)).toInt = -1 := by decide
    have hgreatest : IntType.int32.greatest = 2147483647 := by decide
    rw [positionOrNone, Value.int32, Value.count_eq_integer_iff, hreduce, hgreatest]
    simp only [reduceCtorEq, iff_false]
    omega

/-- An occurrence by its number, among all of them from left to right. -/
theorem nthIndexOf?_eq {needle : List Char} (hneedle : needle ≠ []) (text : List Char) (n : ℤ) :
    nthIndexOf? needle text n =
      if n < 1 then none else (Text.occurrences (· == ·) needle text)[n.toNat - 1]? := by
  rw [nthIndexOf?]
  simp only [hneedle, or_false]

theorem nthIndexOf?_eq_none_iff {needle : List Char} (hneedle : needle ≠ []) {text : List Char}
    {n : ℤ} : nthIndexOf? needle text n = none ↔
      n < 1 ∨ ((Text.occurrences (· == ·) needle text).length : ℤ) < n := by
  rw [nthIndexOf?_eq hneedle]
  by_cases hn : n < 1
  · simp [hn]
  · rw [if_neg hn, List.getElem?_eq_none_iff]
    omega

end Call

/-! ## Whether a text is found -/

namespace Function

variable {s t : String} {b : Bool} {switch : List Value}

theorem ok_boolean_iff {p : Bool} :
    (.ok (.boolean p) : Except Error Value) = .ok (.boolean true) ↔ p = true := by
  rw [Except.ok.injEq, Value.boolean.injEq]

theorem returns_contains_iff (h : Switch b switch) :
    contains.Returns (.string s :: .string t :: switch) (.boolean true) ↔
      Call.searched b t.toList <:+: Call.searched b s.toList := by
  rw [returns_search_iff rfl h, ← Text.isSome_indexOf?_iff]
  exact ok_boolean_iff

theorem returns_startsWith_iff (h : Switch b switch) :
    startsWith.Returns (.string s :: .string t :: switch) (.boolean true) ↔
      Call.searched b t.toList <+: Call.searched b s.toList := by
  rw [returns_search_iff rfl h, ← Text.startsWith_iff_prefix]
  exact ok_boolean_iff

theorem returns_endsWith_iff (h : Switch b switch) :
    endsWith.Returns (.string s :: .string t :: switch) (.boolean true) ↔
      Call.searched b t.toList <:+ Call.searched b s.toList := by
  rw [returns_search_iff rfl h, ← Text.endsWith_iff_suffix]
  exact ok_boolean_iff

end Function

/-! ## Positions -/

/-- One of the functions that return positions returns this one. -/
def Locates (s t : String) (switch : List Value) (i : Word .int32) : Prop :=
  0 ≤ i.toInt ∧
    (Function.indexOf.Returns (.string s :: .string t :: switch) (.integer .int32 i) ∨
    Function.lastIndexOf.Returns (.string s :: .string t :: switch) (.integer .int32 i) ∨
    ∃ k : Word .int32, Function.nthIndexOf.Returns
      (.string s :: .string t :: .integer .int32 k :: switch) (.integer .int32 i))

section

variable {s t : String} {b : Bool} {switch : List Value}

theorem Function.returns_indexOf (h : Switch b switch) (s t : String) :
    indexOf.Returns (.string s :: .string t :: switch) (Call.positionOrNone
      (Text.indexOf? (· == ·) (Call.searched b t.toList) (Call.searched b s.toList))) :=
  (returns_search_iff rfl h).mpr rfl

theorem Function.returns_lastIndexOf (h : Switch b switch) (s t : String) :
    lastIndexOf.Returns (.string s :: .string t :: switch) (Call.positionOrNone
      (Text.lastIndexOf? (· == ·) (Call.searched b t.toList) (Call.searched b s.toList))) :=
  (returns_search_iff rfl h).mpr rfl

theorem Function.returns_strCount (h : Switch b switch) (ht : Call.searched b t.toList ≠ [])
    (s : String) : strCount.Returns (.string s :: .string t :: switch) (.count
      (Text.occurrences (· == ·) (Call.searched b t.toList) (Call.searched b s.toList)).length) := by
  rw [returns_search_iff rfl h]
  show Except.ok (Value.count (Call.occurrenceCount _ _)) = _
  rw [Call.occurrenceCount, if_neg ht]

/-- A position that is returned is one where the text occurs in the text that is searched, or the
greatest number, if it occurs behind that. -/
theorem Locates.exists_occursAt {i : Word .int32} (hi : Locates s t switch i) (h : Switch b switch)
    (ht : Call.searched b t.toList ≠ []) :
    ∃ p : ℕ, OccursAt (· == ·) (Call.searched b t.toList) (Call.searched b s.toList) p ∧
      min (p : ℤ) IntType.int32.greatest = i.toInt := by
  have hfound {position : Option ℕ}
      (hoccurs : ∀ p ∈ position, OccursAt (· == ·) (Call.searched b t.toList)
        (Call.searched b s.toList) p)
      (hposition : Value.integer .int32 i = Call.positionOrNone position) :
      ∃ p : ℕ, OccursAt (· == ·) (Call.searched b t.toList) (Call.searched b s.toList) p ∧
        min (p : ℤ) IntType.int32.greatest = i.toInt := by
    cases position with
    | none =>
      -- without a position the number would be -1
      have hnone : (Word.wrap .int32 (-1)).toInt = -1 := by decide
      have hnonneg := hi.1
      rw [eq_of_heq (Value.integer.inj hposition).2, hnone] at hnonneg
      omega
    | some p => exact ⟨p, hoccurs p rfl, Value.count_eq_integer_iff.mp hposition.symm⟩
  rcases hi.2 with hindex | hlast | ⟨k, hnth⟩
  · exact hfound (fun p hp => (Text.indexOf?_eq_some_iff.mp hp).1)
      (hindex.unique (Function.returns_indexOf h s t))
  · exact hfound (fun p hp => ((Text.lastIndexOf?_eq_some_iff ht).mp hp).1)
      (hlast.unique (Function.returns_lastIndexOf h s t))
  · refine hfound (fun p hp => ?_) (hnth.unique (Function.returns_nthIndexOf h s t k))
    rw [Call.nthIndexOf?_eq ht] at hp
    split at hp
    · cases hp
    · exact (Text.leftmost_occurrences _ ht _).holds p (List.mem_of_getElem? hp)

end

/-! ## The functions that do not pass over case -/

/-- What the searches for `t` in `s` return, if `t` occurs at these positions from left to right. -/
structure FoundAt (s t : String) (off : List Value) (positions : List ℕ) : Prop where
  leftmost : Leftmost (OccursAt (· == ·) t.toList s.toList) t.length 0 positions
  count : Function.strCount.Returns (.string s :: .string t :: off) (.int32 positions.length)
  nth : ∀ (k : Word .int32) (i : ℕ), 1 ≤ k.toInt → positions[k.toInt.toNat - 1]? = some i →
    Function.nthIndexOf.Returns (.string s :: .string t :: .integer .int32 k :: off) (.int32 i)
  nth_none : ∀ k : Word .int32,
    Function.nthIndexOf.Returns (.string s :: .string t :: .integer .int32 k :: off) (.int32 (-1)) ↔
      k.toInt < 1 ∨ positions.length < k.toInt
  first : ∀ i, IsLeast {j | OccursAt (· == ·) t.toList s.toList j} i →
    Function.indexOf.Returns (.string s :: .string t :: off) (.int32 i)
  first_eq_nth : ∀ v, Function.indexOf.Returns (.string s :: .string t :: off) v ↔
    Function.nthIndexOf.Returns (.string s :: .string t :: .int32 1 :: off) v
  first_none : Function.indexOf.Returns (.string s :: .string t :: off) (.int32 (-1)) ↔
    positions = []
  last : ∀ i, IsGreatest {j | OccursAt (· == ·) t.toList s.toList j} i →
    Function.lastIndexOf.Returns (.string s :: .string t :: off) (.int32 i)
  last_none : Function.lastIndexOf.Returns (.string s :: .string t :: off) (.int32 (-1)) ↔
    positions = []
  part : ∀ i, Locates s t off i → ∃ n, Function.len.Returns [.string t] n ∧
    Function.subStr.Returns [.string s, .integer .int32 i, n] (.string t)

/-- What dividing `s` at `t` and replacing `t` in it return, if these are the parts. -/
structure DividesInto (s t : String) (off : List Value) (parts : List String) : Prop where
  part : ∀ (i : Word .int32) (p : String), 0 ≤ i.toInt → parts[i.toInt.toNat]? = some p →
    Function.split.Returns (.string s :: .string t :: .integer .int32 i :: off) (.string p)
  part_none : ∀ i : Word .int32,
    Function.split.Returns (.string s :: .string t :: .integer .int32 i :: off) .undefined ↔
      i.toInt < 0 ∨ parts.length ≤ i.toInt
  join : t.intercalate parts = s
  replaced : ∀ r : String, Function.replace.Returns (.string s :: .string t :: .string r :: off)
    (.string (r.intercalate parts))

section

variable {s t : String} {off : List Value}

/-- At a position that is returned SUBSTR finds the text. -/
theorem Locates.subStr {i : Word .int32} (hi : Locates s t off i) (hoff : Switch false off)
    (ht : t.toList ≠ []) (hs : s.length < 2 ^ 31) :
    ∃ n, Function.len.Returns [.string t] n ∧
      Function.subStr.Returns [.string s, .integer .int32 i, n] (.string t) := by
  obtain ⟨p, hoccurs, hp⟩ : ∃ p : ℕ, OccursAt (· == ·) t.toList s.toList p ∧
      min (p : ℤ) IntType.int32.greatest = i.toInt := hi.exists_occursAt hoff ht
  have hgreatest : IntType.int32.greatest = 2147483647 := by decide
  have hle := hoccurs.add_length_le ht
  have hlength_s := s.length_toList
  have hi' : i.toInt.toNat = p := by omega
  have hlength : t.toList.length < 2 ^ 31 := by omega
  obtain ⟨n, hn, htoInt⟩ := Value.exists_count t.toList.length
  have hlen := Function.returns_len t
  have hpart := Function.returns_subStr_take s hi.1 (n := n) (by omega)
  have htake : n.toInt.toNat = t.toList.length := by omega
  rw [htake, hi', ← List.prefix_iff_eq_take.mp (Text.occursAt_iff.mp hoccurs),
    String.ofList_toList] at hpart
  rw [hn] at hlen
  exact ⟨_, hlen, hpart⟩

theorem foundAt_occurrences (ht : t.toList ≠ []) (hs : s.length < 2 ^ 31)
    (hoff : Switch false off) :
    FoundAt s t off (Text.occurrences (· == ·) t.toList s.toList) := by
  have hleftmost := Text.leftmost_occurrences (· == ·) ht s.toList
  have hlt {i : ℕ} (hi : OccursAt (· == ·) t.toList s.toList i) : i < s.length := by
    rw [← String.length_toList]
    exact hi.lt ht
  have hsome {p : ℕ} (hp : OccursAt (· == ·) t.toList s.toList p) :
      Call.positionOrNone (some p) = .int32 p := Call.positionOrNone_some ((hlt hp).trans hs)
  have hindex : Function.indexOf.Returns (.string s :: .string t :: off) (Call.positionOrNone
      (Text.indexOf? (· == ·) t.toList s.toList)) := Function.returns_indexOf hoff s t
  have hlast : Function.lastIndexOf.Returns (.string s :: .string t :: off) (Call.positionOrNone
      (Text.lastIndexOf? (· == ·) t.toList s.toList)) := Function.returns_lastIndexOf hoff s t
  have hnth (k : Word .int32) : Function.nthIndexOf.Returns
      (.string s :: .string t :: .integer .int32 k :: off)
      (Call.positionOrNone (Call.nthIndexOf? t.toList s.toList k.toInt)) :=
    Function.returns_nthIndexOf hoff s t k
  constructor
  case leftmost =>
    rw [← String.length_toList]
    exact hleftmost
  case count =>
    have hlength := hleftmost.length_le (List.length_pos_iff.mpr ht) fun i hi => hlt hi
    rw [← Value.count_eq (by omega)]
    exact Function.returns_strCount hoff ht s
  case nth =>
    intro k i hk hi
    have hnumber : Call.nthIndexOf? t.toList s.toList k.toInt = some i := by
      rw [Call.nthIndexOf?_eq ht, if_neg (not_lt.mpr hk), hi]
    rw [← hsome (hleftmost.holds i (List.mem_of_getElem? hi)), ← hnumber]
    exact hnth k
  case nth_none =>
    intro k
    rw [(hnth k).iff_eq]
    exact Call.positionOrNone_eq_none_iff.trans (Call.nthIndexOf?_eq_none_iff ht)
  case first =>
    intro i hi
    rw [← hsome hi.1, ← Text.indexOf?_eq_some_iff.mpr hi]
    exact hindex
  case first_eq_nth =>
    intro v
    have hone : (Word.wrap .int32 1).toInt = 1 := by decide
    have hsame : Call.nthIndexOf? t.toList s.toList (Word.wrap .int32 1).toInt =
        Text.indexOf? (· == ·) t.toList s.toList := by
      rw [hone, Call.nthIndexOf?_eq ht, Text.indexOf?_eq_head? ht, List.head?_eq_getElem?]
      rfl
    have hnth := hnth (.wrap .int32 1)
    rw [hsame] at hnth
    exact hindex.iff_eq.trans hnth.iff_eq.symm
  case first_none =>
    rw [hindex.iff_eq, hleftmost.eq_nil_iff, ← Text.indexOf?_eq_none_iff]
    exact Call.positionOrNone_eq_none_iff
  case last =>
    intro i hi
    rw [← hsome hi.1, ← (Text.lastIndexOf?_eq_some_iff ht).mpr hi]
    exact hlast
  case last_none =>
    rw [hlast.iff_eq, hleftmost.eq_nil_iff, ← Text.lastIndexOf?_eq_none_iff ht]
    exact Call.positionOrNone_eq_none_iff
  case part => exact fun i hi => hi.subStr hoff ht hs

/-- The parts between the occurrences. -/
def partsBetween (t s : String) : List String :=
  (Text.split (· == ·) t.toList s.toList).map String.ofList

theorem dividesInto_partsBetween (ht : t.toList ≠ []) (hoff : Switch false off) :
    DividesInto s t off (partsBetween t s) := by
  have hsplit := Function.returns_split .equal hoff ht s
  have hjoin (r : String) : r.intercalate (partsBetween t s) =
      String.ofList (r.toList.intercalate (Text.split (· == ·) t.toList s.toList)) := by
    rw [← String.toList_inj, String.toList_intercalate, String.toList_ofList, partsBetween,
      List.map_map]
    simp [Function.comp_def]
  constructor
  case part =>
    intro i p hi hp
    rw [partsBetween, List.getElem?_map, Option.map_eq_some_iff] at hp
    obtain ⟨part, hpart, rfl⟩ := hp
    rw [← Function.partAt_of_getElem? hi hpart]
    exact hsplit i
  case part_none =>
    intro i
    rw [(hsplit i).iff_eq, partsBetween, List.length_map]
    exact Function.partAt_eq_undefined_iff
  case join =>
    rw [hjoin, Text.intercalate_split ht, String.ofList_toList]
  case replaced =>
    intro r
    rw [hjoin, Text.intercalate_split_eq_replace]
    exact Function.returns_replace .equal hoff ht s r

/-- All functions that look for a non-empty text `t` in `s` with regard to case agree on where it
occurs. There are positions, those of the leftmost occurrences that do not overlap, which STRCOUNT
counts and NTHINDEXOF returns by their numbers; INDEXOF and LASTINDEXOF return the least and the
greatest position of all, and at every position that is returned SUBSTR finds `t`. SPLIT has one
part more than there are positions. Joined with `t` the parts are `s`, and joined with another text
they are what REPLACE returns. -/
theorem Function.substring_functions_agree (ht : t ≠ "") (hs : s.length < 2 ^ 31)
    (hoff : Switch false off) :
    ∃ (positions : List ℕ) (parts : List String), FoundAt s t off positions ∧
      DividesInto s t off parts ∧ parts.length = positions.length + 1 := by
  have ht' : t.toList ≠ [] := by rwa [ne_eq, String.toList_eq_nil_iff]
  refine ⟨_, _, foundAt_occurrences ht' hs hoff, dividesInto_partsBetween ht' hoff, ?_⟩
  rw [partsBetween, List.length_map, Text.length_split]

end

/-- A text that overlaps itself. -/
theorem Function.substring_functions_agree_overlapping :
    "öbö" ≠ "" ∧ "öböböbö".length < 2 ^ 31 ∧ Switch false [] ∧
    ∃ (positions : List ℕ) (parts : List String), FoundAt "öböböbö" "öbö" [] positions ∧
      DividesInto "öböböbö" "öbö" [] parts ∧ parts.length = positions.length + 1 := by
  have ht : "öbö" ≠ "" := by decide
  have hs : "öböböbö".length < 2 ^ 31 := by decide
  exact ⟨ht, hs, .absent, Function.substring_functions_agree ht hs .absent⟩

end RowFilter
