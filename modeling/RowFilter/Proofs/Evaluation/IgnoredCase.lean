import RowFilter.Proofs.Evaluation.Searches
import RowFilter.Proofs.Text.Folded

/-!
The functions that pass over case. SPLIT compares letters by their families, the searches compare
texts in lowercase; so the parts of a text are as many as its occurrences where the two agree. The
positions of the searches are positions in the lowercase. They are positions in the text itself if
no letter before them becomes two, and the text that was looked for is found there again, unless the
rest of the text opens with a sigma that has another form by itself.
-/

namespace RowFilter

open Text (LowersAsFolded OpensWithFinalSigma)

/-! ## Room for a letter -/

/-- A set of ASCII letters takes little room in a pattern. -/
theorem Pattern.fits_set_of_isAscii {letters : Text.CharSet} (h : letters.isAscii = true)
    (hsize : letters.ranges.size ≤ 128) : (set letters).fits = true := by
  have hbackward : (set letters).backward = set letters := by simp [backward]
  have hopens (l : Look) : (set letters).opensWith l = false := by simp [opensWith]
  have hadd (d : Direction) (t : Tally) :
      (set letters).addTo d t = t.add.addRanges letters.ranges.size := by
    rw [addTo, addSet, if_pos h]
  have hroom {t : Tally} (ht : t.bytes ≤ 2048) : t.isFull = false := by
    rw [Tally.isFull, sizeLimit, decide_eq_false_iff_not]
    omega
  rw [fits, forwardTally, backwardTally, hbackward, hopens, hopens, hadd, hadd, hroom, hroom]
  · rfl
  all_goals
    simp only [Bool.false_eq_true, if_false, Tally.bytes, Tally.add, Tally.addRanges, Tally.addFork]
    omega

theorem Text.family_i : CharSet.family 'i' = ⟨#[(0x49, 0x49), (0x69, 0x69)]⟩ := by
  have hpeers : peers 'i' = ['i', 'I'] := by decide +kernel
  rw [CharSet.family, hpeers, CharSet.ofCodes, CharSet.ofRanges]
  simp [List.mergeSort, List.MergeSort.Internal.splitInTwo, CharSet.absorb]

theorem Pattern.fits_ofFoldedText_i : (ofFoldedText ['i']).fits = true := by
  have hset : ofFoldedText ['i'] = set (.family 'i') := by
    rw [ofFoldedText, List.map_singleton]
    show ofSequence [ofSet (.family 'i')] = set (.family 'i')
    rw [Text.family_i]
    rfl
  rw [hset, Text.family_i]
  exact fits_set_of_isAscii (by decide +kernel) (by decide)

/-! ## Parts -/

section

variable {s d : String} {b : Bool} {switch on : List Value}

/-- The parts of `s` at `d` are numbered from 0 to `n`; there is none by another number. -/
def PartsUpTo (s d : String) (switch : List Value) (n : ℤ) : Prop :=
  ∀ i : Word .int32,
    (0 ≤ i.toInt ∧ i.toInt ≤ n → ∃ part : String,
      Function.split.Returns (.string s :: .string d :: .integer .int32 i :: switch)
        (.string part)) ∧
    (i.toInt < 0 ∨ n < i.toInt →
      Function.split.Returns (.string s :: .string d :: .integer .int32 i :: switch) .undefined)

theorem partsUpTo_occurrences {same : Char → Char → Bool} (hsame : Function.Sameness d b same)
    (h : Switch b switch) (hd : d.toList ≠ []) (s : String) :
    PartsUpTo s d switch (Text.occurrences same d.toList s.toList).length := by
  intro i
  have hsplit := Function.returns_split hsame h hd s i
  have hlength : (Text.split same d.toList s.toList).length =
      (Text.occurrences same d.toList s.toList).length + 1 := Text.length_split ..
  constructor
  · rintro ⟨hi, hle⟩
    have hlt : i.toInt.toNat < (Text.split same d.toList s.toList).length := by omega
    rw [Function.partAt_of_getElem? hi (List.getElem?_eq_getElem hlt)] at hsplit
    exact ⟨_, hsplit⟩
  · intro hi
    rw [Function.partAt_eq_undefined_iff.mpr (by omega)] at hsplit
    exact hsplit

/-- The number 1 is that of a part just if the parts go that far. -/
theorem PartsUpTo.one_le_iff {n : ℤ} (h : PartsUpTo s d switch n) :
    1 ≤ n ↔ ∃ part : String,
      Function.split.Returns (.string s :: .string d :: .int32 1 :: switch) (.string part) := by
  have hone : (Word.wrap .int32 1).toInt = 1 := by decide
  obtain ⟨hpart, hnone⟩ := h (.wrap .int32 1)
  rw [hone] at hpart hnone
  constructor
  · exact fun hle => hpart ⟨by decide, hle⟩
  · rintro ⟨part, hsplit⟩
    by_contra hlt
    cases hsplit.unique (hnone (.inr (not_le.mp hlt)))

/-- No part can be asked for by a number above the greatest one. -/
theorem PartsUpTo.min_greatest {n : ℤ} (h : PartsUpTo s d switch n) :
    PartsUpTo s d switch (min n IntType.int32.greatest) := by
  intro i
  have hle := i.fits.2
  obtain ⟨hpart, hnone⟩ := h i
  exact ⟨fun hi => hpart (by omega), fun hi => hnone (by omega)⟩

/-- With the switch on, `s` contains `d` just if STRCOUNT counts it at least once. SPLIT has the parts
between the occurrences by families of letters, if there is room for the pattern of `d`. Where
lowercase and families agree on the letters of both texts, these are the occurrences that are counted,
and `s` contains `d` just if there is a part by the number 1. -/
theorem Function.parts_of_ignored_case (hd : d ≠ "") (hon : Switch true on) :
    ∃ n : Word .int32,
      Function.strCount.Returns (.string s :: .string d :: on) (.integer .int32 n) ∧
      (Function.contains.Returns (.string s :: .string d :: on) (.boolean true) ↔ 1 ≤ n.toInt) ∧
      ((Pattern.ofFoldedText d.toList).fits = true →
        PartsUpTo s d on (Text.occurrences Text.sameFolded d.toList s.toList).length ∧
        (LowersAsFolded s.toList d.toList → PartsUpTo s d on n.toInt ∧
          (Function.contains.Returns (.string s :: .string d :: on) (.boolean true) ↔
            ∃ part : String, Function.split.Returns (.string s :: .string d :: .int32 1 :: on)
              (.string part)))) := by
  have hd' : d.toList ≠ [] := by rwa [ne_eq, String.toList_eq_nil_iff]
  have hlower : Call.searched true d.toList ≠ [] := Text.lower_ne_nil hd'
  have hcount := Function.returns_strCount hon hlower s
  have hcontains := Function.returns_contains_iff (s := s) (t := d) hon
  have hparts (hfits : (Pattern.ofFoldedText d.toList).fits = true) :=
    partsUpTo_occurrences (.folded hfits) hon hd' s
  have hgreatest : IntType.int32.greatest = 2147483647 := by decide
  obtain ⟨n, hvalue, hn⟩ := Value.exists_count (Text.occurrences (· == ·)
    (Call.searched true d.toList) (Call.searched true s.toList)).length
  rw [hvalue] at hcount
  rw [← Text.isSome_indexOf?_iff, Text.indexOf?_eq_head? hlower, List.isSome_head?, ne_eq,
    ← List.length_eq_zero_iff] at hcontains
  have hone : Function.contains.Returns (.string s :: .string d :: on) (.boolean true) ↔
      1 ≤ n.toInt := by
    rw [hcontains]
    omega
  refine ⟨n, hcount, hone, fun hfits => ⟨hparts hfits, fun hsame => ?_⟩⟩
  -- STRCOUNT stays at the greatest number, and so do the numbers of parts.
  have hcounted : PartsUpTo s d on n.toInt := by
    have hmin := (hparts hfits).min_greatest
    rw [hsame.occurrences_eq hd'] at hmin
    rw [hn]
    exact hmin
  exact ⟨hcounted, hone.trans hcounted.one_le_iff⟩

end

/-- ASCII letters. -/
theorem Function.parts_of_ignored_case_ascii :
    "i" ≠ "" ∧ Switch true [.boolean true] ∧ (Pattern.ofFoldedText "i".toList).fits = true ∧
      LowersAsFolded "aIAi".toList "i".toList ∧
      ∃ n : Word .int32, Function.strCount.Returns [.string "aIAi", .string "i", .boolean true]
          (.integer .int32 n) ∧
        PartsUpTo "aIAi" "i" [.boolean true] n.toInt ∧
        ∃ part : String, Function.split.Returns
          [.string "aIAi", .string "i", .int32 1, .boolean true] (.string part) := by
  have hd : "i" ≠ "" := by decide
  have hfits : (Pattern.ofFoldedText "i".toList).fits = true := Pattern.fits_ofFoldedText_i
  have hsame : LowersAsFolded "aIAi".toList "i".toList :=
    Text.lowersAsFolded_of_ascii (by decide) (by decide)
  have hcontains : Function.contains.Returns [.string "aIAi", .string "i", .boolean true]
      (.boolean true) :=
    (Function.returns_contains_iff (.boolean true)).mpr ⟨['a'], ['a', 'i'], by decide⟩
  obtain ⟨n, hcount, -, hparts⟩ :=
    Function.parts_of_ignored_case (s := "aIAi") hd (.boolean true)
  obtain ⟨-, hparts⟩ := hparts hfits
  obtain ⟨hcounted, hiff⟩ := hparts hsame
  exact ⟨hd, .boolean true, hfits, hsame, n, hcount, hcounted, hiff.mp hcontains⟩

/-- The capital I with a dot is an `i` with a dot in lowercase, but of another family than `i`. -/
theorem Function.contained_without_part :
    Function.contains.Returns [.string "İ", .string "i", .boolean true] (.boolean true) ∧
      Function.split.Returns [.string "İ", .string "i", .int32 1, .boolean true] .undefined := by
  have hfits : (Pattern.ofFoldedText "i".toList).fits = true := Pattern.fits_ofFoldedText_i
  have hnone : Text.occurrences Text.sameFolded "i".toList "İ".toList = [] := by decide +kernel
  have hparts := partsUpTo_occurrences (.folded hfits) (.boolean true) (List.cons_ne_nil _ _) "İ"
  rw [hnone] at hparts
  constructor
  · exact (Function.returns_contains_iff (.boolean true)).mpr ⟨[], ['\u0307'], by decide⟩
  · exact (hparts (.wrap .int32 1)).2 (.inr (by decide))

/-! ## Positions -/

section

variable {s t : String} {b : Bool} {switch on : List Value} {i : Word .int32}

/-- The position lies in the text. -/
def Within (s : String) (i : Word .int32) : Prop :=
  ∃ n : Word .int32, Function.len.Returns [.string s] (.integer .int32 n) ∧ i.toInt < n.toInt

/-- From the position on, `s` begins with `t`. -/
def BeginsAt (s t : String) (switch : List Value) (i : Word .int32) : Prop :=
  ∃ rest : String, Function.subStr.Returns [.string s, .integer .int32 i] (.string rest) ∧
    Function.startsWith.Returns (.string rest :: .string t :: switch) (.boolean true)

theorem within_of_lt (hlt : i.toInt.toNat < s.toList.length)
    (hi : i.toInt < IntType.int32.greatest) : Within s i := by
  obtain ⟨n, hvalue, hn⟩ := Value.exists_count s.toList.length
  refine ⟨n, hvalue ▸ Function.returns_len s, ?_⟩
  rw [hn]
  omega

theorem beginsAt_iff (h : Switch b switch) (hi : 0 ≤ i.toInt) :
    BeginsAt s t switch i ↔
      Call.searched b t.toList <+: Call.searched b (s.toList.drop i.toInt.toNat) := by
  have hrest := Function.returns_subStr s hi
  constructor
  · rintro ⟨rest, hsubStr, hstartsWith⟩
    obtain rfl := Value.string.inj (hrest.unique hsubStr)
    rw [Function.returns_startsWith_iff h, String.toList_ofList] at hstartsWith
    exact hstartsWith
  · intro hfront
    refine ⟨_, hrest, ?_⟩
    rw [Function.returns_startsWith_iff h, String.toList_ofList]
    exact hfront

/-- A position that a search returns with the switch on lies in LOWER(s), which goes on with LOWER(t)
there. The greatest number is left out, since it also stands for all greater ones. If `s` has no
capital I with a dot before the position, this lies in `s` itself, and `s` goes on with `t` there
without regard to case just if it does not open with a sigma that is a final one in `s` only. -/
theorem Function.position_of_ignored_case (ht : t ≠ "") (hon : Switch true on)
    (hi : Locates s t on i) (hgreatest : i.toInt < IntType.int32.greatest) :
    (∃ s' t' : String, Function.lower.Returns [.string s] (.string s') ∧
      Function.lower.Returns [.string t] (.string t') ∧ Within s' i ∧ BeginsAt s' t' [] i) ∧
    ('İ' ∉ s.toList.take i.toInt.toNat → Within s i ∧
      (BeginsAt s t on i ↔ ¬ OpensWithFinalSigma (s.toList.take i.toInt.toNat).reverse
        (s.toList.drop i.toInt.toNat) (Text.lower t.toList).length)) := by
  have ht' : t.toList ≠ [] := by rwa [ne_eq, String.toList_eq_nil_iff]
  have hlower : Text.lower t.toList ≠ [] := Text.lower_ne_nil ht'
  obtain ⟨p, hoccurs, hp⟩ : ∃ p : ℕ,
      Text.OccursAt (· == ·) (Text.lower t.toList) (Text.lower s.toList) p ∧
        min (p : ℤ) IntType.int32.greatest = i.toInt := hi.exists_occursAt hon hlower
  -- Below the greatest number a position is the one that was found.
  obtain rfl : i.toInt.toNat = p := by omega
  have hlt := hoccurs.lt hlower
  have hfront := Text.occursAt_iff.mp hoccurs
  refine ⟨⟨_, _, Function.returns_lower s, Function.returns_lower t, ?_, ?_⟩, fun hdotted => ?_⟩
  · refine within_of_lt ?_ hgreatest
    rwa [String.toList_ofList]
  · rw [beginsAt_iff .absent hi.1]
    show (String.ofList _).toList <+: (String.ofList _).toList.drop _
    rwa [String.toList_ofList, String.toList_ofList]
  · have hlength := Text.lt_length_of_lt_lower hdotted hlt
    rw [Text.drop_lower hdotted hlength.le] at hfront
    refine ⟨within_of_lt hlength hgreatest, ?_⟩
    rw [beginsAt_iff hon hi.1]
    exact Text.prefix_lower_iff hfront

end

/-- A position in front of a letter that becomes two. -/
theorem Function.position_of_ignored_case_before_dotted :
    "a" ≠ "" ∧ Switch true [.boolean true] ∧ Locates "XAİ" "a" [.boolean true] (.wrap .int32 1) ∧
      (Word.wrap .int32 1).toInt < IntType.int32.greatest ∧ Within "XAİ" (.wrap .int32 1) ∧
      BeginsAt "XAİ" "a" [.boolean true] (.wrap .int32 1) := by
  have ht : "a" ≠ "" := by decide
  have hlocates : Locates "XAİ" "a" [.boolean true] (.wrap .int32 1) :=
    ⟨by decide, .inl (Function.returns_indexOf (.boolean true) "XAİ" "a")⟩
  have hgreatest : (Word.wrap .int32 1).toInt < IntType.int32.greatest := by decide
  have hdotted : 'İ' ∉ "XAİ".toList.take (Word.wrap .int32 1).toInt.toNat := by decide
  have hsigma : 'Σ' ∉ "XAİ".toList.drop (Word.wrap .int32 1).toInt.toNat := by decide
  obtain ⟨-, hposition⟩ :=
    Function.position_of_ignored_case ht (.boolean true) hlocates hgreatest
  obtain ⟨hwithin, hbegins⟩ := hposition hdotted
  exact ⟨ht, .boolean true, hlocates, hgreatest, hwithin,
    hbegins.mpr (Text.not_opensWithFinalSigma hsigma)⟩

/-- Behind a letter that becomes two, the position in the lowercase is the length of the text. -/
theorem Function.position_behind_text :
    Function.indexOf.Returns [.string "İa", .string "a", .boolean true] (.int32 2) ∧
      Function.len.Returns [.string "İa"] (.int32 2) :=
  ⟨Function.returns_indexOf (.boolean true) "İa" "a", Function.returns_len "İa"⟩

end RowFilter
