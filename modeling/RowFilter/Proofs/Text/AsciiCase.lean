import RowFilter.Guid
import RowFilter.Text.Key
import RowFilter.Text.Position

/-!
ASCII letters in lowercase. The case of such a letter is invisible to most of what looks at
characters: to every class that has both or neither of its forms, to positions, and to the
lowercase of whole texts, under which names are looked up. No letter of all becomes a bracket there.
-/

namespace RowFilter.Text

/-! ## Letters -/

/-- A fact about capital letters can be tried out on the 26 of them. -/
theorem forall_isUpper {P : Char → Prop} (hP : ∀ n < 26, P (Char.ofNat (n + 65))) {c : Char}
    (h : c.isUpper = true) : P c := by
  obtain ⟨hlow, hhigh⟩ : 'A'.val ≤ c.val ∧ c.val ≤ 'Z'.val := of_decide_eq_true h
  rw [UInt32.le_iff_toNat_le] at hlow hhigh
  have hbound : c.toNat - 65 < 26 := by
    have hlow : 65 ≤ c.toNat := hlow
    have hhigh : c.toNat ≤ 90 := hhigh
    omega
  have hletter : c.toNat - 65 + 65 = c.toNat := Nat.sub_add_cancel hlow
  rw [← Char.ofNat_toNat c, ← hletter]
  exact hP _ hbound

theorem toLower_of_not_isUpper {c : Char} (h : c.isUpper = false) : c.toLower = c := by
  unfold Char.toLower
  exact dif_neg (of_decide_eq_false h)

/-- What is the same for both forms of each letter does not see the case of letters. -/
theorem apply_toLower {α : Type} (f : Char → α)
    (hf : ∀ n < 26, f (Char.ofNat (n + 65)).toLower = f (Char.ofNat (n + 65))) (c : Char) :
    f c.toLower = f c := by
  cases h : c.isUpper with
  | true => exact forall_isUpper (P := fun c => f c.toLower = f c) hf h
  | false => rw [toLower_of_not_isUpper h]

@[simp] theorem toLower_toLower (c : Char) : c.toLower.toLower = c.toLower :=
  apply_toLower Char.toLower (by decide) c

/-- A character that is no letter is only made from itself. -/
theorem toLower_eq_iff {c d : Char} (hd : d.isAlpha = false) : c.toLower = d ↔ c = d := by
  cases h : c.isUpper with
  | true =>
    have hletters : c.toLower.isAlpha = true ∧ c.isAlpha = true :=
      forall_isUpper (P := fun c => c.toLower.isAlpha = true ∧ c.isAlpha = true) (by decide) h
    constructor
    · rintro rfl
      exact absurd hletters.1 (Bool.eq_false_iff.mp hd)
    · rintro rfl
      exact absurd hletters.2 (Bool.eq_false_iff.mp hd)
  | false => rw [toLower_of_not_isUpper h]

theorem toLower_ne {c d : Char} (hd : d.isAlpha = false) (hc : c ≠ d) : c.toLower ≠ d :=
  fun h => hc ((toLower_eq_iff hd).mp h)

theorem isHexDigit_toLower (c : Char) : Guid.isHexDigit c.toLower = Guid.isHexDigit c :=
  apply_toLower Guid.isHexDigit (by decide) c

theorem isDigit_toLower (c : Char) : c.toLower.isDigit = c.isDigit :=
  apply_toLower Char.isDigit (by decide) c

theorem isBlank_toLower (c : Char) : isBlank c.toLower = isBlank c :=
  apply_toLower isBlank (by decide) c

/-! ## Texts -/

@[simp] theorem lowerAscii_nil : lowerAscii [] = [] := rfl

@[simp] theorem lowerAscii_cons (c : Char) (s : List Char) :
    lowerAscii (c :: s) = c.toLower :: lowerAscii s := rfl

@[simp] theorem lowerAscii_append (s t : List Char) :
    lowerAscii (s ++ t) = lowerAscii s ++ lowerAscii t :=
  List.map_append

@[simp] theorem length_lowerAscii (s : List Char) : (lowerAscii s).length = s.length :=
  List.length_map _

@[simp] theorem lowerAscii_lowerAscii (s : List Char) :
    lowerAscii (lowerAscii s) = lowerAscii s := by
  simp [lowerAscii]

theorem take_lowerAscii (n : Nat) (s : List Char) :
    (lowerAscii s).take n = lowerAscii (s.take n) :=
  List.map_take.symm

theorem drop_lowerAscii (n : Nat) (s : List Char) :
    (lowerAscii s).drop n = lowerAscii (s.drop n) :=
  List.map_drop.symm

section

variable {p : Char → Bool} (hp : ∀ c, p c.toLower = p c)

include hp

theorem takeWhile_lowerAscii (s : List Char) :
    (lowerAscii s).takeWhile p = lowerAscii (s.takeWhile p) := by
  rw [lowerAscii, List.takeWhile_map]
  exact congrArg (fun q => (s.takeWhile q).map Char.toLower) (funext hp)

theorem dropWhile_lowerAscii (s : List Char) :
    (lowerAscii s).dropWhile p = lowerAscii (s.dropWhile p) := by
  rw [lowerAscii, List.dropWhile_map]
  exact congrArg (fun q => (s.dropWhile q).map Char.toLower) (funext hp)

theorem all_lowerAscii (s : List Char) : (lowerAscii s).all p = s.all p := by
  rw [lowerAscii, List.all_map]
  exact congrArg s.all (funext hp)

theorem any_head?_lowerAscii (s : List Char) : (lowerAscii s).head?.any p = s.head?.any p := by
  cases s with
  | nil => rfl
  | cons c s => exact hp c

end

/-- A text that begins with a character that is no letter. -/
theorem lowerAscii_eq_cons {s t : List Char} {d : Char} (hd : d.isAlpha = false)
    (h : lowerAscii s = d :: t) : ∃ r, s = d :: r ∧ lowerAscii r = t := by
  obtain ⟨c, r, rfl, hc, hr⟩ := List.map_eq_cons_iff.mp h
  rw [(toLower_eq_iff hd).mp hc]
  exact ⟨r, rfl, hr⟩

theorem Position.advance_lowerAscii (p : Position) (s : List Char) :
    p.advance (lowerAscii s) = p.advance s := by
  induction s generalizing p with
  | nil => rfl
  | cons c s ih =>
    have hnext : p.next c.toLower = p.next c := by
      simp only [Position.next, toLower_eq_iff (d := '\n') rfl]
    rw [lowerAscii_cons, advance_cons, advance_cons, hnext, ih]

/-! ## Lowercase -/

theorem lowerChar_toLower (c : Char) : lowerChar c.toLower = lowerChar c :=
  apply_toLower lowerChar (by decide) c

/-- The ranges that a text goes on with, given the first end and the number being read: the reader of
sets without its store, so that the first ranges are there before the last ones are read. -/
def rangesFrom (first number : Option Nat) : List Char → List (Nat × Nat)
  | [] => (number.map fun last => (first.getD last, last)).toList
  | c :: s =>
    match CharSet.hexDigit? c with
    | some d => rangesFrom first (some (16 * number.getD 0 + d)) s
    | none =>
      if c = '-' then rangesFrom number none s
      else match number with
        | some last => (first.getD last, last) :: rangesFrom none none s
        | none => rangesFrom first none s

theorem ranges_foldl_read (s : List Char) (r : CharSet.Reader) :
    (s.foldl CharSet.Reader.read r).close.ranges =
      r.ranges ++ (rangesFrom r.first r.number s).toArray := by
  -- a range is there as soon as its last number ends, at a space or at the end of the text
  induction s generalizing r with
  | nil =>
    rw [List.foldl_nil, CharSet.Reader.close]
    cases hnumber : r.number with
    | none => simp [rangesFrom]
    | some last => simp [rangesFrom]
  | cons c s ih =>
    rw [List.foldl_cons, ih, CharSet.Reader.read]
    cases hdigit : CharSet.hexDigit? c with
    | some d => cases hnumber : r.number <;> simp [rangesFrom, hdigit]
    | none =>
      by_cases hc : c = '-'
      · subst hc
        cases hnumber : r.number <;> simp [rangesFrom, hdigit]
      · cases hnumber : r.number <;> simp [rangesFrom, hdigit, hc, hnumber, CharSet.Reader.close]

theorem ofText_ofList (l : List Char) :
    CharSet.ofText (String.ofList l) = ⟨(rangesFrom none none l).toArray⟩ := by
  rw [CharSet.ofText, String.toList_ofList, ranges_foldl_read, Array.empty_append]

section

set_option maxRecDepth 100000

/-- Letters have case. -/
theorem isCased_toLower (c : Char) : isCased c.toLower = isCased c := by
  have htable : casedTable = _ := ofText_ofList _
  unfold isCased
  rw [htable]
  exact apply_toLower _ (by decide +kernel) c

/-- Letters are not passed over. -/
theorem isCaseIgnorable_toLower (c : Char) : isCaseIgnorable c.toLower = isCaseIgnorable c := by
  have htable : caseIgnorableTable = _ := ofText_ofList _
  unfold isCaseIgnorable
  rw [htable]
  exact apply_toLower _ (by decide +kernel) c

end

theorem meetsCased_lowerAscii (s : List Char) : meetsCased (lowerAscii s) = meetsCased s := by
  rw [meetsCased, meetsCased, dropWhile_lowerAscii isCaseIgnorable_toLower]
  cases s.dropWhile isCaseIgnorable with
  | nil => rfl
  | cons c t => exact isCased_toLower c

theorem lowerAfter_lowerAscii (before s : List Char) :
    lowerAfter (lowerAscii before) (lowerAscii s) = lowerAfter before s := by
  induction s generalizing before with
  | nil => rfl
  | cons c s ih =>
    rw [lowerAscii_cons, lowerAfter, lowerAfter, meetsCased_lowerAscii, meetsCased_lowerAscii,
      lowerChar_toLower, ← lowerAscii_cons, ih]
    simp only [toLower_eq_iff (d := 'Σ') rfl]

theorem lower_lowerAscii (s : List Char) : lower (lowerAscii s) = lower s :=
  lowerAfter_lowerAscii [] s

/-- A name in lowercase, as far as its ASCII letters are concerned. -/
def lowerName (name : String) : String := String.ofList (lowerAscii name.toList)

theorem key_lowerName (name : String) : key (lowerName name) = key name := by
  rw [key, lowerName, String.toList_ofList, lower_lowerAscii, key]

theorem sameName_lowerName (a b : String) : sameName a (lowerName b) = sameName a b := by
  rw [sameName, key_lowerName, sameName]

/-! ## The closing bracket -/

theorem bracket_ne_shifted {r : CaseRun} (hr : r ∈ lowerRuns) {n : Nat} (hn : r.covers n = true) :
    ']' ≠ shifted r n := by
  have hfirst : (93 : Int) < r.first + r.shift :=
    (by decide +kernel : ∀ r ∈ lowerRuns, (93 : Int) < r.first + r.shift) r hr
  have hle : r.first ≤ n := by
    simp only [CaseRun.covers, Bool.and_eq_true, decide_eq_true_eq] at hn
    exact hn.1.1
  intro h
  have hnat : 93 = (shifted r n).toNat := congrArg Char.toNat h
  by_cases hvalid : (n + r.shift).toNat.isValidChar
  · rw [shifted, Char.ofNat, dif_pos hvalid] at hnat
    have hvalue : 93 = (n + r.shift).toNat := hnat
    omega
  · rw [shifted, Char.ofNat, dif_neg hvalid] at hnat
    cases hnat

/-- No other letter has the bracket in its lowercase. -/
theorem bracket_mem_lowerChar {c : Char} : ']' ∈ lowerChar c ↔ c = ']' := by
  constructor
  · intro h
    unfold lowerChar at h
    split at h
    · exact (toLower_eq_iff rfl).mp (List.mem_singleton.mp h).symm
    · split at h
      · exact absurd h (by decide)
      · split at h
        · next r hr =>
          have hcovers := List.find?_some (p := fun r : CaseRun => r.covers c.toNat) hr
          exact absurd (List.mem_singleton.mp h)
            (bracket_ne_shifted (List.mem_of_find?_eq_some hr) hcovers)
        · exact (List.mem_singleton.mp h).symm
  · rintro rfl
    decide

theorem bracket_mem_lowerAfter (before s : List Char) : ']' ∈ lowerAfter before s ↔ ']' ∈ s := by
  induction s generalizing before with
  | nil => rfl
  | cons c s ih =>
    rw [lowerAfter, List.mem_append, ih, List.mem_cons]
    refine or_congr ?_ Iff.rfl
    split
    · next hc =>
      subst hc
      split <;> decide
    · rw [bracket_mem_lowerChar, eq_comm]

theorem bracket_mem_iff_of_sameName {a b : String} (h : sameName a b = true) :
    ']' ∈ a.toList ↔ ']' ∈ b.toList := by
  have hkey : lower a.toList = lower b.toList := sameName_iff.mp h
  rw [← bracket_mem_lowerAfter [] a.toList, ← bracket_mem_lowerAfter [] b.toList]
  exact Iff.of_eq (congrArg (']' ∈ ·) hkey)

end RowFilter.Text
