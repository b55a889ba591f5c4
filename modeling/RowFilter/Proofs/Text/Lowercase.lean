import Mathlib.Data.List.TakeWhile
import Mathlib.Order.Basic
import RowFilter.Proofs.Text.AsciiCase

/-!
Lowercase of a text where it stands. Every letter is mapped by itself but the capital sigma, whose
form hangs on what stands before and behind it. So the lowercase of texts in a row is that of each
where it stands (`lowerBetween_append`), and this differs from the lowercase of the text alone in
sigmas only (`lowerBetween_eq_iff`). One letter, the capital I with a dot, becomes two.
-/

namespace RowFilter.Text

theorem length_lowerChar (c : Char) : (lowerChar c).length = if c = 'İ' then 2 else 1 := by
  unfold lowerChar
  by_cases hascii : c.toNat < 0x80
  · have hc : c ≠ 'İ' := by
      rintro rfl
      exact absurd hascii (by decide)
    rw [if_pos hascii, if_neg hc, List.length_singleton]
  · rw [if_neg hascii]
    by_cases hc : c = 'İ'
    · rw [if_pos hc, if_pos hc]
      rfl
    · rw [if_neg hc, if_neg hc]
      split <;> rfl

theorem lowerChar_ne_nil (c : Char) : lowerChar c ≠ [] := by
  have hlength := length_lowerChar c
  intro hnil
  rw [hnil, List.length_nil] at hlength
  split at hlength <;> cases hlength

/-! ## Texts between texts -/

/-- A capital sigma between these texts is written as a final one. The text before it is given in
reverse, here and below. -/
def isFinalSigma (before after : List Char) : Bool :=
  meetsCased before && !meetsCased after

def lowerSigma (before after : List Char) : Char :=
  if isFinalSigma before after then 'ς' else 'σ'

theorem lowerSigma_eq_iff {before after before' after' : List Char} :
    lowerSigma before after = lowerSigma before' after' ↔
      isFinalSigma before after = isFinalSigma before' after' := by
  unfold lowerSigma
  cases isFinalSigma before after <;> cases isFinalSigma before' after' <;> decide

/-- The lowercase of one letter between these texts. -/
def lowerCharBetween (before after : List Char) (c : Char) : List Char :=
  if c = 'Σ' then [lowerSigma before after] else lowerChar c

theorem length_lowerCharBetween (before after : List Char) (c : Char) :
    (lowerCharBetween before after c).length = (lowerChar c).length := by
  unfold lowerCharBetween
  split
  · next hc => rw [hc]; rfl
  · rfl

/-- The lowercase of a text that stands between `before` and `after`. -/
def lowerBetween (before after : List Char) : List Char → List Char
  | [] => []
  | c :: rest =>
    lowerCharBetween before (rest ++ after) c ++ lowerBetween (c :: before) after rest

theorem lowerBetween_nil_right (before s : List Char) :
    lowerBetween before [] s = lowerAfter before s := by
  induction s generalizing before with
  | nil => rfl
  | cons c s ih =>
    rw [lowerBetween, lowerAfter, ih, List.append_nil, lowerCharBetween, lowerSigma, isFinalSigma,
      apply_ite (fun d => [d])]

theorem lower_eq_lowerBetween (s : List Char) : lower s = lowerBetween [] [] s :=
  (lowerBetween_nil_right [] s).symm

/-- The lowercase of two texts in a row, each where it stands. -/
theorem lowerBetween_append (before after s t : List Char) :
    lowerBetween before after (s ++ t) =
      lowerBetween before (t ++ after) s ++ lowerBetween (s.reverse ++ before) after t := by
  induction s generalizing before with
  | nil => rfl
  | cons c s ih =>
    rw [List.cons_append, lowerBetween, lowerBetween, ih, List.append_assoc, List.append_assoc,
      List.reverse_cons, List.append_assoc, List.singleton_append]

theorem length_lowerBetween (before after s : List Char) :
    (lowerBetween before after s).length = (foldCase s).length := by
  induction s generalizing before with
  | nil => rfl
  | cons c s ih =>
    rw [lowerBetween, foldCase_cons, List.length_append, List.length_append, ih,
      length_lowerCharBetween]

theorem length_foldCase {s : List Char} (h : 'İ' ∉ s) : (foldCase s).length = s.length := by
  induction s with
  | nil => rfl
  | cons c s ih =>
    rw [List.mem_cons, not_or] at h
    rw [foldCase_cons, List.length_append, ih h.2, length_lowerChar, if_neg (Ne.symm h.1),
      List.length_cons, Nat.add_comm]

theorem length_le_length_foldCase (s : List Char) : s.length ≤ (foldCase s).length := by
  induction s with
  | nil => exact Nat.le_refl 0
  | cons c s ih =>
    have hpos := List.length_pos_iff.mpr (lowerChar_ne_nil c)
    rw [foldCase_cons, List.length_append, List.length_cons]
    omega

theorem length_lower (s : List Char) : (lower s).length = (foldCase s).length := by
  rw [lower_eq_lowerBetween, length_lowerBetween]

theorem length_lower_of_notMem {s : List Char} (h : 'İ' ∉ s) : (lower s).length = s.length := by
  rw [length_lower, length_foldCase h]

theorem lower_ne_nil {s : List Char} (h : s ≠ []) : lower s ≠ [] := by
  have hle := length_le_length_foldCase s
  rw [← length_lower] at hle
  rw [← List.length_pos_iff] at h ⊢
  exact Nat.lt_of_lt_of_le h hle

/-- Every capital sigma of the text has the same form between the one pair of texts as between the
other. -/
def SameSigmas (before after before' after' s : List Char) : Prop :=
  ∀ u v, s = u ++ 'Σ' :: v →
    isFinalSigma (u.reverse ++ before) (v ++ after) =
      isFinalSigma (u.reverse ++ before') (v ++ after')

theorem sameSigmas_cons {before after before' after' s : List Char} {c : Char} :
    SameSigmas before after before' after' (c :: s) ↔
      (c = 'Σ' → isFinalSigma before (s ++ after) = isFinalSigma before' (s ++ after')) ∧
        SameSigmas (c :: before) after (c :: before') after' s := by
  constructor
  · intro h
    refine ⟨?_, fun u v hs => ?_⟩
    · rintro rfl
      exact h [] s rfl
    · have hu := h (c :: u) v (by rw [hs, List.cons_append])
      rwa [List.reverse_cons, List.append_assoc, List.append_assoc] at hu
  · rintro ⟨hhead, htail⟩ u v hs
    cases u with
    | nil =>
      obtain ⟨rfl, rfl⟩ := List.cons.inj hs
      exact hhead rfl
    | cons a u =>
      obtain ⟨rfl, rfl⟩ := List.cons.inj hs
      rw [List.reverse_cons, List.append_assoc, List.append_assoc]
      exact htail u v rfl

/-- It is only in its sigmas that the lowercase of a text depends on where it stands. -/
theorem lowerBetween_eq_iff {before after before' after' s : List Char} :
    lowerBetween before after s = lowerBetween before' after' s ↔
      SameSigmas before after before' after' s := by
  induction s generalizing before before' with
  | nil => exact ⟨fun _ u v hs => by simp at hs, fun _ => rfl⟩
  | cons c s ih =>
    have hlength : (lowerCharBetween before (s ++ after) c).length =
        (lowerCharBetween before' (s ++ after') c).length := by
      rw [length_lowerCharBetween, length_lowerCharBetween]
    rw [lowerBetween, lowerBetween, sameSigmas_cons, ← ih]
    constructor
    · intro h
      obtain ⟨hhead, htail⟩ := List.append_inj h hlength
      refine ⟨?_, htail⟩
      rintro rfl
      exact lowerSigma_eq_iff.mp (List.head_eq_of_cons_eq hhead)
    · rintro ⟨hhead, htail⟩
      rw [htail, lowerCharBetween, lowerCharBetween]
      by_cases hc : c = 'Σ'
      · rw [if_pos hc, if_pos hc, lowerSigma_eq_iff.mpr (hhead hc)]
      · rw [if_neg hc, if_neg hc]

/-! ## Parts of a text -/

/-- A text in front of another is found in front of the lowercase if its sigmas keep their form. -/
theorem lower_prefix_iff {t v : List Char} :
    lower t <+: lower (t ++ v) ↔ SameSigmas [] v [] [] t := by
  rw [← lowerBetween_eq_iff, lower_eq_lowerBetween, lower_eq_lowerBetween, lowerBetween_append,
    List.append_nil]
  have hlength : (lowerBetween [] [] t).length = (lowerBetween [] v t).length := by
    rw [length_lowerBetween, length_lowerBetween]
  constructor
  · intro h
    have hfront := List.prefix_of_prefix_length_le h (List.prefix_append _ _) hlength.le
    exact (hfront.eq_of_length hlength).symm
  · intro h
    rw [h]
    exact List.prefix_append _ _

/-- A text at the end of another is found at the end of the lowercase if its sigmas keep their
form. -/
theorem lower_suffix_iff {u t : List Char} :
    lower t <:+ lower (u ++ t) ↔ SameSigmas u.reverse [] [] [] t := by
  rw [← lowerBetween_eq_iff, lower_eq_lowerBetween, lower_eq_lowerBetween, lowerBetween_append,
    List.append_nil, List.append_nil]
  have hlength : (lowerBetween [] [] t).length = (lowerBetween u.reverse [] t).length := by
    rw [length_lowerBetween, length_lowerBetween]
  constructor
  · intro h
    have hback := List.suffix_of_suffix_length_le h (List.suffix_append _ _) hlength.le
    exact (hback.eq_of_length hlength).symm
  · intro h
    rw [h]
    exact List.suffix_append _ _

/-- A text inside another is found in the lowercase if its sigmas keep their form. -/
theorem lower_infix {u t v : List Char} (h : SameSigmas u.reverse v [] [] t) :
    lower t <:+: lower (u ++ t ++ v) := by
  rw [lower_eq_lowerBetween, lower_eq_lowerBetween, lowerBetween_append, lowerBetween_append,
    List.append_nil, List.append_nil, ← lowerBetween_eq_iff.mpr h]
  exact List.infix_append _ _ _

/-! ## The rest of a text -/

theorem lt_length_of_lt_lower {s : List Char} {p : ℕ} (h : 'İ' ∉ s.take p)
    (hlt : p < (lower s).length) : p < s.length := by
  by_contra hge
  rw [List.take_of_length_le (not_lt.mp hge)] at h
  rw [length_lower_of_notMem h] at hlt
  exact hge hlt

/-- If no letter before it becomes two, the rest of a text has its lowercase at the same position. -/
theorem drop_lower {s : List Char} {p : ℕ} (h : 'İ' ∉ s.take p) (hp : p ≤ s.length) :
    (lower s).drop p = lowerAfter (s.take p).reverse (s.drop p) := by
  have hlength : (lowerBetween [] (s.drop p ++ []) (s.take p)).length = p := by
    rw [length_lowerBetween, length_foldCase h, List.length_take_of_le hp]
  calc (lower s).drop p
      = (lowerBetween [] [] (s.take p ++ s.drop p)).drop p := by
        rw [List.take_append_drop, lower_eq_lowerBetween]
    _ = lowerBetween ((s.take p).reverse ++ []) [] (s.drop p) := by
        rw [lowerBetween_append, List.drop_left' hlength]
    _ = lowerAfter (s.take p).reverse (s.drop p) := by
        rw [List.append_nil, lowerBetween_nil_right]

/-- Behind marks that are passed over, the text goes on with a capital sigma among its first `n`
letters, which is written as a final one where the text stands. At the beginning of a text it is
not. -/
def OpensWithFinalSigma (before s : List Char) (n : ℕ) : Prop :=
  ∃ marks rest, s = marks ++ 'Σ' :: rest ∧ (∀ c ∈ marks, isCaseIgnorable c = true) ∧
    marks.length < n ∧ isFinalSigma (marks.reverse ++ before) rest = true

section

set_option maxRecDepth 100000

theorem isCaseIgnorable_sigma : isCaseIgnorable 'Σ' = false := by
  have htable : caseIgnorableTable = _ := ofText_ofList _
  rw [isCaseIgnorable, htable]
  decide +kernel

theorem isCaseIgnorable_dotted : isCaseIgnorable 'İ' = false := by
  have htable : caseIgnorableTable = _ := ofText_ofList _
  rw [isCaseIgnorable, htable]
  decide +kernel

end

/-- A text consists of marks that are passed over, or has such marks in front of another letter. -/
theorem exists_marks (s : List Char) :
    (∀ c ∈ s, isCaseIgnorable c = true) ∨
      ∃ marks c rest, s = marks ++ c :: rest ∧ (∀ m ∈ marks, isCaseIgnorable m = true) ∧
        isCaseIgnorable c = false := by
  induction s with
  | nil => exact .inl fun _ hc => absurd hc List.not_mem_nil
  | cons c s ih =>
    cases hc : isCaseIgnorable c with
    | false => exact .inr ⟨[], c, s, rfl, fun _ hm => absurd hm List.not_mem_nil, hc⟩
    | true =>
      rcases ih with hall | ⟨marks, d, rest, rfl, hmarks, hd⟩
      · exact .inl (List.forall_mem_cons.mpr ⟨hc, hall⟩)
      · exact .inr ⟨c :: marks, d, rest, rfl, List.forall_mem_cons.mpr ⟨hc, hmarks⟩, hd⟩

theorem meetsCased_eq (s : List Char) :
    meetsCased s = (s.find? fun c => !isCaseIgnorable c).any isCased := by
  rw [meetsCased, List.find?_not_eq_head?_dropWhile]
  cases s.dropWhile isCaseIgnorable with
  | nil => rfl
  | cons c t => exact Option.any_some.symm

theorem meetsCased_cons {c : Char} (hc : isCaseIgnorable c = false) (s : List Char) :
    meetsCased (c :: s) = isCased c := by
  rw [meetsCased_eq, List.find?_cons_of_pos (by rw [hc]; rfl), Option.any_some]

theorem not_isFinalSigma_of_marks {marks : List Char} (rest : List Char)
    (h : ∀ c ∈ marks, isCaseIgnorable c = true) : isFinalSigma marks.reverse rest = false := by
  have hmarks : marks.reverse.find? (fun c => !isCaseIgnorable c) = none := by
    rw [List.find?_eq_none]
    intro c hc
    simp [h c (List.mem_reverse.mp hc)]
  rw [isFinalSigma, meetsCased_eq, hmarks, Option.any_none, Bool.false_and]

/-- What stands before a letter that is not passed over does not matter behind it. -/
theorem isFinalSigma_behind {c : Char} (hc : isCaseIgnorable c = false)
    (between before before' after : List Char) :
    isFinalSigma (between ++ c :: before) after = isFinalSigma (between ++ c :: before') after := by
  have hcased (t : List Char) : meetsCased (between ++ c :: t) =
      ((between.find? fun c => !isCaseIgnorable c).or (some c)).any isCased := by
    rw [meetsCased_eq, List.find?_append, List.find?_cons_of_pos (by rw [hc]; rfl)]
  rw [isFinalSigma, isFinalSigma, hcased, hcased]

theorem sameSigmas_of_notMem {before after before' after' s : List Char} (h : 'Σ' ∉ s) :
    SameSigmas before after before' after' s := by
  rintro u v rfl
  exact absurd (List.mem_append_right u List.mem_cons_self) h

theorem notMem_of_marks {marks : List Char} {c : Char}
    (h : ∀ m ∈ marks, isCaseIgnorable m = true) (hc : isCaseIgnorable c = false) : c ∉ marks :=
  fun hm => absurd (h c hm) (Bool.eq_false_iff.mp hc)

/-- Marks are told from the first letter behind them. -/
theorem opensWithFinalSigma_iff {before marks rest : List Char} {c : Char} {n : ℕ}
    (hmarks : ∀ m ∈ marks, isCaseIgnorable m = true) (hc : isCaseIgnorable c = false) :
    OpensWithFinalSigma before (marks ++ c :: rest) n ↔
      c = 'Σ' ∧ marks.length < n ∧ isFinalSigma (marks.reverse ++ before) rest = true := by
  constructor
  · rintro ⟨marks', rest', hs, hmarks', hlength, hfinal⟩
    have hcut := congrArg (List.dropWhile isCaseIgnorable) hs
    rw [List.dropWhile_append_of_pos hmarks, List.dropWhile_append_of_pos hmarks',
      List.dropWhile_cons_of_neg (Bool.eq_false_iff.mp hc),
      List.dropWhile_cons_of_neg (Bool.eq_false_iff.mp isCaseIgnorable_sigma)] at hcut
    obtain ⟨rfl, rfl⟩ := List.cons.inj hcut
    obtain rfl := List.append_cancel_right hs
    exact ⟨rfl, hlength, hfinal⟩
  · rintro ⟨rfl, hlength, hfinal⟩
    exact ⟨marks, rest, rfl, hmarks, hlength, hfinal⟩

theorem prefix_iff_length_le {α : Type} {l m r r' : List α} {a b : α} (hab : a ≠ b)
    (h : l <+: m ++ a :: r) : l <+: m ++ b :: r' ↔ l.length ≤ m.length := by
  have hle := h.length_le
  constructor
  · intro h'
    by_contra hlt
    have hlt : m.length < l.length := Nat.lt_of_not_le hlt
    have ha := h.getElem hlt
    have hb := h'.getElem hlt
    simp only [List.getElem_append_right le_rfl, Nat.sub_self, List.getElem_cons_zero] at ha hb
    exact hab (ha.symm.trans hb)
  · intro hle
    exact (List.prefix_of_prefix_length_le h (List.prefix_append _ _) hle).trans
      (List.prefix_append _ _)

theorem not_opensWithFinalSigma {before s : List Char} {n : ℕ} (h : 'Σ' ∉ s) :
    ¬ OpensWithFinalSigma before s n := by
  rintro ⟨marks, rest, rfl, -⟩
  exact h (List.mem_append_right marks List.mem_cons_self)

/-- What a text begins with in lowercase where it stands, it also begins with by itself, unless it
loses the form of a sigma that it opens with. -/
theorem prefix_lower_iff {before s found : List Char} (h : found <+: lowerAfter before s) :
    found <+: lower s ↔ ¬ OpensWithFinalSigma before s found.length := by
  -- What stands before matters up to the first letter that is no mark, and for that letter only if
  -- it is a sigma.
  rcases exists_marks s with hall | ⟨marks, c, rest, rfl, hmarks, hc⟩
  · have hsigma := notMem_of_marks hall isCaseIgnorable_sigma
    have hsame : lower s = lowerAfter before s := by
      rw [lower_eq_lowerBetween, ← lowerBetween_nil_right,
        lowerBetween_eq_iff.mpr (sameSigmas_of_notMem hsigma)]
    exact iff_of_true (hsame ▸ h) (not_opensWithFinalSigma hsigma)
  · have hsame : lowerBetween before (c :: rest) marks = lowerBetween [] (c :: rest) marks :=
      lowerBetween_eq_iff.mpr (sameSigmas_of_notMem (notMem_of_marks hmarks isCaseIgnorable_sigma))
    have hlength : (lowerBetween [] (c :: rest) marks).length = marks.length := by
      rw [length_lowerBetween,
        length_foldCase (notMem_of_marks hmarks isCaseIgnorable_dotted)]
    have hbehind : SameSigmas (c :: (marks.reverse ++ before)) [] (c :: marks.reverse) [] rest :=
      fun u v _ => isFinalSigma_behind hc _ _ _ _
    rw [opensWithFinalSigma_iff hmarks hc]
    rw [← lowerBetween_nil_right, lowerBetween_append, List.append_nil, hsame, lowerBetween,
      List.append_nil] at h
    rw [lower_eq_lowerBetween, lowerBetween_append, List.append_nil, List.append_nil, lowerBetween,
      List.append_nil, ← lowerBetween_eq_iff.mpr hbehind]
    by_cases hfinal : c = 'Σ' ∧ isFinalSigma (marks.reverse ++ before) rest = true
    · -- a final sigma where it stands, and not by itself: what was found must end before it
      obtain ⟨rfl, hfinal⟩ := hfinal
      rw [lowerCharBetween, if_pos rfl, lowerSigma, if_pos hfinal, List.singleton_append] at h
      rw [lowerCharBetween, if_pos rfl, lowerSigma,
        if_neg (Bool.eq_false_iff.mp (not_isFinalSigma_of_marks rest hmarks)),
        List.singleton_append, prefix_iff_length_le (by decide) h, hlength]
      simp [hfinal]
    · have hchar : lowerCharBetween marks.reverse rest c =
          lowerCharBetween (marks.reverse ++ before) rest c := by
        rw [lowerCharBetween, lowerCharBetween]
        by_cases hsigma : c = 'Σ'
        · have hboth : isFinalSigma marks.reverse rest =
              isFinalSigma (marks.reverse ++ before) rest := by
            rw [not_isFinalSigma_of_marks rest hmarks]
            exact (Bool.eq_false_iff.mpr fun h => hfinal ⟨hsigma, h⟩).symm
          rw [lowerSigma_eq_iff.mpr hboth]
        · rw [if_neg hsigma, if_neg hsigma]
      rw [hchar]
      exact iff_of_true h fun hopens => hfinal ⟨hopens.1, hopens.2.2⟩

end RowFilter.Text
