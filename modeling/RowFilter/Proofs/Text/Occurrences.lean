import Mathlib.Data.List.Basic
import Mathlib.Order.Bounds.Basic
import RowFilter.Text.Search

/-!
The searches find what occurs: the first and the last position are the least and the greatest one at
which a text occurs, and the occurrences from left to right are each the next one that does not
overlap the one before (`Leftmost`). A text cut at its occurrences has one part more than there are
occurrences; joining the parts gives the text back, or the text with each occurrence replaced.
-/

namespace RowFilter.Text

variable {same : Char → Char → Bool} {d s : List Char}

/-- The text `d` occurs in `s` at the position `i`. -/
def OccursAt (same : Char → Char → Bool) (d s : List Char) (i : ℕ) : Prop :=
  startsWith same d (s.drop i) = true

theorem startsWith_iff_prefix : startsWith (· == ·) d s = true ↔ d <+: s := by
  rw [startsWith_eq_isPrefixOf, List.isPrefixOf_iff_prefix]

theorem endsWith_iff_suffix : endsWith (· == ·) d s = true ↔ d <:+ s := by
  rw [endsWith, startsWith_iff_prefix, List.reverse_prefix]

theorem startsWith_nil_right : startsWith same d [] = true ↔ d = [] := by
  cases d <;> simp [startsWith]

theorem length_le_of_startsWith (h : startsWith same d s = true) : d.length ≤ s.length := by
  fun_induction startsWith same d s with
  | case1 s => exact Nat.zero_le _
  | case2 => cases h
  | case3 a d b s ih =>
    rw [Bool.and_eq_true] at h
    exact Nat.succ_le_succ (ih h.2)

theorem occursAt_iff {i : ℕ} : OccursAt (· == ·) d s i ↔ d <+: s.drop i := startsWith_iff_prefix

/-- What occurs stands within the text. -/
theorem OccursAt.add_length_le {i : ℕ} (hd : d ≠ []) (h : OccursAt same d s i) :
    i + d.length ≤ s.length := by
  have hle := length_le_of_startsWith h
  have hpos := List.length_pos_iff.mpr hd
  rw [List.length_drop] at hle
  omega

theorem OccursAt.lt {i : ℕ} (hd : d ≠ []) (h : OccursAt same d s i) : i < s.length := by
  have hle := h.add_length_le hd
  have hpos := List.length_pos_iff.mpr hd
  omega

/-! ## The first and the last one -/

theorem indexOf?_cases (same : Char → Char → Bool) (d s : List Char) :
    (indexOf? same d s = none ∧ ∀ i, ¬ OccursAt same d s i) ∨
      ∃ i, indexOf? same d s = some i ∧ IsLeast {j | OccursAt same d s j} i := by
  induction s with
  | nil =>
    rw [indexOf?]
    by_cases hd : d = []
    · subst hd
      exact .inr ⟨0, rfl, rfl, fun _ _ => Nat.zero_le _⟩
    · refine .inl ⟨if_neg (by rwa [List.isEmpty_iff]), fun i hi => hd ?_⟩
      rwa [OccursAt, List.drop_nil, startsWith_nil_right] at hi
  | cons c s ih =>
    rw [indexOf?]
    by_cases hfirst : startsWith same d (c :: s) = true
    · exact .inr ⟨0, if_pos hfirst, hfirst, fun _ _ => Nat.zero_le _⟩
    · rw [if_neg hfirst]
      rcases ih with ⟨hnone, hnot⟩ | ⟨i, hsome, hi, hleast⟩
      · refine .inl ⟨by rw [hnone]; rfl, fun i => ?_⟩
        cases i with
        | zero => exact hfirst
        | succ i => exact hnot i
      · refine .inr ⟨i + 1, by rw [hsome]; rfl, hi, fun j hj => ?_⟩
        cases j with
        | zero => exact absurd hj hfirst
        | succ j => exact Nat.succ_le_succ (hleast hj)

theorem indexOf?_eq_some_iff {i : ℕ} :
    indexOf? same d s = some i ↔ IsLeast {j | OccursAt same d s j} i := by
  rcases indexOf?_cases same d s with ⟨hnone, hnot⟩ | ⟨j, hsome, hj⟩
  · rw [hnone]
    exact ⟨nofun, fun h => absurd h.1 (hnot i)⟩
  · rw [hsome, Option.some.injEq]
    exact ⟨fun h => h ▸ hj, fun h => hj.unique h⟩

theorem indexOf?_eq_none_iff : indexOf? same d s = none ↔ ∀ i, ¬ OccursAt same d s i := by
  rcases indexOf?_cases same d s with ⟨hnone, hnot⟩ | ⟨j, hsome, hj⟩
  · exact ⟨fun _ => hnot, fun _ => hnone⟩
  · rw [hsome]
    exact ⟨nofun, fun h => absurd hj.1 (h j)⟩

theorem isSome_indexOf?_iff : (indexOf? (· == ·) d s).isSome = true ↔ d <:+: s := by
  rw [Option.isSome_iff_ne_none, ne_eq, indexOf?_eq_none_iff, not_forall_not]
  simp only [occursAt_iff]
  constructor
  · rintro ⟨i, hi⟩
    exact hi.isInfix.trans (List.drop_suffix i s).isInfix
  · rintro ⟨u, v, rfl⟩
    refine ⟨u.length, v, ?_⟩
    rw [List.append_assoc, List.drop_left]

/-- A non-empty text has a last occurrence if it occurs at all. -/
theorem lastIndexOf?_cases (same : Char → Char → Bool) {d : List Char} (hd : d ≠ [])
    (s : List Char) :
    (lastIndexOf? same d s = none ∧ ∀ i, ¬ OccursAt same d s i) ∨
      ∃ i, lastIndexOf? same d s = some i ∧ IsGreatest {j | OccursAt same d s j} i := by
  induction s with
  | nil =>
    refine .inl ⟨if_neg (by rwa [List.isEmpty_iff]), fun i hi => hd ?_⟩
    rwa [OccursAt, List.drop_nil, startsWith_nil_right] at hi
  | cons c s ih =>
    rw [lastIndexOf?]
    rcases ih with ⟨hnone, hnot⟩ | ⟨i, hsome, hi, hgreatest⟩
    · rw [hnone]
      by_cases hfirst : startsWith same d (c :: s) = true
      · refine .inr ⟨0, if_pos hfirst, hfirst, fun j hj => ?_⟩
        cases j with
        | zero => exact le_rfl
        | succ j => exact absurd hj (hnot j)
      · refine .inl ⟨if_neg hfirst, fun i => ?_⟩
        cases i with
        | zero => exact hfirst
        | succ i => exact hnot i
    · rw [hsome]
      refine .inr ⟨i + 1, rfl, hi, fun j hj => ?_⟩
      cases j with
      | zero => exact Nat.zero_le _
      | succ j => exact Nat.succ_le_succ (hgreatest hj)

theorem lastIndexOf?_eq_some_iff {i : ℕ} (hd : d ≠ []) :
    lastIndexOf? same d s = some i ↔ IsGreatest {j | OccursAt same d s j} i := by
  rcases lastIndexOf?_cases same hd s with ⟨hnone, hnot⟩ | ⟨j, hsome, hj⟩
  · rw [hnone]
    exact ⟨nofun, fun h => absurd h.1 (hnot i)⟩
  · rw [hsome, Option.some.injEq]
    exact ⟨fun h => h ▸ hj, fun h => hj.unique h⟩

theorem lastIndexOf?_eq_none_iff (hd : d ≠ []) :
    lastIndexOf? same d s = none ↔ ∀ i, ¬ OccursAt same d s i := by
  rcases lastIndexOf?_cases same hd s with ⟨hnone, hnot⟩ | ⟨j, hsome, hj⟩
  · exact ⟨fun _ => hnot, fun _ => hnone⟩
  · rw [hsome]
    exact ⟨nofun, fun h => absurd hj.1 (h j)⟩

/-! ## From left to right -/

/-- Positions with the property `P`, from `start` on and in order: each is the least one that is at
least `width` behind the one before, and none is left out at the end. -/
inductive Leftmost (P : ℕ → Prop) (width : ℕ) : ℕ → List ℕ → Prop where
  | none {start : ℕ} (h : ∀ i, start ≤ i → ¬ P i) : Leftmost P width start []
  | next {start i : ℕ} {rest : List ℕ} (h : IsLeast {j | start ≤ j ∧ P j} i)
      (hrest : Leftmost P width (i + width) rest) : Leftmost P width start (i :: rest)

namespace Leftmost

variable {P : ℕ → Prop} {width start : ℕ} {positions : List ℕ}

theorem of_succ (h : Leftmost P width (start + 1) positions) (hstart : ¬ P start) :
    Leftmost P width start positions := by
  have hne {i : ℕ} (hle : start ≤ i) (hi : P i) : start + 1 ≤ i :=
    Nat.lt_of_le_of_ne hle fun heq => hstart (heq ▸ hi)
  cases h with
  | none h => exact .none fun i hle hi => h i (hne hle hi) hi
  | next h hrest =>
    exact .next ⟨⟨(Nat.le_succ _).trans h.1.1, h.1.2⟩, fun j hj => h.2 ⟨hne hj.1 hj.2, hj.2⟩⟩ hrest

/-- There is only one way to go through the positions. -/
theorem unique {positions' : List ℕ} (h : Leftmost P width start positions)
    (h' : Leftmost P width start positions') : positions = positions' := by
  induction h generalizing positions' with
  | none h =>
    cases h' with
    | none => rfl
    | next h' => exact absurd h'.1.2 (h _ h'.1.1)
  | next h _ ih =>
    cases h' with
    | none h' => exact absurd h.1.2 (h' _ h.1.1)
    | next h' hrest =>
      obtain rfl := h.unique h'
      rw [ih hrest]

theorem holds (h : Leftmost P width start positions) : ∀ i ∈ positions, P i := by
  induction h with
  | none => exact fun _ hi => absurd hi List.not_mem_nil
  | next h _ ih => exact List.forall_mem_cons.mpr ⟨h.1.2, ih⟩

theorem length_le {n : ℕ} (h : Leftmost P width start positions) (hwidth : 0 < width)
    (hP : ∀ i, P i → i < n) : positions.length ≤ n - start := by
  induction h with
  | none => exact Nat.zero_le _
  | next h _ ih =>
    have hle := h.1.1
    have hlt := hP _ h.1.2
    rw [List.length_cons]
    omega

theorem eq_nil_iff (h : Leftmost P width 0 positions) : positions = [] ↔ ∀ i, ¬ P i := by
  cases h with
  | none h => exact ⟨fun _ i => h i (Nat.zero_le i), fun _ => rfl⟩
  | next h => exact ⟨nofun, fun hnot => absurd h.1.2 (hnot _)⟩

theorem head?_eq_some_iff {i : ℕ} (h : Leftmost P width 0 positions) :
    positions.head? = some i ↔ IsLeast {j | P j} i := by
  cases h with
  | none h => exact ⟨nofun, fun hi => absurd hi.1 (h i (Nat.zero_le i))⟩
  | next h =>
    simp only [Nat.zero_le, true_and] at h
    rw [List.head?_cons, Option.some.injEq]
    exact ⟨fun heq => heq ▸ h, fun hi => h.unique hi⟩

end Leftmost

/-- The text looked through is what stands behind `front`, and the next `skip` characters of it
belong to an occurrence that was already counted. -/
theorem leftmost_occurrencesFrom (hd : d ≠ []) (front s : List Char) (skip : ℕ) :
    Leftmost (OccursAt same d (front ++ s)) d.length (front.length + skip)
      (occurrencesFrom same d front.length skip s) := by
  -- `front` takes up what was looked through, so positions are those of the whole text
  induction s generalizing front skip with
  | nil =>
    refine .none fun i hle hi => ?_
    have hlt := hi.lt hd
    rw [List.append_nil] at hlt
    omega
  | cons c s ih =>
    have hnext := ih (front ++ [c])
    simp only [List.append_assoc, List.singleton_append, List.length_append,
      List.length_singleton] at hnext
    have hhere : OccursAt same d (front ++ c :: s) front.length ↔
        startsWith same d (c :: s) = true := by
      rw [OccursAt, List.drop_left]
    rw [occurrencesFrom]
    by_cases hskip : skip = 0
    · subst hskip
      rw [if_neg (not_not_intro rfl), Nat.add_zero]
      by_cases hoccurs : startsWith same d (c :: s) = true
      · rw [if_pos hoccurs]
        -- the rest of this occurrence is passed over, so the next one is looked for behind it
        have hpos := List.length_pos_iff.mpr hd
        have hlength : front.length + 1 + (d.length - 1) = front.length + d.length := by omega
        exact .next ⟨⟨le_rfl, hhere.mpr hoccurs⟩, fun _ hj => hj.1⟩ (hlength ▸ hnext _)
      · rw [if_neg hoccurs]
        exact (hnext 0).of_succ fun h => hoccurs (hhere.mp h)
    · rw [if_pos hskip]
      have hlength : front.length + 1 + (skip - 1) = front.length + skip := by omega
      exact hlength ▸ hnext (skip - 1)

theorem leftmost_occurrences (same : Char → Char → Bool) (hd : d ≠ []) (s : List Char) :
    Leftmost (OccursAt same d s) d.length 0 (occurrences same d s) :=
  leftmost_occurrencesFrom hd [] s 0

theorem indexOf?_eq_head? (hd : d ≠ []) :
    indexOf? same d s = (occurrences same d s).head? := by
  refine Option.ext fun i => ?_
  rw [indexOf?_eq_some_iff, (leftmost_occurrences same hd s).head?_eq_some_iff]

/-! ## Parts -/

/-- There is one part more than there are occurrences. -/
theorem length_splitFrom (part : List Char) (position skip : ℕ) :
    (splitFrom same d part skip s).length =
      (occurrencesFrom same d position skip s).length + 1 := by
  induction s generalizing part position skip with
  | nil => rfl
  | cons c s ih =>
    rw [splitFrom, occurrencesFrom]
    by_cases hskip : skip ≠ 0
    · rw [if_pos hskip, if_pos hskip]
      exact ih _ _ _
    · rw [if_neg hskip, if_neg hskip]
      by_cases hoccurs : startsWith same d (c :: s) = true
      · rw [if_pos hoccurs, if_pos hoccurs, List.length_cons, List.length_cons, ih]
      · rw [if_neg hoccurs, if_neg hoccurs]
        exact ih _ _ _

theorem length_split (same : Char → Char → Bool) (d s : List Char) :
    (split same d s).length = (occurrences same d s).length + 1 :=
  length_splitFrom [] 0 0

theorem splitFrom_ne_nil (part : List Char) (skip : ℕ) : splitFrom same d part skip s ≠ [] := by
  rw [← List.length_pos_iff, length_splitFrom part 0 skip]
  exact Nat.succ_pos _

theorem intercalate_splitFrom (hd : d ≠ []) (part : List Char) (skip : ℕ) :
    d.intercalate (splitFrom (· == ·) d part skip s) = part.reverse ++ s.drop skip := by
  induction s generalizing part skip with
  | nil => simp [splitFrom]
  | cons c s ih =>
    rw [splitFrom]
    by_cases hskip : skip = 0
    · subst hskip
      rw [if_neg (not_not_intro rfl)]
      by_cases hoccurs : startsWith (· == ·) d (c :: s) = true
      · rw [if_pos hoccurs, List.intercalate_cons_of_ne_nil (splitFrom_ne_nil _ _), ih]
        -- the occurrence is put back in front of what was passed over as its rest
        obtain ⟨rest, hrest⟩ := startsWith_iff_prefix.mp hoccurs
        cases d with
        | nil => exact absurd rfl hd
        | cons a d =>
          obtain ⟨rfl, rfl⟩ := List.cons.inj hrest
          simp
      · rw [if_neg hoccurs, ih]
        simp
    · rw [if_pos hskip, ih]
      obtain ⟨skip, rfl⟩ := Nat.exists_eq_succ_of_ne_zero hskip
      rfl

/-- The parts with the delimiter between them are the text. -/
theorem intercalate_split (hd : d ≠ []) (s : List Char) :
    d.intercalate (split (· == ·) d s) = s :=
  intercalate_splitFrom hd [] 0

theorem intercalate_splitFrom_eq_replaceFrom (r part : List Char) (skip : ℕ) :
    r.intercalate (splitFrom same d part skip s) = part.reverse ++ replaceFrom same d r skip s := by
  induction s generalizing part skip with
  | nil => simp [splitFrom, replaceFrom]
  | cons c s ih =>
    rw [splitFrom, replaceFrom]
    by_cases hskip : skip ≠ 0
    · rw [if_pos hskip, if_pos hskip, ih]
    · rw [if_neg hskip, if_neg hskip]
      by_cases hoccurs : startsWith same d (c :: s) = true
      · rw [if_pos hoccurs, if_pos hoccurs,
          List.intercalate_cons_of_ne_nil (splitFrom_ne_nil _ _), ih]
        simp
      · rw [if_neg hoccurs, if_neg hoccurs, ih]
        simp

/-- The parts with another text between them are the text with each occurrence replaced. -/
theorem intercalate_split_eq_replace (same : Char → Char → Bool) (d r s : List Char) :
    r.intercalate (split same d s) = replace same d r s :=
  intercalate_splitFrom_eq_replaceFrom r [] 0

end RowFilter.Text
