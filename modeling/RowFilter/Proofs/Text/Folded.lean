import Mathlib.Data.List.Basic
import RowFilter.Proofs.Text.Lowercase
import RowFilter.Proofs.Text.Occurrences
import RowFilter.Text.CaseFold

/-!
Two ways of passing over the case of letters: comparing letters by the families they fold to, and
comparing texts in lowercase. They agree on two texts if they do so letter by letter
(`LowersAsFolded`), and then what occurs in the one way occurs in the other at the same positions.
-/

namespace RowFilter.Text

/-- The letters of `s` and of `d` are of one family just if they are the same letter in lowercase, as
they stand in their texts. No letter becomes two there. -/
structure LowersAsFolded (s d : List Char) : Prop where
  notMem_text : 'İ' ∉ s
  notMem_needle : 'İ' ∉ d
  same : ∀ p ∈ s.zip (lower s), ∀ q ∈ d.zip (lower d), sameFolded q.1 p.1 = (q.2 == p.2)

theorem startsWith_map {same same' : Char → Char → Bool} {ps qs : List (Char × Char)}
    (h : ∀ p ∈ ps, ∀ q ∈ qs, same q.1 p.1 = same' q.2 p.2) :
    startsWith same (qs.map Prod.fst) (ps.map Prod.fst) =
      startsWith same' (qs.map Prod.snd) (ps.map Prod.snd) := by
  induction qs generalizing ps with
  | nil => cases ps <;> rfl
  | cons q qs ih =>
    cases ps with
    | nil => rfl
    | cons p ps =>
      have hrest := ih fun p' hp' q' hq' =>
        h p' (List.mem_cons_of_mem p hp') q' (List.mem_cons_of_mem q hq')
      rw [List.map_cons, List.map_cons, List.map_cons, List.map_cons, startsWith, startsWith, hrest,
        h p List.mem_cons_self q List.mem_cons_self]

theorem map_zip_lower {s : List Char} (h : 'İ' ∉ s) :
    (s.zip (lower s)).map Prod.fst = s ∧ (s.zip (lower s)).map Prod.snd = lower s := by
  have hlength := length_lower_of_notMem h
  exact ⟨List.map_fst_zip hlength.ge, List.map_snd_zip hlength.le⟩

namespace LowersAsFolded

variable {s d : List Char}

theorem occursAt_iff (h : LowersAsFolded s d) (i : ℕ) :
    OccursAt sameFolded d s i ↔ OccursAt (· == ·) (lower d) (lower s) i := by
  obtain ⟨hs, hs'⟩ := map_zip_lower h.notMem_text
  obtain ⟨hd, hd'⟩ := map_zip_lower h.notMem_needle
  have hsame : ∀ p ∈ (s.zip (lower s)).drop i, ∀ q ∈ d.zip (lower d),
      sameFolded q.1 p.1 = (q.2 == p.2) := fun p hp => h.same p (List.mem_of_mem_drop hp)
  have hmap := startsWith_map hsame
  rw [List.map_drop, List.map_drop, hs, hs', hd, hd'] at hmap
  rw [OccursAt, OccursAt, hmap]

theorem occurrences_eq (h : LowersAsFolded s d) (hd : d ≠ []) :
    occurrences sameFolded d s = occurrences (· == ·) (lower d) (lower s) := by
  have hfolded := leftmost_occurrences sameFolded hd s
  have hlower := leftmost_occurrences (· == ·) (lower_ne_nil hd) (lower s)
  have hoccurs : OccursAt sameFolded d s = OccursAt (· == ·) (lower d) (lower s) :=
    funext fun i => propext (h.occursAt_iff i)
  rw [hoccurs, ← length_lower_of_notMem h.notMem_needle] at hfolded
  exact hfolded.unique hlower

end LowersAsFolded

/-! ## Letters for which there is no difference -/

/-- The lowercase of the letter is the letter that stands for its family, wherever it stands. -/
def FoldsToLower (c : Char) : Prop := c ≠ 'Σ' ∧ lowerChar c = [foldChar c]

theorem foldsToLower_of_ascii {c : Char} (h : c.toNat < 0x80) : FoldsToLower c := by
  have hall : ∀ n < 0x80, foldChar (Char.ofNat n) = (Char.ofNat n).toLower := by decide +kernel
  have hc := hall c.toNat h
  rw [Char.ofNat_toNat] at hc
  refine ⟨?_, by rw [lowerChar_of_ascii h, hc]⟩
  rintro rfl
  exact absurd h (by decide)

theorem FoldsToLower.ne_dotted {c : Char} (h : FoldsToLower c) : c ≠ 'İ' := by
  rintro rfl
  have hlength := length_lowerChar 'İ'
  rw [h.2] at hlength
  cases hlength

theorem lower_of_foldsToLower {s : List Char} (h : ∀ c ∈ s, FoldsToLower c) :
    lower s = s.map foldChar := by
  rw [lower]
  generalize ([] : List Char) = before
  induction s generalizing before with
  | nil => rfl
  | cons c s ih =>
    obtain ⟨hc, hs⟩ := List.forall_mem_cons.mp h
    rw [lowerAfter, if_neg hc.1, hc.2, ih hs, List.singleton_append, List.map_cons]

theorem lowersAsFolded_of_foldsToLower {s d : List Char} (hs : ∀ c ∈ s, FoldsToLower c)
    (hd : ∀ c ∈ d, FoldsToLower c) : LowersAsFolded s d where
  notMem_text h := (hs _ h).ne_dotted rfl
  notMem_needle h := (hd _ h).ne_dotted rfl
  same p hp q hq := by
    have hpair {t : List Char} {r : Char × Char} (hr : r ∈ t.zip (t.map foldChar)) :
        r.2 = foldChar r.1 := by
      rw [List.zip_map_right, List.mem_map] at hr
      obtain ⟨r, hr, rfl⟩ := hr
      have hsame : r.1 = r.2 := by
        rw [List.zip_eq_zipWith, List.zipWith_self, List.mem_map] at hr
        obtain ⟨c, -, rfl⟩ := hr
        rfl
      show foldChar r.2 = foldChar r.1
      rw [hsame]
    rw [lower_of_foldsToLower hs] at hp
    rw [lower_of_foldsToLower hd] at hq
    rw [hpair hp, hpair hq, sameFolded]
    by_cases heq : q.1 = p.1
    · simp [heq]
    · simp [heq]

theorem lowersAsFolded_of_ascii {s d : List Char} (hs : s.all (·.toNat < 0x80) = true)
    (hd : d.all (·.toNat < 0x80) = true) : LowersAsFolded s d := by
  simp only [List.all_eq_true, decide_eq_true_eq] at hs hd
  exact lowersAsFolded_of_foldsToLower (fun c hc => foldsToLower_of_ascii (hs c hc))
    fun c hc => foldsToLower_of_ascii (hd c hc)

end RowFilter.Text
