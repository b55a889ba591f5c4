import Mathlib.Data.List.Forall2
import RowFilter.Text.Like

/-!
LIKE means what it says: the text can be cut into blocks, one for each character of the pattern,
each block being what its character stands for.

The search tries one cut at a time and forgets every run but the last. What it can still find is
`Search.Open`; each round keeps it. The step that needs an argument is a run that replaces an older
one: what the older run could still reach, the new one can reach too (`Retry.run_of_older`).
-/

namespace RowFilter.Text

variable {α : Type} {R : α → List Char → Prop}

/-- The text can be cut into blocks, one for each element of `ps`, that stand to them in `R`. -/
def Cut (R : α → List Char → Prop) (ps : List α) (text : List Char) : Prop :=
  ∃ blocks : List (List Char), blocks.flatten = text ∧ List.Forall₂ R ps blocks

/-- What a character of a pattern stands for. -/
def StandsFor : Char → List Char → Prop
  | '%', block => block ≠ []
  | '_', block => block.length = 1
  | c, block => block = [c]

@[simp] theorem cut_nil {text : List Char} : Cut R [] text ↔ text = [] := by
  constructor
  · rintro ⟨blocks, rfl, hblocks⟩
    cases hblocks
    rfl
  · rintro rfl
    exact ⟨[], rfl, .nil⟩

theorem cut_cons {p : α} {ps : List α} {text : List Char} :
    Cut R (p :: ps) text ↔ ∃ block rest, text = block ++ rest ∧ R p block ∧ Cut R ps rest := by
  constructor
  · rintro ⟨blocks, rfl, hblocks⟩
    cases hblocks with
    | cons hblock hmore => exact ⟨_, _, rfl, hblock, _, rfl, hmore⟩
  · rintro ⟨block, rest, rfl, hblock, blocks, rfl, hblocks⟩
    exact ⟨block :: blocks, rfl, .cons hblock hblocks⟩

theorem cut_append {ps qs : List α} {text : List Char} :
    Cut R (ps ++ qs) text ↔ ∃ front rest, text = front ++ rest ∧ Cut R ps front ∧ Cut R qs rest := by
  induction ps generalizing text with
  | nil => simp
  | cons p ps ih =>
    rw [List.cons_append, cut_cons]
    constructor
    · rintro ⟨block, more, rfl, hblock, hmore⟩
      obtain ⟨front, rest, rfl, hfront, hrest⟩ := ih.mp hmore
      exact ⟨block ++ front, rest, by simp, cut_cons.mpr ⟨block, front, rfl, hblock, hfront⟩, hrest⟩
    · rintro ⟨_, rest, rfl, hfront, hrest⟩
      obtain ⟨block, front, rfl, hblock, hfront⟩ := cut_cons.mp hfront
      exact ⟨block, front ++ rest, by simp, hblock, ih.mpr ⟨front, rest, rfl, hfront, hrest⟩⟩

/-! ## The expanded pattern -/

/-- What an element of an expanded pattern stands for. -/
def Wildcard.StandsFor : Wildcard → List Char → Prop
  | char c, block => block = [c]
  | one, block => block.length = 1
  | run, _ => True

abbrev Fits (pattern : List Wildcard) (text : List Char) : Prop :=
  Cut Wildcard.StandsFor pattern text

theorem fits_cons {w : Wildcard} {pattern : List Wildcard} {c : Char} {text : List Char}
    (hrun : w ≠ .run) : Fits (w :: pattern) (c :: text) ↔ w.takes c ∧ Fits pattern text := by
  rw [Fits, cut_cons]
  constructor
  · rintro ⟨block, rest, htext, hblock, hrest⟩
    cases w with
    | char d =>
      obtain rfl : block = [d] := hblock
      obtain ⟨rfl, rfl⟩ := List.cons.inj htext
      exact ⟨beq_self_eq_true c, hrest⟩
    | one =>
      obtain ⟨d, rfl⟩ := List.length_eq_one_iff.mp hblock
      obtain ⟨rfl, rfl⟩ := List.cons.inj htext
      exact ⟨rfl, hrest⟩
    | run => exact absurd rfl hrun
  · rintro ⟨htakes, hrest⟩
    refine ⟨[c], text, rfl, ?_, hrest⟩
    cases w with
    | char d =>
      have hd : d = c := eq_of_beq htakes
      show [c] = [d]
      rw [hd]
    | one => rfl
    | run => exact absurd rfl hrun

theorem fits_run {pattern : List Wildcard} {text : List Char} :
    Fits (.run :: pattern) text ↔ ∃ rest, rest <:+ text ∧ Fits pattern rest := by
  rw [Fits, cut_cons]
  constructor
  · rintro ⟨block, rest, rfl, -, hrest⟩
    exact ⟨rest, List.suffix_append block rest, hrest⟩
  · rintro ⟨rest, ⟨block, rfl⟩, hrest⟩
    exact ⟨block, rest, rfl, trivial, hrest⟩

theorem not_fits_cons_nil {w : Wildcard} {pattern : List Wildcard} (hrun : w ≠ .run) :
    ¬ Fits (w :: pattern) [] := by
  rw [Fits, cut_cons]
  rintro ⟨block, rest, htext, hblock, -⟩
  obtain ⟨rfl, rfl⟩ := List.append_eq_nil_iff.mp htext.symm
  cases w with
  | char d => exact absurd hblock (List.cons_ne_nil d []).symm
  | one => exact absurd hblock (by simp [Wildcard.StandsFor])
  | run => exact hrun rfl

theorem fits_nil {pattern : List Wildcard} : Fits pattern [] ↔ ∀ w ∈ pattern, w = .run := by
  induction pattern with
  | nil => simp [Fits]
  | cons w pattern ih =>
    by_cases hrun : w = .run
    · subst hrun
      rw [fits_run, List.forall_mem_cons, ← ih]
      simp
    · simp [not_fits_cons_nil hrun, hrun]

/-- Without a run each element takes one character. -/
theorem length_of_fits {pattern : List Wildcard} {text : List Char} (hrun : .run ∉ pattern)
    (h : Fits pattern text) : text.length = pattern.length := by
  induction pattern generalizing text with
  | nil => rw [cut_nil.mp h]; rfl
  | cons w pattern ih =>
    rw [List.mem_cons, not_or] at hrun
    cases text with
    | nil => exact absurd h (not_fits_cons_nil (Ne.symm hrun.1))
    | cons c text =>
      rw [fits_cons (Ne.symm hrun.1)] at h
      rw [List.length_cons, List.length_cons, ih hrun.2 h.2]

theorem fits_ofChar {c : Char} {block : List Char} :
    Fits (Wildcard.ofChar c) block ↔ StandsFor c block := by
  fun_cases Wildcard.ofChar c with
  | case1 =>
    cases block with
    | nil => simp [not_fits_cons_nil, StandsFor]
    | cons d block =>
      have hrest : Fits [.run] block := fits_run.mpr ⟨[], List.nil_suffix, cut_nil.mpr rfl⟩
      simp [fits_cons, Wildcard.takes, hrest, StandsFor]
  | case2 =>
    cases block with
    | nil => simp [not_fits_cons_nil, StandsFor]
    | cons d block => simp [fits_cons, Wildcard.takes, Fits, StandsFor]
  | case3 hrun hone =>
    cases block with
    | nil => simp [not_fits_cons_nil, StandsFor]
    | cons d block =>
      simp only [fits_cons, Wildcard.takes, Fits, StandsFor, cut_nil, beq_iff_eq, ne_eq,
        reduceCtorEq, not_false_eq_true, List.cons.injEq]
      rw [eq_comm]

theorem fits_expanded {pattern text : List Char} :
    Fits (pattern.flatMap Wildcard.ofChar) text ↔ Cut StandsFor pattern text := by
  induction pattern generalizing text with
  | nil => simp [Fits]
  | cons c pattern ih =>
    rw [List.flatMap_cons, Fits, cut_append, cut_cons]
    simp only [fits_ofChar, ih]

/-! ## The search -/

namespace Retry

variable {text : List Char} {pattern : List Wildcard}

/-- The last run taking more than it has, the pattern after it fits the text after it. -/
def Open (r : Retry text pattern) : Prop :=
  Fits (.run :: r.lastPattern) r.lastText.tail

/-- Since the run each element took one character, so a fit that gives the run more ends in a fit
of what is left of the pattern, to an end of what is left of the text. -/
theorem Open.fits_suffix {r : Retry text pattern} (h : r.Open) : Fits (.run :: pattern) text := by
  obtain ⟨u, q, htext, hpattern, hlength, hrun⟩ := r.taken
  rw [Open, fits_run] at h
  rcases h with ⟨rest, hrest, hfits⟩
  rw [hpattern, Fits, cut_append] at hfits
  rcases hfits with ⟨front, back, rfl, hfront, hback⟩
  have hfront' : front.length = u.length := (length_of_fits hrun hfront).trans hlength.symm
  have hsuffix : front ++ back <:+ u ++ text := htext ▸ hrest.trans (List.tail_suffix _)
  have hle := hsuffix.length_le
  rw [List.length_append, List.length_append] at hle
  refine fits_run.mpr ⟨back, ?_, hback⟩
  apply List.suffix_of_suffix_length_le ((List.suffix_append front back).trans hsuffix)
    (List.suffix_append u text)
  omega

end Retry

namespace Search

/-- The search can still end well: as it stands, or after giving the last run more. -/
def Open (f : Search) : Prop :=
  Fits f.pattern f.text ∨ ∃ r ∈ f.retry, r.Open

theorem open_here {text : List Char} {pattern : List Wildcard} :
    Open ⟨text, pattern, some (.here text pattern)⟩ ↔ Fits (.run :: pattern) text := by
  simp only [Open, Option.mem_some_iff, exists_eq_left', Retry.Open, Retry.here]
  cases text with
  | nil => simp [fits_run]
  | cons c text =>
    simp only [fits_run, List.tail_cons, List.suffix_cons_iff, or_and_right, exists_or,
      exists_eq_left]

theorem open_again {text : List Char} {pattern : List Wildcard}
    {retry : Option (Retry text pattern)} {g : Search} (h : again retry = .inl g) :
    (∃ r ∈ retry, r.Open) ↔ g.Open := by
  cases retry with
  | none => simp [again] at h
  | some r =>
    obtain rfl := Sum.inl.inj h
    rw [open_here]
    simp [Retry.Open]

theorem not_open_again {text : List Char} {pattern : List Wildcard}
    {retry : Option (Retry text pattern)} {answer : Bool} (h : again retry = .inr answer) :
    (∃ r ∈ retry, r.Open) ↔ answer := by
  cases retry with
  | none =>
    obtain rfl := Sum.inr.inj h
    simp
  | some r => simp [again] at h

theorem open_of_not_fits {text : List Char} {pattern : List Wildcard}
    {retry : Option (Retry text pattern)} (h : ¬ Fits pattern text) :
    Open ⟨text, pattern, retry⟩ ↔ ∃ r ∈ retry, r.Open := by
  simp only [Open, h, false_or]

theorem open_step {f g : Search} (h : f.step = .inl g) : f.Open ↔ g.Open := by
  revert h
  fun_cases step f with
  | case1 pattern retry => intro h; simp at h
  | case2 c text pattern retry =>
    rintro ⟨⟩
    rw [open_here]
    constructor
    · rintro (hfits | ⟨r, -, hopen⟩)
      · exact hfits
      -- The older run is forgotten here: this one reaches what that one could still reach.
      · have hsuffix := hopen.fits_suffix
        rw [fits_run] at hsuffix ⊢
        rcases hsuffix with ⟨rest, hrest, hfits⟩
        rcases fits_run.mp hfits with ⟨back, hback, hfits⟩
        exact ⟨back, hback.trans hrest, hfits⟩
    · exact Or.inl
  | case3 c text w pattern retry hrun h =>
    rintro ⟨⟩
    have hne : w ≠ .run := by rintro rfl; exact hrun retry rfl .rfl
    cases retry with
    | none => simp [Open, fits_cons hne, h]
    | some r => simp [Open, fits_cons hne, h, Retry.Open, Retry.pass]
  | case4 c text w pattern retry hrun h =>
    intro hagain
    have hne : w ≠ .run := by rintro rfl; exact hrun retry rfl .rfl
    rw [open_of_not_fits (fun hfits => h ((fits_cons hne).mp hfits).1), open_again hagain]
  | case5 c text retry =>
    intro hagain
    rw [open_of_not_fits (by simp [Fits]), open_again hagain]

theorem open_answer {f : Search} {answer : Bool} (h : f.step = .inr answer) :
    f.Open ↔ answer := by
  revert h
  fun_cases step f with
  | case1 pattern retry =>
    rintro ⟨⟩
    rw [List.all_eq_true]
    simp only [decide_eq_true_eq, ← fits_nil]
    constructor
    · rintro (hfits | ⟨r, -, hopen⟩)
      · exact hfits
      · rcases fits_run.mp hopen.fits_suffix with ⟨rest, hrest, hfits⟩
        rwa [List.suffix_nil.mp hrest] at hfits
    · exact Or.inl
  | case2 c text pattern retry => intro h; simp at h
  | case3 c text w pattern retry hrun h => intro h; simp at h
  | case4 c text w pattern retry hrun h =>
    intro hagain
    have hne : w ≠ .run := by rintro rfl; exact hrun retry rfl .rfl
    rw [open_of_not_fits (fun hfits => h ((fits_cons hne).mp hfits).1), not_open_again hagain]
  | case5 c text retry =>
    intro hagain
    rw [open_of_not_fits (by simp [Fits]), not_open_again hagain]

/-- The search comes to an answer in finitely many rounds. -/
inductive Ends : Search → Bool → Prop
  | answer {f : Search} {answer : Bool} (h : f.step = .inr answer) : Ends f answer
  | round {f g : Search} {answer : Bool} (h : f.step = .inl g) (hends : Ends g answer) :
    Ends f answer

theorem ends_run (f : Search) : f.Ends f.run := by
  fun_induction run f with
  | case1 f g h ih => exact .round h ih
  | case2 f answer h => exact .answer h

theorem Ends.open_iff {f : Search} {answer : Bool} (h : f.Ends answer) : f.Open ↔ answer := by
  induction h with
  | answer h => exact open_answer h
  | round h _ ih => exact (open_step h).trans ih

end Search

/-- The search ends, and its answer says whether the text can be cut into blocks that the
characters of the pattern stand for. -/
theorem like_iff_cut (text pattern : List Char) (exact : Bool) :
    (Search.start text pattern exact).Ends (like text pattern exact) ∧
      (like text pattern exact = true ↔
        Cut StandsFor (likeFold exact pattern) (likeFold exact text)) := by
  have hends : (Search.start text pattern exact).Ends (like text pattern exact) := Search.ends_run _
  refine ⟨hends, ?_⟩
  rw [← hends.open_iff, ← fits_expanded]
  show Fits _ _ ∨ _ ↔ Fits _ _
  constructor
  · rintro (hfits | ⟨r, hr, -⟩)
    · exact hfits
    · exact absurd hr (Option.not_mem_none r)
  · exact Or.inl

end RowFilter.Text
