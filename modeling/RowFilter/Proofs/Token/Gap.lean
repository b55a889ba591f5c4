import Mathlib.Data.List.TakeWhile
import RowFilter.Proofs.Token.Stream

/-!
What gaps consist of: blanks, block comments, and comments that go to the end of their line. What
is passed over in front of a token is such a gap, and such a gap is passed over whatever stands
behind it. At the end of a text the last comment may lack its line break.
-/

namespace RowFilter.Token

/-- Blanks and comments, each of which is closed. -/
inductive IsGap : List Char → Prop where
  | nil : IsGap []
  | blank {c : Char} {g : List Char} (hc : Text.isBlank c = true) (hg : IsGap g) : IsGap (c :: g)
  | block {body g : List Char} (hbody : ¬ ['*', '/'] <:+: body) (hg : IsGap g) :
      IsGap ('/' :: '*' :: (body ++ '*' :: '/' :: g))
  | line {body g : List Char} (hbody : '\n' ∉ body) (hg : IsGap g) :
      IsGap ('-' :: '-' :: (body ++ '\n' :: g))

/-- A gap at the end of a text. -/
inductive IsLastGap : List Char → Prop where
  | closed {g : List Char} (hg : IsGap g) : IsLastGap g
  | line {g body : List Char} (hg : IsGap g) (hbody : '\n' ∉ body) :
      IsLastGap (g ++ '-' :: '-' :: body)

theorem isGap_of_break {g : List Char} (h : IsGap ('\n' :: g)) : IsGap g := by
  cases h with
  | blank _ hg => exact hg

theorem isLastGap_of_break {g : List Char} (h : IsLastGap ('\n' :: g)) : IsLastGap g := by
  generalize hs : '\n' :: g = s at h
  cases h with
  | closed hg =>
    subst hs
    exact .closed (isGap_of_break hg)
  | @line front body hg hbody =>
    -- the line break stands in front of the comment
    cases front with
    | nil => cases hs
    | cons c front =>
      obtain ⟨rfl, rfl⟩ := List.cons_eq_cons.mp hs
      exact .line (isGap_of_break hg) hbody

/-! ## Adding up lengths -/

theorem shift_zero (x : Except Nat Nat) : gapLength.shift 0 x = x := by
  cases x with
  | ok n => exact congrArg Except.ok (Nat.zero_add n)
  | error n => exact congrArg Except.error (Nat.zero_add n)

theorem shift_shift (m n : Nat) (x : Except Nat Nat) :
    gapLength.shift m (gapLength.shift n x) = gapLength.shift (m + n) x := by
  cases x with
  | ok k => exact congrArg Except.ok (Nat.add_assoc m n k).symm
  | error k => exact congrArg Except.error (Nat.add_assoc m n k).symm

theorem shift_eq_ok {m n : Nat} {x : Except Nat Nat} (h : gapLength.shift m x = .ok n) :
    ∃ k, x = .ok k ∧ n = m + k := by
  cases x with
  | ok k => exact ⟨k, rfl, (Except.ok.inj h).symm⟩
  | error k => cases h

/-! ## Comments -/

/-- A block comment ends with the first closing mark. -/
theorem blockLength?_append {body : List Char} (h : ¬ ['*', '/'] <:+: body) (s : List Char) :
    blockLength? (body ++ '*' :: '/' :: s) = some (body.length + 2) := by
  induction body with
  | nil => rfl
  | cons c body ih =>
    have hfirst : ∀ tail, c = '*' → body ++ '*' :: '/' :: s = '/' :: tail → False := by
      rintro tail rfl htail
      cases body with
      | nil => cases htail
      | cons d body =>
        obtain ⟨rfl, -⟩ := List.cons_eq_cons.mp htail
        exact h ⟨[], body, rfl⟩
    have hbody : ¬ ['*', '/'] <:+: body :=
      fun hmem => h (hmem.trans (List.suffix_cons c body).isInfix)
    rw [List.cons_append, blockLength?.eq_2 _ _ hfirst, ih hbody]
    rfl

theorem exists_of_blockLength? {s : List Char} {n : Nat} (h : blockLength? s = some n) :
    ∃ body rest, s = body ++ '*' :: '/' :: rest ∧ n = body.length + 2 ∧
      ¬ ['*', '/'] <:+: body := by
  induction s using blockLength?.induct generalizing n with
  | case1 tail =>
    cases h
    exact ⟨[], tail, rfl, rfl, by decide⟩
  | case2 c s hother ih =>
    rw [blockLength?.eq_2 _ _ hother] at h
    obtain ⟨m, hm, rfl⟩ := Option.map_eq_some_iff.mp h
    obtain ⟨body, rest, rfl, rfl, hbody⟩ := ih hm
    refine ⟨c :: body, rest, rfl, rfl, fun hmem => ?_⟩
    rcases List.infix_cons_iff.mp hmem with hprefix | hmem
    · -- the mark would have ended the comment at once
      obtain ⟨more, hmore⟩ := hprefix
      obtain ⟨rfl, rfl⟩ := List.cons_eq_cons.mp hmore
      exact hother (more ++ '*' :: '/' :: rest) rfl rfl
    · exact hbody hmem
  | case3 => cases h

/-- A comment goes to the first line break behind it. -/
theorem takeWhile_append_newline {body : List Char} (h : '\n' ∉ body) (s : List Char) :
    (body ++ '\n' :: s).takeWhile (fun c => decide (c ≠ '\n')) = body := by
  have hbody : ∀ c ∈ body, decide (c ≠ '\n') = true := by
    intro c hc
    exact decide_eq_true fun heq => h (heq ▸ hc)
  rw [List.takeWhile_append_of_pos hbody, List.takeWhile_cons_of_neg (by decide), List.append_nil]

/-! ## Gaps are passed over -/

/-- A gap in front of a text is passed over, whatever the text is. -/
theorem gapLength_append_of_isGap {g : List Char} (h : IsGap g) (s : List Char) :
    gapLength (g ++ s) = gapLength.shift g.length (gapLength s) := by
  induction h with
  | nil => exact (shift_zero _).symm
  | @blank c g hc _ ih =>
    have hdash : c ≠ '-' := by
      rintro rfl
      cases hc
    have hslash : c ≠ '/' := by
      rintro rfl
      cases hc
    rw [List.cons_append, gapLength_blank _ hc hdash hslash, ih, shift_shift, List.length_cons,
      Nat.add_comm]
  | @block body g hbody _ ih =>
    have htext : '/' :: '*' :: (body ++ '*' :: '/' :: g) ++ s =
        '/' :: '*' :: (body ++ '*' :: '/' :: (g ++ s)) := by
      simp
    have hrest : (body ++ '*' :: '/' :: (g ++ s)).drop (body.length + 2) = g ++ s := by
      rw [← List.drop_drop, List.drop_left]
      rfl
    rw [htext, gapLength_block, blockLength?_append hbody]
    dsimp only
    rw [hrest, ih, shift_shift]
    congr 1
    simp only [List.length_cons, List.length_append]
    omega
  | @line body g hbody _ ih =>
    have htext : '-' :: '-' :: (body ++ '\n' :: g) ++ s =
        '-' :: '-' :: (body ++ '\n' :: (g ++ s)) := by
      simp
    have hbreak : gapLength ('\n' :: (g ++ s)) = gapLength.shift 1 (gapLength (g ++ s)) :=
      gapLength_blank _ (by decide) (by decide) (by decide)
    rw [htext, gapLength_line, takeWhile_append_newline hbody, List.drop_left, hbreak, ih,
      shift_shift, shift_shift]
    congr 1
    simp only [List.length_cons, List.length_append]
    omega

/-- At the end of a text all of a gap is passed over. -/
theorem gapLength_of_isLastGap {g : List Char} (h : IsLastGap g) : gapLength g = .ok g.length := by
  cases h with
  | closed hg =>
    have hnil := gapLength_append_of_isGap hg []
    rwa [List.append_nil, gapLength_nil] at hnil
  | @line g body hg hbody =>
    have hline : body.takeWhile (fun c => decide (c ≠ '\n')) = body :=
      List.takeWhile_eq_self_iff.mpr fun c hc => decide_eq_true fun heq => hbody (heq ▸ hc)
    rw [gapLength_append_of_isGap hg, gapLength_line, hline, List.drop_length, gapLength_nil,
      List.length_append]
    rfl

/-! ## What is passed over is a gap -/

theorem IsGap.append {g h : List Char} (hg : IsGap g) (hh : IsGap h) : IsGap (g ++ h) := by
  induction hg with
  | nil => exact hh
  | blank hc _ ih => exact .blank hc ih
  | @block body g hbody _ ih => simpa using IsGap.block hbody ih
  | @line body g hbody _ ih => simpa using IsGap.line hbody ih

theorem IsGap.appendLast {g h : List Char} (hg : IsGap g) (hh : IsLastGap h) :
    IsLastGap (g ++ h) := by
  cases hh with
  | closed hh => exact .closed (hg.append hh)
  | line hh hbody => simpa using IsLastGap.line (hg.append hh) hbody

/-- The gap that a text begins with and what stands behind it. If anything does, all comments of the
gap are closed. -/
structure PassesOver (s : List Char) (n : Nat) (g r : List Char) : Prop where
  text : s = g ++ r
  length : g.length = n
  last : IsLastGap g
  closed : r ≠ [] → IsGap g

/-- More of a gap in front. -/
theorem PassesOver.behind {front s g r : List Char} {n : Nat} (hfront : IsGap front)
    (h : PassesOver s n g r) : PassesOver (front ++ s) (front.length + n) (front ++ g) r where
  text := by rw [h.text, List.append_assoc]
  length := by rw [List.length_append, h.length]
  last := hfront.appendLast h.last
  closed hr := hfront.append (h.closed hr)

/-- A line break in front of a gap is part of it. -/
theorem PassesOver.of_break {s g r : List Char} {n : Nat} (h : PassesOver ('\n' :: s) (1 + n) g r) :
    ∃ g', PassesOver s n g' r := by
  obtain ⟨c, g', rfl⟩ : ∃ c g', g = c :: g' :=
    List.exists_cons_of_length_eq_add_one (h.length.trans (Nat.add_comm 1 n))
  obtain ⟨rfl, hs⟩ := List.cons_eq_cons.mp h.text
  have hlength := h.length
  rw [List.length_cons] at hlength
  exact ⟨g', hs, by omega, isLastGap_of_break h.last, fun hr => isGap_of_break (h.closed hr)⟩

/-- A comment in front that goes to the line break takes the break from the gap behind it. -/
theorem PassesOver.behind_line {body s g r : List Char} {n : Nat} (hbody : '\n' ∉ body)
    (h : PassesOver ('\n' :: s) (1 + n) g r) :
    ∃ g', PassesOver ('-' :: '-' :: (body ++ '\n' :: s)) (body.length + 2 + (1 + n)) g' r := by
  obtain ⟨g', hg'⟩ := h.of_break
  have hline := hg'.behind (IsGap.line hbody .nil)
  have htext : '-' :: '-' :: (body ++ '\n' :: s) = '-' :: '-' :: (body ++ '\n' :: []) ++ s := by
    simp
  have hcount : body.length + 2 + (1 + n) = ('-' :: '-' :: (body ++ ['\n'])).length + n := by
    simp only [List.length_cons, List.length_append, List.length_nil]
    omega
  rw [htext, hcount]
  exact ⟨_, hline⟩

theorem PassesOver.behind_block {body s g r : List Char} {n : Nat} (hbody : ¬ ['*', '/'] <:+: body)
    (h : PassesOver s n g r) :
    ∃ g', PassesOver ('/' :: '*' :: (body ++ '*' :: '/' :: s)) (body.length + 2 + 2 + n) g' r := by
  have hcomment := h.behind (IsGap.block hbody .nil)
  have htext : '/' :: '*' :: (body ++ '*' :: '/' :: s) =
      '/' :: '*' :: (body ++ '*' :: '/' :: []) ++ s := by simp
  have hcount : body.length + 2 + 2 + n = ('/' :: '*' :: (body ++ ['*', '/'])).length + n := by
    simp only [List.length_cons, List.length_append, List.length_nil]
  rw [htext, hcount]
  exact ⟨_, hcomment⟩

/-- The rest of a line, and the line break behind it if there is one. -/
theorem exists_line (s : List Char) : ∃ body rest, s = body ++ rest ∧ '\n' ∉ body ∧
    (s.takeWhile fun c => decide (c ≠ '\n')).length = body.length ∧
      (rest = [] ∨ ∃ t, rest = '\n' :: t) := by
  induction s with
  | nil => exact ⟨[], [], rfl, by simp, rfl, .inl rfl⟩
  | cons c s ih =>
    by_cases hc : c = '\n'
    · exact ⟨[], c :: s, rfl, by simp, by simp [hc], .inr ⟨s, by rw [hc]⟩⟩
    · obtain ⟨body, rest, rfl, hbody, hlength, hrest⟩ := ih
      refine ⟨c :: body, rest, rfl, by simp [hbody, Ne.symm hc], ?_, hrest⟩
      rw [List.takeWhile_cons_of_pos (by simpa using hc), List.length_cons, hlength,
        List.length_cons]

/-- What is passed over at the start of a text is a gap. -/
theorem exists_passesOver {s : List Char} {n : Nat} (h : gapLength s = .ok n) :
    ∃ g r, PassesOver s n g r := by
  induction s using gapLength.induct generalizing n with
  | case1 r k =>
    rename_i ih
    obtain ⟨body, rest, hr, hbody, hlength, hrest⟩ := exists_line r
    have hk : k = body.length := hlength
    have hdrop : r.drop body.length = rest := by rw [hr, List.drop_left]
    rw [gapLength_line, hlength, hdrop] at h
    rw [hk, hdrop] at ih
    obtain ⟨m, hm, rfl⟩ := shift_eq_ok h
    obtain rfl | ⟨t, rfl⟩ := hrest
    · -- the comment goes to the end of the text
      rw [gapLength_nil] at hm
      cases hm
      rw [List.append_nil] at hr
      subst hr
      exact ⟨'-' :: '-' :: r, [], (List.append_nil _).symm, by simp, .line .nil hbody,
        fun hnil => absurd rfl hnil⟩
    · -- the line break belongs to the comment
      obtain ⟨g, r', hg⟩ := ih hm
      have hbreak : gapLength ('\n' :: t) = gapLength.shift 1 (gapLength t) :=
        gapLength_blank t (by decide) (by decide) (by decide)
      rw [hbreak] at hm
      obtain ⟨l, -, rfl⟩ := shift_eq_ok hm
      rw [hr]
      obtain ⟨g', hg'⟩ := hg.behind_line hbody
      exact ⟨g', r', hg'⟩
  | case2 r k hblock ih =>
    rw [gapLength_block, hblock] at h
    obtain ⟨m, hm, rfl⟩ := shift_eq_ok h
    obtain ⟨body, rest, rfl, rfl, hbody⟩ := exists_of_blockLength? hblock
    have hdrop : (body ++ '*' :: '/' :: rest).drop (body.length + 2) = rest := by
      rw [← List.drop_drop, List.drop_left]
      rfl
    rw [hdrop] at ih hm
    obtain ⟨g, r', hg⟩ := ih hm
    obtain ⟨g', hg'⟩ := hg.behind_block hbody
    exact ⟨g', r', hg'⟩
  | case3 r hblock =>
    rw [gapLength_block, hblock] at h
    cases h
  | case4 c r hdash hslash hblank ih =>
    rw [gapLength_cons hdash hslash, if_pos hblank] at h
    obtain ⟨m, hm, rfl⟩ := shift_eq_ok h
    obtain ⟨g, r', hg⟩ := ih hm
    exact ⟨_, _, hg.behind (.blank hblank .nil)⟩
  | case5 c r hdash hslash hblank =>
    rw [gapLength_cons hdash hslash, if_neg hblank] at h
    cases h
    exact ⟨[], c :: r, rfl, rfl, .closed .nil, fun _ => .nil⟩
  | case6 =>
    rw [gapLength_nil] at h
    cases h
    exact ⟨[], [], rfl, rfl, .closed .nil, fun _ => .nil⟩

end RowFilter.Token
