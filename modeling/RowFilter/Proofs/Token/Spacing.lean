import RowFilter.Proofs.Token.Entries
import RowFilter.Proofs.Token.Front

/-!
Gaps between tokens can be made wider. A blank and more of a gap behind a token, or in front of the
text, leave the kinds of all tokens and their texts what they were.
-/

namespace RowFilter.Token

open Text (Position)

/-! ## What stands behind a token -/

section

variable {c : Char} {w v : List Char} {kind : Kind}

theorem any_head?_of_readNumber {s : List Char} {n : Nat} (h : readNumber s = .token kind n) :
    (s.drop n).head?.any isWordChar = false := by
  have hn := length_of_readNumber h
  unfold readNumber at h
  dsimp only at h
  split at h
  · cases h
  · next hword =>
    rw [hn]
    exact Bool.eq_false_iff.mpr hword

theorem any_head?_of_readWord {s : List Char} {n : Nat} (h : readWord s = .token kind n) :
    (s.drop n).head?.any isWordChar = false := by
  rw [length_of_readWord h]
  exact any_head?_drop_takeWhile isWordChar s

theorem mem_of_measurementKeyLength? (h : measurementKeyLength? (c :: w ++ v) = some (w.length + 1)) :
    ':' ∈ c :: w := by
  obtain ⟨w', ds, rest, -, htext, hlength⟩ := exists_isKey h
  have hcut : c :: w ++ v = (w' ++ ':' :: ds) ++ rest := by rw [htext]; simp
  have htoken : c :: w = w' ++ ':' :: ds := by
    refine List.append_inj_left hcut ?_
    simp only [List.length_cons, List.length_append]
    omega
  rw [htoken]
  simp

/-- Symbols have no letters and no digits. -/
theorem isHexDigit_of_readSymbol (h : readSymbol (c :: w ++ v) = .token kind (w.length + 1)) :
    ∀ x ∈ c :: w, Guid.isHexDigit x = false := by
  unfold readSymbol at h
  split at h
  · next n symbol hstart =>
    cases h
    obtain ⟨⟨spelling, symbol⟩, hfind, heq⟩ := Option.map_eq_some_iff.mp hstart
    have hprefix : spelling.isPrefixOf (c :: w ++ v) = true :=
      List.find?_some (p := fun x : List Char × Symbol => x.1.isPrefixOf (c :: w ++ v)) hfind
    have htoken : spelling = c :: w :=
      (List.prefix_of_prefix_length_le (List.isPrefixOf_iff_prefix.mp hprefix)
        (List.prefix_append _ v) (Nat.le_of_eq (congrArg Prod.fst heq))).eq_of_length
          (congrArg Prod.fst heq)
    have hspellings :
        Symbol.spellings.all (fun x => x.1.all fun d => !Guid.isHexDigit d) = true := by decide
    have hdigits := List.all_eq_true.mp hspellings _ (List.mem_of_find?_eq_some hfind)
    rw [← htoken]
    simpa using hdigits
  · cases h

/-- Text in front of a word character is no identifier if it ends with a token: that token would
end with a digit, so it would go on. -/
theorem not_isHyphenated_of_readStart (front : List Char)
    (h : readStart c (w ++ v) = .token kind (w.length + 1))
    (hv : v.head?.any isWordChar = true) : ¬ Guid.IsHyphenated (front ++ c :: w) := by
  intro hfront
  have hmem {x : Char} (hx : x ∈ c :: w) : Guid.isHexDigit x = true ∨ x = '-' :=
    hfront.isHexDigit_or_eq (List.mem_append_right front hx)
  have hdrop : (c :: w ++ v).drop (w.length + 1) = v := by
    rw [← List.length_cons (a := c), List.drop_left]
  cases startsToken_of_readStart h with
  | guid hguid =>
    obtain ⟨t, rest, -, htext, hlength, hrest⟩ := guidLength?_eq_some_iff.mp hguid
    rw [← List.cons_append] at htext
    have hbehind : v = rest := List.append_inj_right htext hlength.symm
    rw [← hbehind, hv] at hrest
    cases hrest
  | measurementKey _ hkey =>
    rcases hmem (mem_of_measurementKeyLength? hkey) with hcolon | hcolon
    · exact absurd hcolon (by decide)
    · exact absurd hcolon (by decide)
  | number _ _ _ hread =>
    have hstop := any_head?_of_readNumber hread
    rw [← List.cons_append, hdrop, hv] at hstop
    cases hstop
  | word _ _ hread =>
    have hstop := any_head?_of_readWord hread
    rw [← List.cons_append, hdrop, hv] at hstop
    cases hstop
  | quoted ho => cases ho <;> exact absurd (hmem List.mem_cons_self) (by decide)
  | symbol hread =>
    obtain ⟨x, m, y, hends, -, hy⟩ := hfront.ends
    have hlast : (front ++ c :: w).getLast? = some y := by
      rw [hends, ← List.cons_append, List.getLast?_concat]
    rw [List.getLast?_append, List.getLast?_eq_some_getLast (List.cons_ne_nil c w),
      Option.some_or] at hlast
    have hmem' : y ∈ c :: w := Option.some.inj hlast ▸ List.getLast_mem _
    rw [isHexDigit_of_readSymbol hread y hmem'] at hy
    cases hy

end

/-! ## Readings -/

/-- What is written of a token, at no place in particular. -/
def written (t : Token) : Kind × String := (t.kind, t.text)

/-- How a text falls into tokens, wherever it starts: gaps, and the characters of tokens, which are
read where they stand. -/
inductive Reads : List Char → List (Kind × String) → Prop where
  | nil {g : List Char} (hg : IsLastGap g) : Reads g []
  | cons {g w s : List Char} {c : Char} {kind : Kind} {list : List (Kind × String)} (hg : IsGap g)
      (hgap : gapLength (c :: (w ++ s)) = .ok 0)
      (hread : readStart c (w ++ s) = .token kind (w.length + 1)) (h : Reads s list) :
      Reads (g ++ c :: (w ++ s)) ((kind, String.ofList (c :: w)) :: list)

theorem reads_of_streamFrom {p finish : Position} {s : List Char} {ts : List Token}
    (h : streamFrom p s = ⟨ts, .ok finish⟩) : Reads s (ts.map written) := by
  induction ts generalizing p s with
  | nil => exact .nil (streamFrom_eq_nil h).1
  | cons o ts ih =>
    obtain ⟨g, c, w, behind, hbegins, hrest⟩ := exists_begins h
    have htext : o.text = String.ofList (c :: w) := by rw [← hbegins.token, String.ofList_toList]
    rw [hbegins.text, List.map_cons, written, htext]
    exact .cons hbegins.gap hbegins.start hbegins.read (ih hrest)

namespace Reads

variable {s g : List Char} {list : List (Kind × String)}

/-- The tokens are found at any position. -/
theorem exists_streamFrom (h : Reads s list) (p : Position) :
    ∃ ts finish, streamFrom p s = ⟨ts, .ok finish⟩ ∧ ts.map written = list := by
  induction h generalizing p with
  | @nil g hg =>
    exact ⟨[], _, streamFrom_of_end p (gapLength_of_isLastGap hg) List.drop_length, rfl⟩
  | @cons g w s c kind list hg hgap hread _ ih =>
    obtain ⟨ts, finish, hts, hlist⟩ := ih ((p.advance g).advance (c :: w))
    have hlength : gapLength (g ++ c :: (w ++ s)) = .ok g.length := by
      rw [gapLength_append_of_isGap hg, hgap]
      rfl
    have hstream := streamFrom_of_token p hlength List.drop_left hread
    rw [Nat.add_sub_cancel, List.take_left, List.take_left, List.drop_left, hts] at hstream
    exact ⟨_, finish, hstream, congrArg (_ :: ·) hlist⟩

/-- A gap in front of a text is no token. -/
theorem behind (h : Reads s list) (hg : IsGap g) : Reads (g ++ s) list := by
  cases h with
  | nil hs => exact .nil (hg.appendLast hs)
  | cons hg' hgap hread h =>
    rw [← List.append_assoc]
    exact .cons (hg.append hg') hgap hread h

end Reads

/-- The text `u ++ v` falls into tokens, and `u` is empty or ends with one of them. -/
inductive ReadsAt (v : List Char) : List Char → List (Kind × String) → Prop where
  | start {list : List (Kind × String)} (h : Reads v list) : ReadsAt v [] list
  | token {g w u : List Char} {c : Char} {kind : Kind} {list : List (Kind × String)} (hg : IsGap g)
      (hgap : gapLength (c :: (w ++ (u ++ v))) = .ok 0)
      (hread : readStart c (w ++ (u ++ v)) = .token kind (w.length + 1)) (h : ReadsAt v u list) :
      ReadsAt v (g ++ c :: (w ++ u)) ((kind, String.ofList (c :: w)) :: list)

namespace ReadsAt

variable {u v : List Char} {list : List (Kind × String)}

theorem eq_nil_or_ends (h : ReadsAt v u list) :
    u = [] ∨ ∃ front c w kind, u = front ++ c :: w ∧
      readStart c (w ++ v) = .token kind (w.length + 1) := by
  induction h with
  | start => exact .inl rfl
  | @token g w u c kind list _ _ hread _ ih =>
    refine .inr ?_
    obtain rfl | ⟨front, c', w', kind', rfl, hlast⟩ := ih
    · exact ⟨g, c, w, kind, by rw [List.append_nil], hread⟩
    · exact ⟨g ++ c :: (w ++ front), c', w', kind', by simp, hlast⟩

/-- What ends with a token is no identifier in front of a word character. -/
theorem not_isHyphenated {c : Char} {w : List Char} {kind : Kind} (h : ReadsAt v u list)
    (hread : readStart c (w ++ (u ++ v)) = .token kind (w.length + 1))
    (hv : v.head?.any isWordChar = true) : ¬ Guid.IsHyphenated (c :: (w ++ u)) := by
  obtain rfl | ⟨front, c', w', kind', rfl, hlast⟩ := h.eq_nil_or_ends
  · rw [List.append_nil]
    exact not_isHyphenated_of_readStart [] hread hv
  · have hsplit : c :: (w ++ (front ++ c' :: w')) = (c :: (w ++ front)) ++ c' :: w' := by simp
    rw [hsplit]
    exact not_isHyphenated_of_readStart _ hlast hv

/-- More of a gap behind the token changes neither the tokens before nor those behind. -/
theorem reads_space (h : ReadsAt v u list) {g : List Char} (hg : IsGap g) :
    Reads (u ++ ' ' :: (g ++ v)) list := by
  induction h with
  | start h => exact h.behind (IsGap.blank (by decide) hg)
  | @token g' w u c kind list hg' hgap hread h ih =>
    rw [← List.append_assoc] at hgap hread
    have hguid := h.not_isHyphenated (by rw [← List.append_assoc]; exact hread)
    -- the token lies in front, and no scanner looks across the blank
    have hfront := readStart_front hread (by simp) hguid
    have hread' := (readStart_append_break (g ++ v) (b := ' ') (by decide) hfront).1
    have hspace : EndsToken (' ' :: (g ++ v)) := by
      show ' ' ∈ breaks
      decide
    have hgap' := gapLength_append (gapLength_front hgap) hspace
    rw [List.append_assoc] at hread' hgap'
    have hreads := Reads.cons hg' hgap' hread' ih
    simpa using hreads

end ReadsAt

/-! ## Places between tokens -/

/-- The text `u` is empty or ends with a token of the list, which stands where its position says. -/
def EndsWithToken (before u : List Char) (ts : List Token) : Prop :=
  u = [] ∨ ∃ t ∈ ts, ∃ front, u = front ++ t.text.toList ∧ t.position = .after (before ++ front)

/-- An entry stands in the text at its position. -/
theorem FallsInto.exists_of_mem {before s : List Char} {es : List Entry} {e : Entry}
    (h : FallsInto before s es) (he : e ∈ es) :
    ∃ front behind, s = front ++ (e.text.toList ++ behind) ∧
      e.position = .after (before ++ front) := by
  induction h with
  | nil => cases he
  | @cons before g s e' es _ hposition _ ih =>
    rcases List.mem_cons.mp he with rfl | he
    · exact ⟨g, s, rfl, hposition⟩
    · obtain ⟨front, behind, rfl, hfront⟩ := ih he
      refine ⟨g ++ (e'.text.toList ++ front), behind, by simp, ?_⟩
      rw [hfront]
      simp

/-- Text that ends with a token has the first token in front, and what follows of it ends with a
later token or is empty. -/
theorem EndsWithToken.behind_first {before u v g w behind : List Char} {c : Char} {o : Token}
    {ts : List Token} {finish : Position} (hu : EndsWithToken before u (o :: ts)) (hne : u ≠ [])
    (hbegins : Begins (.after before) (u ++ v) g c w behind o)
    (hrest : streamFrom (.after (before ++ g ++ c :: w)) behind = ⟨ts, .ok finish⟩) :
    ∃ u', u = g ++ c :: (w ++ u') ∧ behind = u' ++ v ∧
      EndsWithToken (before ++ g ++ c :: w) u' ts := by
  obtain ⟨t, ht, front, rfl, hfront⟩ := hu.resolve_left hne
  have hparts := hbegins.text
  rw [List.append_assoc] at hparts
  -- positions say which part of the text a front is
  rw [← Position.advance_after] at hfront
  rcases List.mem_cons.mp ht with rfl | ht
  · obtain rfl :=
      Position.prefix_eq_of_advance_eq hparts (hfront.symm.trans hbegins.position)
    rw [hbegins.token] at hparts ⊢
    have hbehind : v = behind := List.append_cancel_left (List.append_cancel_left hparts)
    exact ⟨[], by rw [List.append_nil], hbehind.symm, .inl rfl⟩
  · obtain ⟨front', behind', hbehind, hplace⟩ :=
      (fallsInto_of_streamFrom hrest).exists_of_mem (e := .token t)
        (List.mem_append_left _ (List.mem_map_of_mem ht))
    have hplace' : t.position = .after (before ++ g ++ c :: w ++ front') := hplace
    have htext : (Entry.token t).text = t.text := rfl
    rw [htext] at hbehind
    have hmore : front ++ (t.text.toList ++ v) =
        (g ++ (c :: w ++ front')) ++ (t.text.toList ++ behind') := by
      rw [hparts, hbehind]
      simp
    have hfront' : front = g ++ (c :: w ++ front') := by
      refine Position.prefix_eq_of_advance_eq hmore (hfront.symm.trans ?_)
      rw [hplace', Position.advance_after]
      simp
    subst hfront'
    have hv : v = behind' := List.append_cancel_left (List.append_cancel_left hmore)
    refine ⟨front' ++ t.text.toList, by simp, ?_, .inr ⟨t, ht, front', rfl, hplace'⟩⟩
    rw [hbehind, hv, List.append_assoc]

theorem readsAt_of_streamFrom {before u v : List Char} {ts : List Token} {finish : Position}
    (h : streamFrom (.after before) (u ++ v) = ⟨ts, .ok finish⟩) (hu : EndsWithToken before u ts) :
    ReadsAt v u (ts.map written) := by
  induction ts generalizing before u with
  | nil =>
    obtain rfl | ⟨t, ht, -⟩ := hu
    · exact .start (reads_of_streamFrom h)
    · cases ht
  | cons o ts ih =>
    by_cases hne : u = []
    · subst hne
      exact .start (reads_of_streamFrom h)
    · obtain ⟨g, c, w, behind, hbegins, hrest⟩ := exists_begins h
      rw [Position.advance_after, Position.advance_after] at hrest
      obtain ⟨u', rfl, rfl, hu'⟩ := hu.behind_first hne hbegins hrest
      have htext : o.text = String.ofList (c :: w) := by rw [← hbegins.token, String.ofList_toList]
      rw [List.map_cons, written, htext]
      exact .token hbegins.gap hbegins.start hbegins.read (ih hrest hu')

/-- A blank and a gap between two tokens, or in front of the text, change no token. -/
theorem tokenize_of_gap {u v g : String} {tokens : List Token} {finish : Position}
    (h : tokenize (u ++ v) = .ok (tokens, finish)) (hu : EndsWithToken [] u.toList tokens)
    (hg : IsGap g.toList) :
    ∃ tokens' finish', tokenize (u ++ " " ++ g ++ v) = .ok (tokens', finish') ∧
      tokens'.map written = tokens.map written := by
  have hstream : streamFrom (.after []) (u.toList ++ v.toList) = ⟨tokens, .ok finish⟩ := by
    rw [← String.toList_append]
    exact streamFrom_of_tokenize h
  have hreads := (readsAt_of_streamFrom hstream hu).reads_space hg
  obtain ⟨tokens', finish', hstream', hwritten⟩ := hreads.exists_streamFrom .start
  have hchars : (u ++ " " ++ g ++ v).toList = u.toList ++ ' ' :: (g.toList ++ v.toList) := by simp
  refine ⟨tokens', finish', ?_, hwritten⟩
  rw [tokenize_eq_ok_iff, stream, hchars, hstream']
  exact ⟨rfl, rfl⟩

end RowFilter.Token
