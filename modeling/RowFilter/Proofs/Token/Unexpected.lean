import RowFilter.Proofs.Outcome
import RowFilter.Proofs.Token.Entries

/-!
What a text holds where it falls into no token. A character that begins nothing is reported at its
own position. A number that a word character follows is reported as well, but at the position
behind it, where its text does not stand.
-/

namespace RowFilter.Token

open Text (Position)

/-! ## What stands behind a number -/

theorem isHexDigit_of_isDigit {c : Char} (h : c.isDigit = true) : Guid.isHexDigit c = true :=
  forall_isDigit (P := fun c => Guid.isHexDigit c = true) (by decide) h

theorem isDigit_head?_of_isHexDigit {s : List Char} (h : s.head?.any Guid.isHexDigit = false) :
    s.head?.any Char.isDigit = false := by
  cases s with
  | nil => rfl
  | cons c s =>
    have hc : ¬ Guid.isHexDigit c = true := Bool.eq_false_iff.mp h
    exact Bool.eq_false_iff.mpr fun hdigit => hc (isHexDigit_of_isDigit hdigit)

theorem isDigit_head?_drop_hexLength {s : List Char} (h : hexLength s ≠ 0) :
    (s.drop (hexLength s)).head?.any Char.isDigit = false := by
  obtain ⟨c, r, rfl, -, -, hhex⟩ := exists_of_hexLength h
  rw [hhex, List.drop_succ_cons, List.drop_succ_cons]
  exact isDigit_head?_of_isHexDigit (any_head?_drop_takeWhile _ r)

theorem isDigit_head?_drop_digitsLength (s : List Char) :
    (s.drop (digitsLength s)).head?.any Char.isDigit = false := by
  have hwhole := any_head?_drop_takeWhile Char.isDigit s
  rw [digitsLength_eq]
  cases hdrop : s.drop (s.takeWhile Char.isDigit).length with
  | nil =>
    have hnone (n : Nat) : withFraction n [] = n := rfl
    rw [hnone, hdrop]
    rfl
  | cons c r =>
    by_cases hc : c = '.'
    · subst hc
      rw [withFraction_point]
      split
      · -- a point without digits is no number
        next hnone =>
        rw [hnone.1] at hdrop
        rw [hdrop]
        rfl
      · rw [Nat.add_assoc, ← List.drop_drop, hdrop, Nat.add_comm, List.drop_succ_cons]
        exact any_head?_drop_takeWhile Char.isDigit r
    · rwa [withFraction_of_ne hc]

theorem isDigit_head?_drop_exponentLength {s : List Char} (h : s.head?.any Char.isDigit = false) :
    (s.drop (exponentLength s)).head?.any Char.isDigit = false := by
  rcases s with _ | ⟨c, r⟩
  · rfl
  · cases hc : (c = 'e' || c = 'E') with
    | false => rwa [exponentLength_of_ne_mark hc]
    | true =>
      rw [exponentLength_mark hc]
      split
      · exact h
      · rw [Nat.add_assoc, Nat.add_comm, List.drop_succ_cons, ← List.drop_drop]
        exact any_head?_drop_takeWhile Char.isDigit _

/-- A number takes all digits that there are. -/
theorem isDigit_head?_drop_numberLength (s : List Char) :
    (s.drop (numberLength s)).head?.any Char.isDigit = false := by
  unfold numberLength
  dsimp only
  split
  · next hhex => exact isDigit_head?_drop_hexLength hhex
  · rw [← List.drop_drop]
    exact isDigit_head?_drop_exponentLength (isDigit_head?_drop_digitsLength s)

/-! ## Faults -/

theorem streamFrom_of_unexpected {s r : List Char} {n length passed : Nat} {c : Char} (p : Position)
    (hgap : gapLength s = .ok n) (hnext : s.drop n = c :: r)
    (hread : readStart c r = .unexpected length passed) :
    streamFrom p s = ⟨[], .error (.lexical (String.ofList ((c :: r).take length))
      ((p.advance (s.take n)).advance ((c :: r).take passed)))⟩ := by
  rw [streamFrom, hgap]
  simp only
  split
  · next h => rw [hnext] at h; cases h
  · next h =>
    rw [hnext] at h
    cases h
    rw [hread]

theorem streamFrom_of_unterminated {s r : List Char} {n : Nat} {c : Char} {what : String}
    (p : Position) (hgap : gapLength s = .ok n) (hnext : s.drop n = c :: r)
    (hread : readStart c r = .unterminated what) :
    streamFrom p s =
      ⟨[], .error (.grammar (.unterminated what) (p.advance (s.take n)))⟩ := by
  rw [streamFrom, hgap]
  simp only
  split
  · next h => rw [hnext] at h; cases h
  · next h =>
    rw [hnext] at h
    cases h
    rw [hread]

/-- What is reported was read somewhere in the text. -/
theorem exists_unexpected {before s : List Char} {text : String} {p : Position}
    (h : (streamFrom (.after before) s).outcome = .error (.lexical text p)) :
    ∃ front c r length passed, s = front ++ c :: r ∧
      readStart c r = .unexpected length passed ∧
      text = String.ofList ((c :: r).take length) ∧
      p = .after (before ++ front ++ (c :: r).take passed) := by
  induction falls s generalizing before with
  | opened hgap =>
    rw [streamFrom_of_open _ hgap] at h
    cases h
  | ended hgap hend =>
    rw [streamFrom_of_end _ hgap hend] at h
    cases h
  | @faulty s r n c hgap hnext hfault =>
    cases hread : readStart c r with
    | token kind length => exact absurd hread (hfault kind length)
    | unterminated what =>
      rw [streamFrom_of_unterminated _ hgap hnext hread] at h
      cases h
    | unexpected length passed =>
      rw [streamFrom_of_unexpected _ hgap hnext hread, Position.advance_after,
        Position.advance_after] at h
      cases h
      refine ⟨s.take n, c, r, length, passed, ?_, hread, rfl, rfl⟩
      rw [← hnext, List.take_append_drop]
  | @token s r n length c kind hgap hnext hread _ ih =>
    rw [streamFrom_of_token _ hgap hnext hread, Position.advance_after,
      Position.advance_after] at h
    obtain ⟨front, c', r', length', passed, hbehind, hread', htext, hp⟩ := ih h
    refine ⟨s.take n ++ c :: r.take (length - 1) ++ front, c', r', length', passed, ?_, hread',
      htext, by simpa using hp⟩
    rw [List.append_assoc, ← hbehind, List.append_assoc, List.cons_append, List.take_append_drop,
      ← hnext, List.take_append_drop]

/-- Only a number is refused when all of it has been read. -/
theorem readStart_eq_unexpected {c : Char} {r : List Char} {length passed : Nat}
    (h : readStart c r = .unexpected length passed) :
    startsNumber (c :: r) = true ∧ length = numberLength (c :: r) ∧ passed = length ∧
        ((c :: r).drop length).head?.any isWordChar = true ∨
      startsNumber (c :: r) = false ∧ length = 1 ∧ passed = 0 := by
  have hquoted (closing : Char) (doubled : Bool) (kind : String → Kind) (what : String) :
      readQuoted closing doubled kind what r ≠ .unexpected length passed := by
    unfold readQuoted
    split <;> exact nofun
  unfold readStart at h
  dsimp only at h
  split at h
  · cases h
  · cases h
  · split at h
    · next hnumber =>
      unfold readNumber at h
      dsimp only at h
      split at h
      · next hword =>
        cases h
        exact .inl ⟨hnumber, rfl, rfl, hword⟩
      · split at h <;> cases h
    · next hnumber =>
      refine .inr ⟨Bool.eq_false_iff.mpr hnumber, ?_⟩
      split at h
      · unfold readWord at h
        dsimp only at h
        split at h <;> cases h
      · split at h
        · exact absurd h (hquoted _ _ _ _)
        · exact absurd h (hquoted _ _ _ _)
        · exact absurd h (hquoted _ _ _ _)
        · exact absurd h (hquoted _ _ _ _)
        · unfold readSymbol at h
          split at h
          · cases h
          · cases h
            exact ⟨rfl, rfl⟩

/-! ## Where the text of a fault stands -/

/-- The text stands in the input, from the position on. -/
def StandsAt (input text : String) (p : Position) : Prop :=
  ∃ before behind, input.toList = before ++ (text.toList ++ behind) ∧ p = .after before

/-- The text stands in the input, up to the position. -/
def EndsAt (input text : String) (p : Position) : Prop :=
  ∃ before behind, input.toList = before ++ (text.toList ++ behind) ∧
    p = .after (before ++ text.toList)

theorem outcome_of_tokenize {input : String} {e : Error} (h : tokenize input = .error e) :
    (stream input).outcome = .error e := by
  rw [tokenize] at h
  cases hout : (stream input).outcome with
  | error e' =>
    rw [hout] at h
    cases h
    rfl
  | ok finish =>
    rw [hout] at h
    cases h

/-- The text of a number is a number. -/
theorem startsNumber_take_numberLength {s : List Char} (h : startsNumber s = true) :
    startsNumber (s.take (numberLength s)) = true := by
  rcases s with _ | ⟨c, r⟩
  · cases h
  · obtain ⟨k, hk⟩ := Nat.exists_eq_add_one_of_ne_zero (Nat.ne_of_gt (numberLength_pos h))
    have hsplit : c :: r = c :: (r.take k ++ r.drop k) := by rw [List.take_append_drop]
    have hle : numberLength (c :: r) ≤ (r.take k).length + 1 := by
      have hlength := numberLength_le (c :: r)
      rw [List.length_cons] at hlength
      rw [List.length_take]
      omega
    rw [hk, List.take_succ_cons]
    rw [hsplit] at h hle
    exact (startsNumber_front fun _ => hle).trans h

/-- What a number begins with does not stand behind it: it takes all digits, and a point ends no
number that a word character follows. -/
theorem ne_append_of_startsNumber {s t : List Char} (h : startsNumber s = true)
    (hword : (s.drop (numberLength s)).head?.any isWordChar = true) :
    s.drop (numberLength s) ≠ s.take (numberLength s) ++ t := by
  intro heq
  have hdigit := isDigit_head?_drop_numberLength s
  rcases s with _ | ⟨c, r⟩
  · cases h
  · obtain ⟨k, hk⟩ := Nat.exists_eq_add_one_of_ne_zero (Nat.ne_of_gt (numberLength_pos h))
    rw [heq, hk] at hword hdigit
    by_cases hc : c = '.'
    · subst hc
      cases hword
    · rw [startsNumber_of_ne hc] at h
      have hnone : (some c).any Char.isDigit = false := hdigit
      rw [Option.any_some, h] at hnone
      cases hnone

theorem not_standsAt_of_number {input text : String} {front s : List Char}
    (hinput : input.toList = front ++ s) (htext : text.toList = s.take (numberLength s))
    (h : startsNumber s = true) (hword : (s.drop (numberLength s)).head?.any isWordChar = true) :
    ¬ StandsAt input text (.after (front ++ text.toList)) := by
  rintro ⟨before, behind, hstands, hp⟩
  have hparts : (front ++ text.toList) ++ s.drop (numberLength s) =
      before ++ (text.toList ++ behind) := by
    rw [← hstands, hinput, List.append_assoc, htext, List.take_append_drop]
  -- the position says where the text would have to stand
  rw [Position.eq_of_after_eq hparts hp] at hparts
  have hbehind := List.append_cancel_left hparts
  rw [htext] at hbehind
  exact ne_append_of_startsNumber h hword hbehind

/-- A fault names characters of the input. They stand at its position if and only if they are no
number; a number ends there. -/
theorem standsAt_iff_of_lexical {input text : String} {p : Position}
    (h : tokenize input = .error (.lexical text p)) :
    text ≠ "" ∧ (StandsAt input text p ↔ startsNumber text.toList = false) ∧
      (startsNumber text.toList = true → EndsAt input text p) := by
  have hout : (streamFrom (.after []) input.toList).outcome = .error (.lexical text p) :=
    outcome_of_tokenize h
  obtain ⟨front, c, r, length, passed, hinput, hread, hchars, rfl⟩ := exists_unexpected hout
  have htext : text.toList = (c :: r).take length := by rw [hchars, String.toList_ofList]
  have hnonempty (hlength : 0 < length) : text ≠ "" := by
    rintro rfl
    obtain ⟨k, rfl⟩ := Nat.exists_eq_add_one_of_ne_zero (Nat.ne_of_gt hlength)
    cases htext
  rw [List.nil_append]
  rcases readStart_eq_unexpected hread with ⟨hnumber, rfl, rfl, hword⟩ | ⟨hnumber, rfl, rfl⟩
  · have hstarts := startsNumber_take_numberLength hnumber
    rw [← htext] at hstarts ⊢
    refine ⟨hnonempty (numberLength_pos hnumber), ?_, fun _ => ?_⟩
    · rw [hstarts]
      exact iff_of_false (not_standsAt_of_number hinput htext hnumber hword) nofun
    · refine ⟨front, (c :: r).drop (numberLength (c :: r)), ?_, rfl⟩
      rw [htext, List.take_append_drop, hinput]
  · have hsingle : startsNumber [c] = startsNumber (c :: ([] ++ r)) :=
      startsNumber_front fun hstart => absurd (hnumber.symm.trans hstart) Bool.false_ne_true
    have hstarts : startsNumber text.toList = false := by
      rw [htext]
      exact hsingle.trans hnumber
    rw [List.take_zero, List.append_nil, hstarts]
    refine ⟨hnonempty Nat.one_pos, iff_of_true ⟨front, r, ?_, rfl⟩ rfl, nofun⟩
    rw [htext, hinput]
    rfl

/-- A dollar sign is reported where it stands. -/
theorem standsAt_of_dollar :
    tokenize "SignalType = $" = .error (.lexical "$" ⟨1, 14⟩) ∧
      StandsAt "SignalType = $" "$" ⟨1, 14⟩ := by
  have htokens : tokenize "SignalType = $" = .error (.lexical "$" ⟨1, 14⟩) := by decide +kernel
  exact ⟨htokens, (standsAt_iff_of_lexical htokens).2.1.mpr (by decide +kernel)⟩

/-- A digit in front of a letter is reported at the letter. -/
theorem not_standsAt_of_digit :
    tokenize "1a" = .error (.lexical "1" ⟨1, 2⟩) ∧ ¬ StandsAt "1a" "1" ⟨1, 2⟩ := by
  refine ⟨by decide +kernel, ?_⟩
  rintro ⟨before, behind, htext, hp⟩
  rcases before with _ | ⟨c, before⟩
  · exact absurd hp (by decide)
  · -- behind the first character there is no other digit
    have hchars : ['1', 'a'] = c :: (before ++ '1' :: behind) := by simpa using htext
    have hmem : '1' ∈ ['a'] := by
      rw [(List.cons_eq_cons.mp hchars).2]
      simp
    exact absurd hmem (by decide)

end RowFilter.Token
