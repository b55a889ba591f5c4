import Mathlib.Data.List.TakeWhile
import RowFilter.Proofs.Token.Lexeme
import RowFilter.Proofs.Token.Recased

/-!
Texts that are cut behind a token. A scanner that ends within the front of a text ends there in the
front alone, so what is read in front of more text is read without it. There is one exception: an
identifier that a word character follows is none, and it is one when that character is cut off.
-/

namespace RowFilter.Token

variable {a s : List Char}

/-! ## Runs of characters -/

theorem takeWhile_front {p : Char → Bool} (h : ((a ++ s).takeWhile p).length ≤ a.length) :
    a.takeWhile p = (a ++ s).takeWhile p := by
  induction a with
  | nil => exact (List.eq_nil_of_length_eq_zero (Nat.le_zero.mp h)).symm
  | cons c a ih =>
    rw [List.cons_append] at h ⊢
    cases hc : p c with
    | false => simp [hc]
    | true =>
      rw [List.takeWhile_cons_of_pos hc] at h ⊢
      rw [List.takeWhile_cons_of_pos hc, ih (Nat.le_of_succ_le_succ h)]

theorem take_length_takeWhile (p : Char → Bool) (s : List Char) :
    s.take (s.takeWhile p).length = s.takeWhile p :=
  (List.prefix_iff_eq_take.mp (List.takeWhile_prefix p)).symm

theorem drop_length_takeWhile (p : Char → Bool) (s : List Char) :
    s.drop (s.takeWhile p).length = s.dropWhile p :=
  List.append_cancel_left ((List.prefix_iff_eq_append.mp (List.takeWhile_prefix p)).trans
    List.takeWhile_append_dropWhile.symm)

/-- A run of characters ends where the next one is not one of them. -/
theorem takeWhile_append_of_stop {p : Char → Bool} {w rest : List Char}
    (hw : ∀ c ∈ w, p c = true) (hrest : rest.head?.any p = false) :
    (w ++ rest).takeWhile p = w := by
  rw [List.takeWhile_append_of_pos hw]
  cases rest with
  | nil => rw [List.takeWhile_nil, List.append_nil]
  | cons c rest =>
    have hc : ¬ p c = true := Bool.eq_false_iff.mp hrest
    rw [List.takeWhile_cons_of_neg hc, List.append_nil]

theorem dropWhile_append_of_stop {p : Char → Bool} {w rest : List Char}
    (hw : ∀ c ∈ w, p c = true) (hrest : rest.head?.any p = false) :
    (w ++ rest).dropWhile p = rest := by
  rw [← drop_length_takeWhile, takeWhile_append_of_stop hw hrest, List.drop_left]

theorem any_head?_dropWhile (p : Char → Bool) (s : List Char) :
    (s.dropWhile p).head?.any p = false := by
  have hstop := List.head?_dropWhile_not p s
  cases hhead : (s.dropWhile p).head? with
  | none => rfl
  | some c =>
    rw [hhead] at hstop
    exact hstop

theorem any_head?_drop_takeWhile (p : Char → Bool) (s : List Char) :
    (s.drop (s.takeWhile p).length).head?.any p = false := by
  rw [drop_length_takeWhile]
  exact any_head?_dropWhile p s

/-- No more than the first character of what follows is looked at. -/
theorem any_head?_of_append {p : Char → Bool} (h : (a ++ s).head?.any p = false) :
    a.head?.any p = false := by
  cases a with
  | nil => rfl
  | cons c a => exact h

/-! ## Identifiers -/

/-- The text of an identifier, with braces around it or without. -/
def IsGuidText (t : List Char) : Prop :=
  Guid.IsHyphenated t ∨ ∃ u, t = '\x7b' :: (u ++ ['\x7d']) ∧ Guid.IsHyphenated u

theorem afterGuid?_eq_some_iff {rest : List Char} :
    afterGuid? s = some rest ↔ ∃ t, IsGuidText t ∧ s = t ++ rest := by
  constructor
  · intro h
    cases s with
    | nil => cases h
    | cons c r =>
      by_cases hc : c = '\x7b'
      · subst hc
        rw [afterGuid?_brace] at h
        obtain ⟨r', hgroups, hmark⟩ := Option.bind_eq_some_iff.mp h
        obtain ⟨u, hu, rfl⟩ := isHyphenated_of_afterGroups? hgroups
        unfold afterMark? at hmark
        split at hmark
        · next hhead =>
          cases hmark
          refine ⟨_, .inr ⟨u, rfl, hu⟩, ?_⟩
          obtain ⟨tail, rfl⟩ := List.head?_eq_some_iff.mp hhead
          rw [List.cons_append, List.append_assoc, List.singleton_append, List.tail_cons]
        · cases hmark
      · rw [afterGuid?_of_ne hc] at h
        obtain ⟨t, ht, hs⟩ := isHyphenated_of_afterGroups? h
        exact ⟨t, .inl ht, hs⟩
  · rintro ⟨t, ht | ⟨u, rfl, hu⟩, rfl⟩
    · have hgroups := afterGroups?_of_isHyphenated ht rest
      obtain ⟨x, m, y, rfl, hx, -⟩ := ht.ends
      rw [List.cons_append, afterGuid?_of_ne (Guid.ne_brace_of_isHexDigit hx)]
      exact hgroups
    · rw [List.cons_append, List.append_assoc, List.singleton_append, afterGuid?_brace,
        afterGroups?_of_isHyphenated hu]
      rfl

theorem guidLength?_eq_some_iff {n : Nat} :
    guidLength? s = some n ↔ ∃ t rest, IsGuidText t ∧ s = t ++ rest ∧ t.length = n ∧
      rest.head?.any isWordChar = false := by
  rw [guidLength?_eq]
  constructor
  · intro h
    obtain ⟨rest, hrest, rfl⟩ := Option.map_eq_some_iff.mp h
    obtain ⟨hafter, hword⟩ := Option.filter_eq_some_iff.mp hrest
    obtain ⟨t, ht, rfl⟩ := afterGuid?_eq_some_iff.mp hafter
    refine ⟨t, rest, ht, rfl, ?_, by simpa using hword⟩
    simp only [List.length_append, Nat.add_sub_cancel]
  · rintro ⟨t, rest, ht, rfl, rfl, hword⟩
    rw [afterGuid?_eq_some_iff.mpr ⟨t, ht, rfl⟩, Option.filter_some, hword]
    exact congrArg some (by simp only [List.length_append, Nat.add_sub_cancel])

theorem guidLength?_front {n : Nat} (h : guidLength? (a ++ s) = some n) (hn : n ≤ a.length) :
    guidLength? a = some n := by
  obtain ⟨t, rest, ht, htext, rfl, hword⟩ := guidLength?_eq_some_iff.mp h
  obtain ⟨rest', rfl⟩ := List.prefix_of_prefix_length_le
    (htext ▸ List.prefix_append t rest) (List.prefix_append a s) hn
  rw [List.append_assoc] at htext
  rw [← List.append_cancel_left htext] at hword
  exact guidLength?_eq_some_iff.mpr ⟨t, rest', ht, rfl, rfl, any_head?_of_append hword⟩

/-- What is no identifier is one without what follows only if a word character followed it. -/
theorem guidLength?_front_eq_none (h : guidLength? (a ++ s) = none)
    (ha : s.head?.any isWordChar = true → ¬ IsGuidText a) : guidLength? a = none := by
  refine Option.eq_none_iff_forall_ne_some.mpr fun n hn => ?_
  obtain ⟨t, rest, ht, rfl, -, hword⟩ := guidLength?_eq_some_iff.mp hn
  cases hfollows : (rest ++ s).head?.any isWordChar with
  | false =>
    have hlonger := guidLength?_eq_some_iff.mpr
      ⟨t, rest ++ s, ht, List.append_assoc t rest s, rfl, hfollows⟩
    rw [h] at hlonger
    cases hlonger
  | true =>
    cases rest with
    | nil =>
      rw [List.append_nil] at ha
      exact ha hfollows ht
    | cons c rest =>
      have hc : (some c).any isWordChar = true := hfollows
      rw [List.head?_cons, hc] at hword
      cases hword

/-! ## Words and keys -/

theorem isWordChar_of_isWordStart {c : Char} (h : isWordStart c = true) : isWordChar c = true := by
  simp only [isWordStart, isWordChar, Char.isAlphanum, Bool.or_eq_true] at h ⊢
  exact h.imp_left .inl

/-- The key of a measurement: a word, a colon and digits, as many as there are. -/
structure IsKey (w ds rest : List Char) : Prop where
  start : w.head?.any isWordStart = true
  word : ∀ c ∈ w, isWordChar c = true
  digits : ∀ c ∈ ds, c.isDigit = true
  nonempty : ds ≠ []
  ends : rest.head?.any Char.isDigit = false

theorem IsKey.measurementKeyLength? {w ds rest : List Char} (h : IsKey w ds rest) :
    measurementKeyLength? (w ++ ':' :: (ds ++ rest)) = some (w.length + 1 + ds.length) := by
  have hhead : (w ++ ':' :: (ds ++ rest)).head?.any isWordStart = true := by
    cases w with
    | nil => cases h.start
    | cons c w => exact h.start
  have hword : wordLength (w ++ ':' :: (ds ++ rest)) = w.length :=
    congrArg List.length (takeWhile_append_of_stop h.word rfl)
  have hdigits : ds.length ≠ 0 := mt List.eq_nil_of_length_eq_zero h.nonempty
  rw [Token.measurementKeyLength?, if_pos hhead, hword]
  dsimp only
  rw [List.drop_left]
  show (if ((ds ++ rest).takeWhile Char.isDigit).length = 0 then none else
    some (w.length + 1 + ((ds ++ rest).takeWhile Char.isDigit).length)) = _
  rw [takeWhile_append_of_stop h.digits h.ends, if_neg hdigits]

theorem exists_isKey {n : Nat} (h : measurementKeyLength? s = some n) :
    ∃ w ds rest, IsKey w ds rest ∧ s = w ++ ':' :: (ds ++ rest) ∧
      n = w.length + 1 + ds.length := by
  unfold measurementKeyLength? at h
  dsimp only at h
  split at h
  · next hstart =>
    split at h
    · next r hdrop =>
      split at h
      · cases h
      · next hdigits =>
        cases h
        refine ⟨s.takeWhile isWordChar, r.takeWhile Char.isDigit, r.dropWhile Char.isDigit,
          ⟨?_, fun c => List.mem_takeWhile_imp, fun c => List.mem_takeWhile_imp, ?_, ?_⟩, ?_, rfl⟩
        · cases s with
          | nil => cases hstart
          | cons c s =>
            rw [List.takeWhile_cons_of_pos (isWordChar_of_isWordStart hstart)]
            exact hstart
        · exact fun hnil => hdigits (by rw [hnil]; rfl)
        · exact any_head?_dropWhile Char.isDigit r
        · rw [List.takeWhile_append_dropWhile, ← hdrop]
          exact (List.prefix_iff_eq_append.mp (List.takeWhile_prefix isWordChar)).symm
    · cases h
  · cases h

theorem measurementKeyLength?_front {n : Nat} (h : measurementKeyLength? (a ++ s) = some n)
    (hn : n ≤ a.length) : measurementKeyLength? a = some n := by
  obtain ⟨w, ds, rest, hkey, htext, rfl⟩ := exists_isKey h
  have hcut : a ++ s = (w ++ ':' :: ds) ++ rest := by rw [htext]; simp
  have hlength : (w ++ ':' :: ds).length ≤ a.length := by
    simp only [List.length_append, List.length_cons]
    omega
  obtain ⟨rest', rfl⟩ := List.prefix_of_prefix_length_le
    (hcut ▸ List.prefix_append _ rest) (List.prefix_append a s) hlength
  rw [List.append_assoc] at hcut
  have hends := hkey.ends
  rw [← List.append_cancel_left hcut] at hends
  have hfront : IsKey w ds rest' := { hkey with ends := any_head?_of_append hends }
  rw [← hfront.measurementKeyLength?, List.append_assoc, List.cons_append]

/-- A key goes on with the digits that follow it. -/
theorem measurementKeyLength?_front_eq_none (h : measurementKeyLength? (a ++ s) = none) :
    measurementKeyLength? a = none := by
  refine Option.eq_none_iff_forall_ne_some.mpr fun n hn => ?_
  obtain ⟨w, ds, rest, hkey, rfl, -⟩ := exists_isKey hn
  -- all digits that there are, and what is behind them
  have hlonger : IsKey w (ds ++ (rest ++ s).takeWhile Char.isDigit)
      ((rest ++ s).dropWhile Char.isDigit) :=
    { start := hkey.start
      word := hkey.word
      digits := List.forall_mem_append.mpr ⟨hkey.digits, fun _ => List.mem_takeWhile_imp⟩
      nonempty := List.append_ne_nil_of_left_ne_nil hkey.nonempty _
      ends := any_head?_dropWhile Char.isDigit _ }
  have hlength := hlonger.measurementKeyLength?
  rw [List.append_assoc, List.takeWhile_append_dropWhile, ← List.append_assoc ds,
    ← List.cons_append, ← List.append_assoc, h] at hlength
  cases hlength

theorem wordLength_front (h : wordLength (a ++ s) ≤ a.length) :
    wordLength a = wordLength (a ++ s) :=
  congrArg List.length (takeWhile_front h)

/-! ## Numbers -/

/-- Behind its mark a hexadecimal number is a run of digits. -/
theorem hexLength_mark {c : Char} (hc : (c = 'x' || c = 'X') = true) (r : List Char) :
    hexLength ('0' :: c :: r) =
      if (r.takeWhile Guid.isHexDigit).length = 0 then 0
      else 2 + (r.takeWhile Guid.isHexDigit).length := by
  rw [hexLength, if_pos hc]

theorem hexLength_of_ne_mark {c : Char} (hc : (c = 'x' || c = 'X') = false) (r : List Char) :
    hexLength ('0' :: c :: r) = 0 := by
  rw [hexLength, hc]
  rfl

theorem hexLength_of_ne_zero {c : Char} (hc : c ≠ '0') (r : List Char) : hexLength (c :: r) = 0 := by
  unfold hexLength
  split
  · next heq => exact absurd (List.cons_eq_cons.mp heq).1 hc
  · rfl

/-- What is as long as a hexadecimal number is a zero, a mark and digits. -/
theorem exists_of_hexLength (h : hexLength s ≠ 0) :
    ∃ c r, s = '0' :: c :: r ∧ (c = 'x' ∨ c = 'X') ∧ r.takeWhile Guid.isHexDigit ≠ [] ∧
      hexLength s = (r.takeWhile Guid.isHexDigit).length + 2 := by
  rcases s with _ | ⟨c, r⟩
  · exact absurd rfl h
  · by_cases hc : c = '0'
    · subst hc
      rcases r with _ | ⟨d, r⟩
      · exact absurd rfl h
      · cases hd : (d = 'x' || d = 'X') with
        | false => exact absurd (hexLength_of_ne_mark hd r) h
        | true =>
          rw [hexLength_mark hd] at h ⊢
          split at h
          · exact absurd rfl h
          · next hdigits =>
            refine ⟨d, r, rfl, by simpa using hd, fun hnil => hdigits ?_, ?_⟩
            · rw [hnil]
              rfl
            · rw [if_neg hdigits, Nat.add_comm]
    · exact absurd (hexLength_of_ne_zero hc r) h

theorem hexLength_front (h : hexLength (a ++ s) ≤ a.length) : hexLength a = hexLength (a ++ s) := by
  rcases a with _ | ⟨c, a⟩
  · exact (Nat.le_zero.mp h).symm
  · by_cases hc : c = '0'
    · subst hc
      rcases a with _ | ⟨d, r⟩
      · -- a mark with digits is longer than one character
        rcases s with _ | ⟨d, s⟩
        · rfl
        · cases hd : (d = 'x' || d = 'X') with
          | false => exact (hexLength_of_ne_mark hd s).symm
          | true =>
            change hexLength ('0' :: d :: s) ≤ 1 at h
            rw [hexLength_mark hd] at h
            show 0 = hexLength ('0' :: d :: s)
            rw [hexLength_mark hd]
            split at h
            · next hnone => rw [if_pos hnone]
            · omega
      · rw [List.cons_append, List.cons_append] at h ⊢
        cases hd : (d = 'x' || d = 'X') with
        | false => rw [hexLength_of_ne_mark hd, hexLength_of_ne_mark hd]
        | true =>
          rw [hexLength_mark hd] at h
          have hle : ((r ++ s).takeWhile Guid.isHexDigit).length ≤ r.length := by
            simp only [List.length_cons] at h
            split at h <;> omega
          rw [hexLength_mark hd, hexLength_mark hd, takeWhile_front hle]
    · rw [List.cons_append, hexLength_of_ne_zero hc, hexLength_of_ne_zero hc]

/-- Length of `n` digits with what follows them: a point and more digits, if there are any. -/
def withFraction (n : Nat) (s : List Char) : Nat :=
  match s with
  | '.' :: r =>
    let fraction := (r.takeWhile Char.isDigit).length
    if n = 0 ∧ fraction = 0 then 0 else n + 1 + fraction
  | _ => n

theorem digitsLength_eq (s : List Char) :
    digitsLength s =
      withFraction (s.takeWhile Char.isDigit).length (s.drop (s.takeWhile Char.isDigit).length) :=
  rfl

theorem withFraction_point (n : Nat) (r : List Char) :
    withFraction n ('.' :: r) =
      if n = 0 ∧ (r.takeWhile Char.isDigit).length = 0 then 0
      else n + 1 + (r.takeWhile Char.isDigit).length := rfl

theorem withFraction_of_ne {c : Char} (hc : c ≠ '.') (n : Nat) (r : List Char) :
    withFraction n (c :: r) = n := by
  unfold withFraction
  split
  · next heq => exact absurd (List.cons_eq_cons.mp heq).1 hc
  · rfl

theorem le_withFraction (n : Nat) (s : List Char) : n ≤ withFraction n s := by
  unfold withFraction
  split
  · dsimp only
    split <;> omega
  · exact Nat.le_refl n

theorem withFraction_front {n : Nat} (h : withFraction n (a ++ s) ≤ n + a.length) :
    withFraction n a = withFraction n (a ++ s) := by
  rcases a with _ | ⟨c, r⟩
  · -- a point would be one character too many
    rcases s with _ | ⟨c, s⟩
    · rfl
    · by_cases hc : c = '.'
      · subst hc
        rw [List.nil_append, withFraction_point] at h ⊢
        show n = _
        split at h
        · next hnone => rw [if_pos hnone, hnone.1]
        · simp only [List.length_nil] at h
          omega
      · exact (withFraction_of_ne hc n s).symm
  · by_cases hc : c = '.'
    · subst hc
      rw [List.cons_append, withFraction_point] at h
      have hle : ((r ++ s).takeWhile Char.isDigit).length ≤ r.length := by
        rw [List.length_cons] at h
        split at h <;> omega
      rw [List.cons_append, withFraction_point, withFraction_point, takeWhile_front hle]
    · rw [List.cons_append, withFraction_of_ne hc, withFraction_of_ne hc]

theorem digitsLength_front (h : digitsLength (a ++ s) ≤ a.length) :
    digitsLength a = digitsLength (a ++ s) := by
  rw [digitsLength_eq] at h
  have hle := Nat.le_trans (le_withFraction _ _) h
  rw [digitsLength_eq, digitsLength_eq, takeWhile_front hle, List.drop_append_of_le_length hle]
  apply withFraction_front
  rw [← List.drop_append_of_le_length hle, List.length_drop]
  omega

/-- Length of a sign, if there is one. -/
def signLength : List Char → Nat
  | d :: _ => if d = '+' || d = '-' then 1 else 0
  | [] => 0

theorem signLength_le (s : List Char) : signLength s ≤ s.length := by
  rcases s with _ | ⟨d, s⟩
  · exact Nat.le_refl 0
  · dsimp only [signLength]
    split <;> simp

/-- Behind its mark an exponent is a run of digits, perhaps with a sign in front. -/
theorem exponentLength_mark {c : Char} (hc : (c = 'e' || c = 'E') = true) (r : List Char) :
    exponentLength (c :: r) =
      if ((r.drop (signLength r)).takeWhile Char.isDigit).length = 0 then 0
      else 1 + signLength r + ((r.drop (signLength r)).takeWhile Char.isDigit).length := by
  rw [exponentLength.eq_def]
  exact if_pos hc

theorem exponentLength_of_ne_mark {c : Char} (hc : (c = 'e' || c = 'E') = false) (r : List Char) :
    exponentLength (c :: r) = 0 := by
  rw [exponentLength.eq_def]
  exact if_neg (Bool.eq_false_iff.mp hc)

theorem exponentLength_front (h : exponentLength (a ++ s) ≤ a.length) :
    exponentLength a = exponentLength (a ++ s) := by
  rcases a with _ | ⟨c, r⟩
  · exact (Nat.le_zero.mp h).symm
  · rw [List.cons_append] at h ⊢
    cases hc : (c = 'e' || c = 'E') with
    | false => rw [exponentLength_of_ne_mark hc, exponentLength_of_ne_mark hc]
    | true =>
      rw [exponentLength_mark hc] at h
      rw [exponentLength_mark hc, exponentLength_mark hc]
      rcases r with _ | ⟨d, r⟩
      · -- digits behind the mark are more than one character
        show 0 = _
        rw [List.nil_append, List.length_singleton] at h
        rw [List.nil_append]
        split at h
        · next hnone => rw [if_pos hnone]
        · omega
      · have hsign : signLength (d :: r ++ s) = signLength (d :: r) := rfl
        have hshort := signLength_le (d :: r)
        rw [hsign, List.drop_append_of_le_length hshort] at h ⊢
        have hle : (((d :: r).drop (signLength (d :: r)) ++ s).takeWhile Char.isDigit).length ≤
            ((d :: r).drop (signLength (d :: r))).length := by
          rw [List.length_cons] at h
          rw [List.length_drop]
          split at h <;> omega
        rw [takeWhile_front hle]

theorem hexLength_le_numberLength (s : List Char) : hexLength s ≤ numberLength s := by
  unfold numberLength
  dsimp only
  split <;> omega

theorem numberLength_front (h : numberLength (a ++ s) ≤ a.length) :
    numberLength a = numberLength (a ++ s) := by
  unfold numberLength at h ⊢
  dsimp only at h ⊢
  have hhex : hexLength a = hexLength (a ++ s) := by
    apply hexLength_front
    split at h <;> omega
  rw [hhex]
  split at h
  · next hmark => rw [if_pos hmark, if_pos hmark]
  · next hmark =>
    have hle : digitsLength (a ++ s) ≤ a.length := by omega
    rw [List.drop_append_of_le_length hle] at h ⊢
    have hexponent : exponentLength (a.drop (digitsLength (a ++ s)) ++ s) ≤
        (a.drop (digitsLength (a ++ s))).length := by
      rw [List.length_drop]
      omega
    rw [if_neg hmark, if_neg hmark, digitsLength_front hle, exponentLength_front hexponent]

theorem startsNumber_of_ne {c : Char} (hc : c ≠ '.') (r : List Char) :
    startsNumber (c :: r) = c.isDigit := by
  cases r with
  | nil => simp [startsNumber]
  | cons d r => simp [startsNumber, hc]

theorem digitsLength_le_numberLength {c : Char} (hc : c ≠ '0') (r : List Char) :
    digitsLength (c :: r) ≤ numberLength (c :: r) := by
  rw [numberLength, if_neg (not_not_intro (hexLength_of_ne_zero hc r))]
  exact Nat.le_add_right _ _

/-- A number that begins with a point goes on behind it. -/
theorem one_lt_numberLength_point {d : Char} (hd : d.isDigit = true) (r : List Char) :
    1 < numberLength ('.' :: d :: r) := by
  have hlength : digitsLength ('.' :: d :: r) = withFraction 0 ('.' :: d :: r) := rfl
  have hle := digitsLength_le_numberLength (c := '.') (by decide) (d :: r)
  rw [hlength, withFraction_point, List.takeWhile_cons_of_pos hd, List.length_cons,
    if_neg (by simp)] at hle
  omega

/-- A point alone begins no number, so the character behind it is a part of the number. -/
theorem startsNumber_front {c : Char} {r : List Char}
    (h : startsNumber (c :: (r ++ s)) = true → numberLength (c :: (r ++ s)) ≤ r.length + 1) :
    startsNumber (c :: r) = startsNumber (c :: (r ++ s)) := by
  by_cases hc : c = '.'
  · subst hc
    rcases r with _ | ⟨d, r⟩
    · rcases s with _ | ⟨d, s⟩
      · rfl
      · cases hd : d.isDigit with
        | true => exact absurd (one_lt_numberLength_point hd s) (Nat.not_lt_of_le (h hd))
        | false => exact hd.symm
    · rfl
  · rw [startsNumber_of_ne hc, startsNumber_of_ne hc]

theorem numberLength_pos (h : startsNumber s = true) : 0 < numberLength s := by
  rcases s with _ | ⟨c, s⟩
  · cases h
  · by_cases hc : c = '.'
    · subst hc
      rcases s with _ | ⟨d, s⟩
      · cases h
      · exact Nat.lt_of_succ_lt (one_lt_numberLength_point h s)
    · rw [startsNumber_of_ne hc] at h
      have hwhole := le_withFraction ((c :: s).takeWhile Char.isDigit).length
        ((c :: s).drop ((c :: s).takeWhile Char.isDigit).length)
      rw [← digitsLength_eq, List.takeWhile_cons_of_pos h, List.length_cons] at hwhole
      unfold numberLength
      dsimp only
      split <;> omega

/-! ## Quoted literals and symbols -/

theorem readDelimited?_pos {closing : Char} {doubled : Bool} {content : List Char} {n : Nat}
    (h : readDelimited? closing doubled s = some (content, n)) : 0 < n := by
  unfold readDelimited? at h
  split at h
  · cases h
  · split at h
    · split at h
      · split at h
        · obtain ⟨⟨inner, m⟩, -, heq⟩ := Option.map_eq_some_iff.mp h
          cases heq
          exact Nat.succ_pos _
        · cases h
          exact Nat.one_pos
      · cases h
        exact Nat.one_pos
    · obtain ⟨⟨inner, m⟩, -, heq⟩ := Option.map_eq_some_iff.mp h
      cases heq
      exact Nat.succ_pos _

theorem readDelimited?_front {closing : Char} {doubled : Bool} {content : List Char} {n : Nat}
    (h : readDelimited? closing doubled (a ++ s) = some (content, n)) (hn : n ≤ a.length) :
    readDelimited? closing doubled a = some (content, n) := by
  induction a using readDelimited?.induct closing doubled generalizing content n with
  | case1 => exact absurd hn (Nat.not_le_of_lt (readDelimited?_pos h))
  | case2 d rest hd ih =>
    simp only [List.cons_append, readDelimited?, if_true, hd] at h
    obtain ⟨⟨inner, m⟩, hinner, heq⟩ := Option.map_eq_some_iff.mp h
    cases heq
    have hm : m ≤ rest.length := by
      simp only [List.length_cons] at hn
      omega
    simp only [readDelimited?, if_true, hd, ih hinner hm, Option.map_some]
  | case3 d rest hd =>
    simp only [List.cons_append, readDelimited?, if_true, hd] at h
    simp only [readDelimited?, if_true, hd]
    exact h
  | case4 =>
    -- a second mark would be one character too many
    rcases s with _ | ⟨d, s⟩
    · exact h
    · by_cases hd : (doubled && decide (d = closing)) = true
      · simp only [List.cons_append, List.nil_append, readDelimited?, if_true, hd] at h
        obtain ⟨⟨inner, m⟩, -, heq⟩ := Option.map_eq_some_iff.mp h
        cases heq
        simp only [List.length_singleton] at hn
        omega
      · simp only [List.cons_append, List.nil_append, readDelimited?, if_true, hd] at h
        simp only [readDelimited?, if_true]
        exact h
  | case5 c rest hc ih =>
    rw [List.cons_append, readDelimited?_cons hc] at h
    obtain ⟨⟨inner, m⟩, hinner, heq⟩ := Option.map_eq_some_iff.mp h
    cases heq
    rw [readDelimited?_cons hc, ih hinner (Nat.le_of_succ_le_succ hn)]
    rfl

/-- The first spelling that a text begins with is the first one that its front begins with. -/
theorem atStart?_front {n : Nat} {symbol : Symbol} (h : Symbol.atStart? (a ++ s) = some (n, symbol))
    (hn : n ≤ a.length) : Symbol.atStart? a = some (n, symbol) := by
  have hfind (l : List (List Char × Symbol)) (x : List Char × Symbol)
      (hl : l.find? (·.1.isPrefixOf (a ++ s)) = some x) (hx : x.1.length ≤ a.length) :
      l.find? (·.1.isPrefixOf a) = some x := by
    induction l with
    | nil => cases hl
    | cons y l ih =>
      rw [List.find?_cons] at hl ⊢
      cases hy : y.1.isPrefixOf a with
      | true =>
        have hlonger : y.1.isPrefixOf (a ++ s) = true :=
          List.isPrefixOf_iff_prefix.mpr
            ((List.isPrefixOf_iff_prefix.mp hy).trans (List.prefix_append a s))
        rw [hlonger] at hl
        exact hl
      | false =>
        cases hlonger : y.1.isPrefixOf (a ++ s) with
        | true =>
          rw [hlonger] at hl
          cases hl
          -- it is short enough to lie in the front
          have hprefix := List.prefix_of_prefix_length_le
            (List.isPrefixOf_iff_prefix.mp hlonger) (List.prefix_append a s) hx
          rw [List.isPrefixOf_iff_prefix.mpr hprefix] at hy
          cases hy
        | false =>
          rw [hlonger] at hl
          exact ih hl
  obtain ⟨x, hx, heq⟩ := Option.map_eq_some_iff.mp h
  cases heq
  rw [Symbol.atStart?, hfind _ x hx hn]
  rfl

/-! ## Tokens -/

/-- The marks that open quoted literals and names in brackets, the marks that close them, whether two
of these stand for one, and the kinds of what is between them. -/
inductive Opening : Char → Char → Bool → (String → Kind) → Prop where
  | string : Opening '\x27' '\x27' true .string
  | pointTag : Opening '\x22' '\x22' true .pointTag
  | dateTime : Opening '#' '#' true .dateTime
  | bracket : Opening '[' ']' false .identifier

/-- The ways in which a text begins with a token. -/
inductive StartsToken (c : Char) (r : List Char) : Kind → Nat → Prop where
  | guid {n : Nat} (h : guidLength? (c :: r) = some n) :
      StartsToken c r (.guid (String.ofList ((c :: r).take n))) n
  | measurementKey {n : Nat} (hguid : guidLength? (c :: r) = none)
      (h : measurementKeyLength? (c :: r) = some n) :
      StartsToken c r (.measurementKey (String.ofList ((c :: r).take n))) n
  | number {kind : Kind} {n : Nat} (hguid : guidLength? (c :: r) = none)
      (hkey : measurementKeyLength? (c :: r) = none) (hstart : startsNumber (c :: r) = true)
      (h : readNumber (c :: r) = .token kind n) : StartsToken c r kind n
  | word {kind : Kind} {n : Nat} (hguid : guidLength? (c :: r) = none)
      (hstart : isWordStart c = true) (h : readWord (c :: r) = .token kind n) :
      StartsToken c r kind n
  | quoted {closing : Char} {doubled : Bool} {kindOf : String → Kind} {content : List Char}
      {n : Nat} (ho : Opening c closing doubled kindOf)
      (h : readDelimited? closing doubled r = some (content, n)) :
      StartsToken c r (kindOf (String.ofList content)) (n + 1)
  | symbol {kind : Kind} {n : Nat} (h : readSymbol (c :: r) = .token kind n) :
      StartsToken c r kind n

theorem startsToken_of_readQuoted {c closing : Char} {doubled : Bool} {kindOf : String → Kind}
    {what : String} {r : List Char} {kind : Kind} {length : Nat}
    (ho : Opening c closing doubled kindOf)
    (h : readQuoted closing doubled kindOf what r = .token kind length) :
    StartsToken c r kind length := by
  unfold readQuoted at h
  split at h
  · next content n hread =>
    cases h
    exact .quoted ho hread
  · cases h

theorem startsToken_of_readStart {c : Char} {r : List Char} {kind : Kind} {length : Nat}
    (h : readStart c r = .token kind length) : StartsToken c r kind length := by
  unfold readStart at h
  dsimp only at h
  split at h
  · next n hguid =>
    cases h
    exact .guid hguid
  · next n hguid hkey =>
    cases h
    exact .measurementKey hguid hkey
  · next hguid hkey =>
    split at h
    · next hstart => exact .number hguid hkey hstart h
    · split at h
      · next hword => exact .word hguid hword h
      · split at h
        · exact startsToken_of_readQuoted .string h
        · exact startsToken_of_readQuoted .pointTag h
        · exact startsToken_of_readQuoted .dateTime h
        · exact startsToken_of_readQuoted .bracket h
        · exact .symbol h

/-- Where a token begins in front of more text one may begin without it. -/
theorem gapLength_front {c : Char} {r : List Char} (h : gapLength (c :: (r ++ s)) = .ok 0) :
    gapLength (c :: r) = .ok 0 := by
  obtain ⟨hblank, hdash, hslash⟩ := start_of_gapLength h
  rw [gapLength_cons, hblank]
  · rfl
  · rintro u hc rfl
    exact hdash (u ++ s) hc rfl
  · rintro u hc rfl
    exact hslash (u ++ s) hc rfl

section

variable {c : Char} {r : List Char} {kind : Kind} {length : Nat}

theorem readNumber_front (h : readNumber (a ++ s) = .token kind length) (hle : length ≤ a.length) :
    readNumber a = .token kind length := by
  rw [length_of_readNumber h] at hle
  have hlength := numberLength_front hle
  have hhex : hexLength a = hexLength (a ++ s) :=
    hexLength_front (Nat.le_trans (hexLength_le_numberLength _) hle)
  unfold readNumber at h ⊢
  dsimp only at h ⊢
  rw [List.drop_append_of_le_length hle, List.take_append_of_le_length hle] at h
  rw [hlength, hhex]
  split at h
  · cases h
  · next hword =>
    rw [any_head?_of_append (Bool.eq_false_iff.mpr hword)]
    exact h

theorem readWord_front (h : readWord (a ++ s) = .token kind length) (hle : length ≤ a.length) :
    readWord a = .token kind length := by
  rw [length_of_readWord h] at hle
  unfold readWord at h ⊢
  dsimp only at h ⊢
  rw [wordLength_front hle]
  rwa [List.take_append_of_le_length hle] at h

theorem readQuoted_front {closing : Char} {doubled : Bool} {kindOf : String → Kind} {what : String}
    (h : readQuoted closing doubled kindOf what (r ++ s) = .token kind length)
    (hle : length ≤ r.length + 1) :
    readQuoted closing doubled kindOf what r = .token kind length := by
  unfold readQuoted at h ⊢
  split at h
  · next content n hread =>
    cases h
    rw [readDelimited?_front hread (Nat.le_of_succ_le_succ hle)]
  · cases h

theorem pos_of_readSymbol (h : readSymbol s = .token kind length) : 0 < length := by
  unfold readSymbol at h
  split at h
  · next n symbol hstart =>
    cases h
    obtain ⟨x, hfind, heq⟩ := Option.map_eq_some_iff.mp hstart
    cases heq
    exact List.length_pos_iff.mpr ((by decide : ∀ x ∈ Symbol.spellings, x.1 ≠ []) x
      (List.mem_of_find?_eq_some hfind))
  · cases h

theorem readSymbol_front (h : readSymbol (a ++ s) = .token kind length) (hle : length ≤ a.length) :
    readSymbol a = .token kind length := by
  unfold readSymbol at h ⊢
  split at h
  · next n symbol hstart =>
    cases h
    rw [atStart?_front hstart hle]
  · cases h

/-- Braces begin nothing but an identifier. -/
theorem readStart_brace (h : guidLength? ('\x7b' :: r) = none) :
    readStart '\x7b' r = .unexpected 1 0 := by
  rw [readStart.eq_def]
  dsimp only
  rw [h]
  rfl

/-- A token has at least one character. -/
theorem pos_of_readStart (h : readStart c r = .token kind length) : 0 < length := by
  cases startsToken_of_readStart h with
  | guid hguid =>
    obtain ⟨t, rest, ht, -, hlength, -⟩ := guidLength?_eq_some_iff.mp hguid
    rw [← hlength]
    rcases ht with ht | ⟨u, rfl, -⟩
    · rw [ht.length_eq]
      decide
    · exact Nat.succ_pos _
  | measurementKey _ hkey =>
    obtain ⟨w, ds, rest, -, -, rfl⟩ := exists_isKey hkey
    omega
  | number _ _ hstart hread => exact length_of_readNumber hread ▸ numberLength_pos hstart
  | word _ hstart hread =>
    rw [length_of_readWord hread, wordLength,
      List.takeWhile_cons_of_pos (isWordChar_of_isWordStart hstart)]
    exact Nat.succ_pos _
  | quoted => exact Nat.succ_pos _
  | symbol hread => exact pos_of_readSymbol hread

/-- A token that lies in the front is read there, unless the front is an identifier that a word
character follows. -/
theorem readStart_front (h : readStart c (r ++ s) = .token kind length)
    (hle : length ≤ r.length + 1)
    (hguid : s.head?.any isWordChar = true → ¬ Guid.IsHyphenated (c :: r)) :
    readStart c r = .token kind length := by
  have hnone (hlonger : guidLength? (c :: r ++ s) = none) : guidLength? (c :: r) = none := by
    refine guidLength?_front_eq_none hlonger fun hword ht => ?_
    rcases ht with ht | ⟨u, hu, -⟩
    · exact hguid hword ht
    · obtain ⟨rfl, -⟩ := List.cons_eq_cons.mp hu
      have hread := readStart_brace hlonger
      change readStart '\x7b' (r ++ s) = _ at hread
      rw [hread] at h
      cases h
  unfold readStart at h ⊢
  dsimp only at h ⊢
  rw [← List.cons_append] at h
  split at h
  · next n hn =>
    cases h
    rw [guidLength?_front hn hle, List.take_append_of_le_length hle]
  · next n hn hkey =>
    cases h
    rw [hnone hn, measurementKeyLength?_front hkey hle, List.take_append_of_le_length hle]
  · next hn hkey =>
    rw [hnone hn, measurementKeyLength?_front_eq_none hkey]
    dsimp only
    split at h
    · next hnumber =>
      have hlength : numberLength (c :: r ++ s) ≤ r.length + 1 := length_of_readNumber h ▸ hle
      rw [if_pos ((startsNumber_front fun _ => hlength).trans hnumber)]
      exact readNumber_front h hle
    · next hnumber =>
      have hstart : startsNumber (c :: r) = startsNumber (c :: r ++ s) :=
        startsNumber_front fun hstart => absurd hstart hnumber
      rw [hstart, if_neg hnumber]
      split at h
      · next hword =>
        rw [if_pos hword]
        exact readWord_front h hle
      · next hword =>
        rw [if_neg hword]
        split at h
        · exact readQuoted_front h hle
        · exact readQuoted_front h hle
        · exact readQuoted_front h hle
        · exact readQuoted_front h hle
        · exact readSymbol_front h hle

end

end RowFilter.Token
