import RowFilter.Proofs.Token.Stream

/-!
Texts with another text behind them. No scanner looks across a line break, a space, a parenthesis or
a comma: a token that one of them follows ends where it did. On a new line the text behind falls
into the tokens that it has on its own, and so does the one in front.
-/

namespace RowFilter.Token

open Text (Position)

/-- Characters that end every token before them, quoted ones and comments apart. -/
def breaks : List Char := ['\n', ' ', '(', ')', ',']

/-- They are few, so that what is to hold of each of them can be tried out. -/
theorem forall_mem_breaks {P : Char → Prop} (hP : P '\n' ∧ P ' ' ∧ P '(' ∧ P ')' ∧ P ',')
    {b : Char} (hb : b ∈ breaks) : P b := by
  have hall : ∀ c ∈ breaks, P c := by
    simpa [breaks] using hP
  exact hall b hb

theorem isDigit_of_mem_breaks {b : Char} (hb : b ∈ breaks) : b.isDigit = false :=
  forall_mem_breaks (P := fun c => c.isDigit = false) (by decide) hb

theorem isHexDigit_of_mem_breaks {b : Char} (hb : b ∈ breaks) : Guid.isHexDigit b = false :=
  forall_mem_breaks (P := fun c => Guid.isHexDigit c = false) (by decide) hb

theorem isWordChar_of_mem_breaks {b : Char} (hb : b ∈ breaks) : isWordChar b = false :=
  forall_mem_breaks (P := fun c => isWordChar c = false) (by decide) hb

theorem ne_of_mem_breaks {b c : Char} (hb : b ∈ breaks) (hc : c ∉ breaks) : c ≠ b :=
  fun h => hc (h ▸ hb)

/-! ## Scanners

Each scanner gives the same length whether or not one of these characters and anything else follow.
-/

section

variable {b : Char} (t : List Char)

/-- Characters that the next one is not one of. -/
theorem takeWhile_append_break {p : Char → Bool} (hp : p b = false) (s : List Char) :
    (s ++ b :: t).takeWhile p = s.takeWhile p := by
  induction s with
  | nil => exact List.takeWhile_cons_of_neg (by simp [hp])
  | cons c s ih =>
    cases hc : p c with
    | true => simp [hc, ih]
    | false => simp [hc]

theorem drop_append_break {s : List Char} {n : Nat} (h : n ≤ s.length) :
    (s ++ b :: t).drop n = s.drop n ++ b :: t :=
  List.drop_append_of_le_length h

theorem take_append_break {s : List Char} {n : Nat} (h : n ≤ s.length) :
    (s ++ b :: t).take n = s.take n :=
  List.take_append_of_le_length h

theorem length_takeWhile_le (p : Char → Bool) (s : List Char) :
    (s.takeWhile p).length ≤ s.length :=
  (List.takeWhile_prefix p).length_le

/-- What follows a lexeme is tested by its first character. -/
theorem any_head?_append_break {p : Char → Bool} (hp : p b = false) (s : List Char) :
    (s ++ b :: t).head?.any p = s.head?.any p := by
  cases s with
  | nil => simpa using hp
  | cons c s => rfl

/-! ### Identifiers -/

/-- What follows a mark that a text begins with. -/
def afterMark? (mark : Char) (s : List Char) : Option (List Char) :=
  if s.head? = some mark then some s.tail else none

theorem afterMark?_append_break {mark : Char} (hmark : mark ≠ b) (s : List Char) :
    afterMark? mark (s ++ b :: t) = (afterMark? mark s).map (· ++ b :: t) := by
  cases s with
  | nil =>
    have hbreak : some b ≠ some mark := fun h => hmark (Option.some.inj h).symm
    exact if_neg hbreak
  | cons c s =>
    by_cases hc : some c = some mark
    · rw [afterMark?, afterMark?, List.cons_append, List.head?_cons, List.head?_cons, if_pos hc,
        if_pos hc]
      rfl
    · rw [afterMark?, afterMark?, List.cons_append, List.head?_cons, List.head?_cons, if_neg hc,
        if_neg hc]
      rfl

/-- Behind a group that is not the last one come a hyphen and the other groups. -/
theorem afterGroups?_cons_cons (s : List Char) (n m : Nat) (groups : List Nat) :
    afterGroups? s (n :: m :: groups) =
      if (s.take n).length = n ∧ (s.take n).all Guid.isHexDigit then
        (afterMark? '-' (s.drop n)).bind fun r => afterGroups? r (m :: groups)
      else none := by
  rw [afterGroups?.eq_def]
  dsimp only
  split
  · cases s.drop n with
    | nil => rfl
    | cons c r =>
      by_cases hc : c = '-'
      · subst hc
        rfl
      · have hmark : afterMark? '-' (c :: r) = none := if_neg fun h => hc (Option.some.inj h)
        rw [hmark]
        split
        · next heq => cases heq
        · next heq => exact absurd (List.cons_eq_cons.mp heq).1 hc
        · rfl
  · rfl

theorem afterGroups?_append_break (hb : b ∈ breaks) (s : List Char) (groups : List Nat) :
    afterGroups? (s ++ b :: t) groups = (afterGroups? s groups).map (· ++ b :: t) := by
  induction groups generalizing s with
  | nil => rfl
  | cons n groups ih =>
    by_cases hn : n ≤ s.length
    · cases groups with
      | nil =>
        rw [afterGroups?, afterGroups?, take_append_break t hn, drop_append_break t hn]
        split <;> rfl
      | cons m groups =>
        rw [afterGroups?_cons_cons, afterGroups?_cons_cons, take_append_break t hn,
          drop_append_break t hn, afterMark?_append_break t (ne_of_mem_breaks hb (by decide))]
        split
        · cases afterMark? '-' (s.drop n) with
          | none => rfl
          | some r => exact ih r
        · rfl
    -- the group is not complete, and what ends it is no digit
    · have hleft : afterGroups? s (n :: groups) = none := by
        unfold afterGroups?
        apply if_neg
        rintro ⟨hlength, -⟩
        rw [List.length_take] at hlength
        omega
      have hright : afterGroups? (s ++ b :: t) (n :: groups) = none := by
        unfold afterGroups?
        apply if_neg
        rintro ⟨-, hall⟩
        obtain ⟨k, hk⟩ : ∃ k, n - s.length = k + 1 := ⟨n - s.length - 1, by omega⟩
        rw [List.take_append, hk, List.take_succ_cons, List.all_append, List.all_cons] at hall
        have hdigit := isHexDigit_of_mem_breaks hb
        simp [hdigit] at hall
      rw [hleft, hright]
      rfl

/-- What follows an identifier, with braces around it or without. -/
def afterGuid? (s : List Char) : Option (List Char) :=
  match s with
  | '\x7b' :: r =>
    match afterGroups? r guidGroups with
    | some ('\x7d' :: rest) => some rest
    | _ => none
  | s => afterGroups? s guidGroups

theorem guidLength?_eq (s : List Char) :
    guidLength? s = ((afterGuid? s).filter fun rest => !rest.head?.any isWordChar).map
      fun rest => s.length - rest.length := rfl

theorem afterGuid?_of_ne {c : Char} (hc : c ≠ '\x7b') (r : List Char) :
    afterGuid? (c :: r) = afterGroups? (c :: r) guidGroups := by
  unfold afterGuid?
  split
  · next heq => exact absurd (List.cons_eq_cons.mp heq).1 hc
  · rfl

/-- Behind an opening brace come the groups and a closing one. -/
theorem afterGuid?_brace (r : List Char) :
    afterGuid? ('\x7b' :: r) = (afterGroups? r guidGroups).bind (afterMark? '\x7d') := by
  unfold afterGuid?
  split
  · next r' heq =>
    rw [(List.cons_eq_cons.mp heq).2]
    cases afterGroups? r' guidGroups with
    | none => rfl
    | some rest =>
      cases rest with
      | nil => rfl
      | cons c rest =>
        by_cases hc : c = '\x7d'
        · subst hc
          rfl
        · have hmark : afterMark? '\x7d' (c :: rest) = none :=
            if_neg fun h => hc (Option.some.inj h)
          rw [Option.bind_some, hmark]
          split
          · next heq => exact absurd (List.cons_eq_cons.mp (Option.some.inj heq)).1 hc
          · rfl
  · next hother => exact absurd rfl (hother r)

theorem afterGuid?_append_break (hb : b ∈ breaks) (s : List Char) :
    afterGuid? (s ++ b :: t) = (afterGuid? s).map (· ++ b :: t) := by
  cases s with
  | nil =>
    exact (afterGuid?_of_ne (ne_of_mem_breaks hb (by decide)).symm t).trans
      (afterGroups?_append_break t hb [] guidGroups)
  | cons c r =>
    by_cases hc : c = '\x7b'
    · rw [hc, List.cons_append, afterGuid?_brace, afterGuid?_brace, afterGroups?_append_break t hb]
      cases afterGroups? r guidGroups with
      | none => rfl
      | some rest => exact afterMark?_append_break t (ne_of_mem_breaks hb (by decide)) rest
    · rw [List.cons_append, afterGuid?_of_ne hc, afterGuid?_of_ne hc, ← List.cons_append]
      exact afterGroups?_append_break t hb (c :: r) guidGroups

theorem guidLength?_append_break (hb : b ∈ breaks) (s : List Char) :
    guidLength? (s ++ b :: t) = guidLength? s := by
  rw [guidLength?_eq, guidLength?_eq, afterGuid?_append_break t hb]
  cases afterGuid? s with
  | none => rfl
  | some rest =>
    have hfollows : (rest ++ b :: t).head?.any isWordChar = rest.head?.any isWordChar :=
      any_head?_append_break t (isWordChar_of_mem_breaks hb) rest
    have hlength : (s ++ b :: t).length - (rest ++ b :: t).length =
        s.length - rest.length := by
      simp only [List.length_append]
      omega
    rw [Option.map_some, Option.filter_some, Option.filter_some, hfollows]
    split
    · exact congrArg some hlength
    · rfl

/-! ### Words, keys and numbers -/

theorem wordLength_append_break (hb : b ∈ breaks) (s : List Char) :
    wordLength (s ++ b :: t) = wordLength s := by
  rw [wordLength, takeWhile_append_break t (isWordChar_of_mem_breaks hb), wordLength]

theorem wordLength_le (s : List Char) : wordLength s ≤ s.length :=
  length_takeWhile_le _ s

theorem measurementKeyLength?_append_break (hb : b ∈ breaks) (s : List Char) :
    measurementKeyLength? (s ++ b :: t) = measurementKeyLength? s := by
  unfold measurementKeyLength?
  dsimp only
  have hstart : isWordStart b = false :=
    forall_mem_breaks (P := fun c => isWordStart c = false) (by decide) hb
  rw [any_head?_append_break t hstart, wordLength_append_break t hb,
    drop_append_break t (wordLength_le s)]
  split
  · cases hdrop : s.drop (wordLength s) with
    | nil => simp [(ne_of_mem_breaks hb (c := ':') (by decide)).symm]
    | cons c r =>
      by_cases hc : c = ':'
      · rw [hc]
        simp only [List.cons_append,
          takeWhile_append_break t (p := Char.isDigit) (isDigit_of_mem_breaks hb)]
      · simp [hc]
  · rfl

theorem startsNumber_append_break (hb : b ∈ breaks) (s : List Char) :
    startsNumber (s ++ b :: t) = startsNumber s := by
  have hpoint : b ≠ '.' := (ne_of_mem_breaks hb (by decide)).symm
  have hdigit := isDigit_of_mem_breaks hb
  -- a point at the end is followed by no digit still
  rcases s with _ | ⟨c, _ | ⟨d, r⟩⟩
  · simp [startsNumber, hpoint, hdigit]
  · by_cases hc : c = '.'
    · subst hc
      exact hdigit
    · simp [startsNumber, hc]
  · by_cases hc : c = '.'
    · rw [hc]
      rfl
    · simp [startsNumber, hc]

theorem hexLength_append_break (hb : b ∈ breaks) (s : List Char) :
    hexLength (s ++ b :: t) = hexLength s := by
  have hmark : b ≠ 'x' ∧ b ≠ 'X' :=
    ⟨(ne_of_mem_breaks hb (by decide)).symm, (ne_of_mem_breaks hb (by decide)).symm⟩
  have hzero : b ≠ '0' := (ne_of_mem_breaks hb (by decide)).symm
  rcases s with _ | ⟨c, _ | ⟨d, r⟩⟩
  · simp [hexLength, hzero]
  · by_cases hc : c = '0'
    · simp [hexLength, hc, hmark]
    · simp [hexLength, hc]
  · by_cases hc : c = '0'
    · rw [hc]
      simp only [List.cons_append, hexLength,
        takeWhile_append_break t (p := Guid.isHexDigit) (isHexDigit_of_mem_breaks hb)]
    · simp [hexLength, hc]

theorem digitsLength_append_break (hb : b ∈ breaks) (s : List Char) :
    digitsLength (s ++ b :: t) = digitsLength s := by
  have hdigits := takeWhile_append_break t (p := Char.isDigit) (isDigit_of_mem_breaks hb)
  unfold digitsLength
  dsimp only
  rw [hdigits, drop_append_break t (length_takeWhile_le Char.isDigit s)]
  cases s.drop (s.takeWhile Char.isDigit).length with
  | nil => simp [(ne_of_mem_breaks hb (c := '.') (by decide)).symm]
  | cons c r =>
    by_cases hc : c = '.'
    · rw [hc]
      simp only [List.cons_append, hdigits]
    · simp [hc]

theorem exponentLength_append_break (hb : b ∈ breaks) (s : List Char) :
    exponentLength (s ++ b :: t) = exponentLength s := by
  have hmark : b ≠ 'e' ∧ b ≠ 'E' :=
    ⟨(ne_of_mem_breaks hb (by decide)).symm, (ne_of_mem_breaks hb (by decide)).symm⟩
  have hsign : b ≠ '+' ∧ b ≠ '-' :=
    ⟨(ne_of_mem_breaks hb (by decide)).symm, (ne_of_mem_breaks hb (by decide)).symm⟩
  have hdigits := takeWhile_append_break t (p := Char.isDigit) (isDigit_of_mem_breaks hb)
  -- a mark at the end is followed by no digits still
  have hbreak : (b :: t).takeWhile Char.isDigit = [] := hdigits []
  rcases s with _ | ⟨c, _ | ⟨d, r⟩⟩
  · simp [exponentLength, hmark]
  · simp [exponentLength, hbreak, hsign]
  · unfold exponentLength
    simp only [List.cons_append]
    split
    · split
      · simp only [List.drop_succ_cons, List.drop_zero, hdigits]
      · simp only [List.drop_zero, ← List.cons_append, hdigits]
    · rfl

theorem digitsLength_le (s : List Char) : digitsLength s ≤ s.length := by
  have hwhole := length_takeWhile_le Char.isDigit s
  unfold digitsLength
  dsimp only
  split
  · next r hdrop =>
    have hlength := congrArg List.length hdrop
    have hfraction := length_takeWhile_le Char.isDigit r
    simp only [List.length_drop, List.length_cons] at hlength
    split <;> omega
  · exact hwhole

theorem exponentLength_le (s : List Char) : exponentLength s ≤ s.length := by
  unfold exponentLength
  split
  · next c r =>
    dsimp only
    split
    · have hdigits (n : Nat) := length_takeWhile_le Char.isDigit (r.drop n)
      simp only [List.length_drop] at hdigits
      split
      · split
        · have := hdigits 1
          split <;> simp only [List.length_cons] at * <;> omega
        · have := hdigits 0
          split <;> simp only [List.length_cons] at * <;> omega
      · simp
    · exact Nat.zero_le _
  · exact Nat.zero_le _

theorem hexLength_le (s : List Char) : hexLength s ≤ s.length := by
  unfold hexLength
  split
  · next c r =>
    have hdigits := length_takeWhile_le Guid.isHexDigit r
    dsimp only
    split
    · split <;> simp only [List.length_cons] <;> omega
    · exact Nat.zero_le _
  · exact Nat.zero_le _

theorem numberLength_append_break (hb : b ∈ breaks) (s : List Char) :
    numberLength (s ++ b :: t) = numberLength s := by
  unfold numberLength
  dsimp only
  rw [hexLength_append_break t hb, digitsLength_append_break t hb,
    drop_append_break t (digitsLength_le s), exponentLength_append_break t hb]

theorem numberLength_le (s : List Char) : numberLength s ≤ s.length := by
  have hhex := hexLength_le s
  have hdigits := digitsLength_le s
  have hexponent := exponentLength_le (s.drop (digitsLength s))
  rw [List.length_drop] at hexponent
  unfold numberLength
  dsimp only
  split <;> omega

/-! ### Quoted literals and symbols -/

/-- A literal that is closed stays closed where it was: what follows is no second mark. -/
theorem readDelimited?_append_break {closing : Char} (hclosing : closing ≠ b) {doubled : Bool}
    {s content : List Char} {n : Nat} (h : readDelimited? closing doubled s = some (content, n)) :
    readDelimited? closing doubled (s ++ b :: t) = some (content, n) ∧ n ≤ s.length := by
  induction s using readDelimited?.induct closing doubled generalizing content n with
  | case1 => cases h
  | case2 d rest hd ih =>
    simp only [readDelimited?, if_true, hd] at h
    obtain ⟨⟨inner, m⟩, hinner, heq⟩ := Option.map_eq_some_iff.mp h
    cases heq
    obtain ⟨happend, hle⟩ := ih hinner
    constructor
    · simp only [List.cons_append, readDelimited?, if_true, hd, happend, Option.map_some]
    · simp only [List.length_cons]
      omega
  | case3 d rest hd =>
    simp only [readDelimited?, if_true, hd] at h
    cases h
    exact ⟨by simp only [List.cons_append, readDelimited?, if_true, hd]; rfl, by simp⟩
  | case4 =>
    simp only [readDelimited?, if_true] at h
    cases h
    have hbreak : ¬ (doubled && decide (b = closing)) = true := by simp [hclosing.symm]
    exact ⟨by simp only [List.cons_append, List.nil_append, readDelimited?, if_true, hbreak]; rfl,
      by simp⟩
  | case5 c rest hc ih =>
    rw [readDelimited?_cons hc] at h
    obtain ⟨⟨inner, m⟩, hinner, heq⟩ := Option.map_eq_some_iff.mp h
    cases heq
    obtain ⟨happend, hle⟩ := ih hinner
    constructor
    · rw [List.cons_append, readDelimited?_cons hc, happend]
      rfl
    · simp only [List.length_cons]
      omega

theorem isPrefixOf_append_break {w : List Char} (hw : b ∉ w) (s : List Char) :
    w.isPrefixOf (s ++ b :: t) = w.isPrefixOf s := by
  induction w generalizing s with
  | nil => simp
  | cons a w ih =>
    obtain ⟨ha, hw⟩ : b ≠ a ∧ b ∉ w := by simpa using hw
    cases s with
    | nil => simp [List.isPrefixOf, ha.symm]
    | cons c s => simp only [List.cons_append, List.isPrefixOf, ih hw]

/-- No symbol has such a character behind its first one. -/
theorem atStart?_append_break (hb : b ∈ breaks) (c : Char) (s : List Char) :
    Symbol.atStart? (c :: (s ++ b :: t)) = Symbol.atStart? (c :: s) := by
  have hspellings : ∀ spelling ∈ Symbol.spellings, spelling.1 ≠ [] ∧ b ∉ spelling.1.tail :=
    fun spelling hmem =>
      ⟨(by decide : ∀ x ∈ Symbol.spellings, x.1 ≠ []) spelling hmem,
        forall_mem_breaks (P := fun c => ∀ x ∈ Symbol.spellings, c ∉ x.1.tail) (by decide) hb
          spelling hmem⟩
  have hfind (l : List (List Char × Symbol))
      (hl : ∀ spelling ∈ l, spelling.1 ≠ [] ∧ b ∉ spelling.1.tail) :
      l.find? (·.1.isPrefixOf (c :: (s ++ b :: t))) = l.find? (·.1.isPrefixOf (c :: s)) := by
    induction l with
    | nil => rfl
    | cons spelling l ih =>
      obtain ⟨⟨hne, htail⟩, hl⟩ := List.forall_mem_cons.mp hl
      obtain ⟨a, w, hw⟩ := List.exists_cons_of_ne_nil hne
      rw [hw, List.tail_cons] at htail
      simp only [List.find?_cons, hw, List.isPrefixOf, isPrefixOf_append_break t htail, ih hl]
  rw [Symbol.atStart?, hfind _ hspellings, Symbol.atStart?]

theorem atStart?_le {s : List Char} {n : Nat} {symbol : Symbol}
    (h : Symbol.atStart? s = some (n, symbol)) : n ≤ s.length := by
  obtain ⟨⟨spelling, other⟩, hfind, heq⟩ := Option.map_eq_some_iff.mp h
  cases heq
  have hprefix : spelling.isPrefixOf s = true :=
    List.find?_some (p := fun x : List Char × Symbol => x.1.isPrefixOf s) hfind
  exact (List.isPrefixOf_iff_prefix.mp hprefix).length_le

/-! ## Tokens -/

theorem guidLength?_le {s : List Char} {n : Nat} (h : guidLength? s = some n) : n ≤ s.length := by
  obtain ⟨rest, -, rfl⟩ := Option.map_eq_some_iff.mp h
  exact Nat.sub_le _ _

theorem measurementKeyLength?_le {s : List Char} {n : Nat}
    (h : measurementKeyLength? s = some n) : n ≤ s.length := by
  unfold measurementKeyLength? at h
  dsimp only at h
  split at h
  · split at h
    · next r hdrop =>
      have hlength := congrArg List.length hdrop
      have hdigits := length_takeWhile_le Char.isDigit r
      simp only [List.length_drop, List.length_cons] at hlength
      split at h
      · cases h
      · cases h
        omega
    · cases h
  · cases h

theorem readNumber_append_break (hb : b ∈ breaks) (s : List Char) :
    readNumber (s ++ b :: t) = readNumber s := by
  unfold readNumber
  dsimp only
  rw [numberLength_append_break t hb, drop_append_break t (numberLength_le s),
    take_append_break t (numberLength_le s),
    any_head?_append_break t (isWordChar_of_mem_breaks hb), hexLength_append_break t hb]

theorem length_of_readNumber {s : List Char} {kind : Kind} {length : Nat}
    (h : readNumber s = .token kind length) : length = numberLength s := by
  unfold readNumber at h
  dsimp only at h
  split at h
  · cases h
  · split at h <;> cases h <;> rfl

theorem readWord_append_break (hb : b ∈ breaks) (s : List Char) :
    readWord (s ++ b :: t) = readWord s := by
  unfold readWord
  dsimp only
  rw [wordLength_append_break t hb, take_append_break t (wordLength_le s)]

theorem length_of_readWord {s : List Char} {kind : Kind} {length : Nat}
    (h : readWord s = .token kind length) : length = wordLength s := by
  unfold readWord at h
  dsimp only at h
  split at h <;> cases h <;> rfl

theorem readQuoted_append_break {closing : Char} (hclosing : closing ≠ b) {doubled : Bool}
    {kindOf : String → Kind} {what : String} {r : List Char} {kind : Kind} {length : Nat}
    (h : readQuoted closing doubled kindOf what r = .token kind length) :
    readQuoted closing doubled kindOf what (r ++ b :: t) = .token kind length ∧
      length ≤ r.length + 1 := by
  unfold readQuoted at h ⊢
  split at h
  · next content n hread =>
    cases h
    obtain ⟨happend, hle⟩ := readDelimited?_append_break t hclosing hread
    rw [happend]
    exact ⟨rfl, Nat.succ_le_succ hle⟩
  · cases h

theorem readSymbol_append_break (hb : b ∈ breaks) (c : Char) (s : List Char) :
    readSymbol (c :: (s ++ b :: t)) = readSymbol (c :: s) := by
  rw [readSymbol, atStart?_append_break t hb, readSymbol]

theorem length_of_readSymbol {s : List Char} {kind : Kind} {length : Nat}
    (h : readSymbol s = .token kind length) : length ≤ s.length := by
  unfold readSymbol at h
  split at h
  · next n symbol hstart =>
    cases h
    exact atStart?_le hstart
  · cases h

/-- A token ends where it did, within its text. -/
theorem readStart_append_break (hb : b ∈ breaks) {c : Char} {r : List Char} {kind : Kind}
    {length : Nat} (h : readStart c r = .token kind length) :
    readStart c (r ++ b :: t) = .token kind length ∧ length ≤ r.length + 1 := by
  unfold readStart at h ⊢
  dsimp only at h ⊢
  rw [← List.cons_append, guidLength?_append_break t hb, measurementKeyLength?_append_break t hb,
    startsNumber_append_break t hb]
  split at h
  · next n hguid =>
    cases h
    rw [take_append_break t (guidLength?_le hguid)]
    exact ⟨rfl, guidLength?_le hguid⟩
  · next n hkey =>
    cases h
    rw [take_append_break t (measurementKeyLength?_le hkey)]
    exact ⟨rfl, measurementKeyLength?_le hkey⟩
  · split at h
    · next hnumber =>
      rw [if_pos hnumber, readNumber_append_break t hb, h]
      exact ⟨rfl, length_of_readNumber h ▸ numberLength_le (c :: r)⟩
    · next hnumber =>
      rw [if_neg hnumber]
      split at h
      · next hword =>
        rw [if_pos hword, readWord_append_break t hb, h]
        exact ⟨rfl, length_of_readWord h ▸ wordLength_le (c :: r)⟩
      · next hword =>
        rw [if_neg hword, List.cons_append, readSymbol_append_break t hb]
        split at h
        · exact readQuoted_append_break t (ne_of_mem_breaks hb (by decide)) h
        · exact readQuoted_append_break t (ne_of_mem_breaks hb (by decide)) h
        · exact readQuoted_append_break t (ne_of_mem_breaks hb (by decide)) h
        · exact readQuoted_append_break t (ne_of_mem_breaks hb (by decide)) h
        · exact ⟨h, length_of_readSymbol h⟩

/-! ## Gaps -/

/-- A character that comes first and is no line break came first before. -/
theorem eq_cons_of_append_break {s u : List Char} {c : Char} (hc : c ≠ '\n')
    (h : s ++ '\n' :: t = c :: u) : ∃ r, s = c :: r := by
  cases s with
  | nil => exact absurd (List.cons_eq_cons.mp h).1.symm hc
  | cons d s => exact ⟨s, by rw [(List.cons_eq_cons.mp h).1]⟩

theorem blockLength?_append_break {s : List Char} {n : Nat} (h : blockLength? s = some n) :
    blockLength? (s ++ '\n' :: t) = some n ∧ n ≤ s.length := by
  induction s using blockLength?.induct generalizing n with
  | case1 tail =>
    cases h
    exact ⟨rfl, by simp⟩
  | case2 c s hother ih =>
    rw [blockLength?.eq_2 _ _ hother] at h
    obtain ⟨m, hm, rfl⟩ := Option.map_eq_some_iff.mp h
    obtain ⟨happend, hle⟩ := ih hm
    refine ⟨?_, Nat.succ_le_succ hle⟩
    -- the end of the text is no mark, and the line break makes none of it
    have hbreak : ∀ tail, c = '*' → s ++ '\n' :: t = '/' :: tail → False := by
      intro tail hc hs
      obtain ⟨r, hr⟩ := eq_cons_of_append_break t (by decide) hs
      exact hother r hc hr
    rw [List.cons_append, blockLength?.eq_2 _ _ hbreak, happend]
    rfl
  | case3 => cases h

/-- What is known of a gap with something behind it: it goes on behind a text that is all gap, and
else it ends where it did. -/
def GapGoesOn (s : List Char) (n : Nat) : Prop :=
  n ≤ s.length ∧ gapLength (s ++ '\n' :: t) =
    if n = s.length then gapLength.shift (n + 1) (gapLength t) else .ok n

/-- A part of a gap in front of the rest of it. -/
theorem GapGoesOn.shift {r s : List Char} {m n : Nat} (hlength : s.length = m + r.length)
    (happend : gapLength (s ++ '\n' :: t) = gapLength.shift m (gapLength (r ++ '\n' :: t)))
    (hr : ∀ k, gapLength r = .ok k → GapGoesOn t r k)
    (h : gapLength.shift m (gapLength r) = .ok n) : GapGoesOn t s n := by
  cases hgap : gapLength r with
  | error k =>
    rw [hgap] at h
    cases h
  | ok k =>
    rw [hgap] at h
    cases h
    obtain ⟨hle, hrest⟩ := hr k hgap
    refine ⟨by omega, ?_⟩
    rw [happend, hrest, hlength]
    by_cases hk : k = r.length
    · rw [if_pos hk, if_pos (by omega)]
      cases gapLength t with
      | ok j => exact congrArg Except.ok (by omega)
      | error j => exact congrArg Except.error (by omega)
    · rw [if_neg hk, if_neg (by omega)]
      rfl

/-- A character that opens no comment opens none with the line break behind it. -/
theorem gapLength_cons_append_break {c : Char} {r : List Char}
    (hdash : ∀ u, c = '-' → r = '-' :: u → False) (hslash : ∀ u, c = '/' → r = '*' :: u → False) :
    gapLength (c :: r ++ '\n' :: t) =
      if Text.isBlank c = true then gapLength.shift 1 (gapLength (r ++ '\n' :: t)) else .ok 0 := by
  -- the second mark of a comment would have stood there already
  have hdash' : ∀ u, c = '-' → r ++ '\n' :: t = '-' :: u → False := by
    intro u hc hu
    obtain ⟨v, hv⟩ := eq_cons_of_append_break t (by decide) hu
    exact hdash v hc hv
  have hslash' : ∀ u, c = '/' → r ++ '\n' :: t = '*' :: u → False := by
    intro u hc hu
    obtain ⟨v, hv⟩ := eq_cons_of_append_break t (by decide) hu
    exact hslash v hc hv
  rw [List.cons_append, gapLength_cons hdash' hslash']

theorem gapLength_append_break {s : List Char} {n : Nat} (h : gapLength s = .ok n) :
    GapGoesOn t s n := by
  induction s using gapLength.induct generalizing n with
  | case1 r k =>
    rename_i ih
    -- the line break ends a comment that goes to the end of the line
    have hle := length_takeWhile_le (fun c => decide (c ≠ '\n')) r
    rw [gapLength_line] at h
    refine GapGoesOn.shift t ?_ ?_ (fun _ => ih) h
    · simp only [List.length_cons, List.length_drop]
      omega
    · rw [List.cons_append, List.cons_append, gapLength_line,
        takeWhile_append_break t (by decide), drop_append_break t hle]
  | case2 r k hblock ih =>
    obtain ⟨happend, hle⟩ := blockLength?_append_break t hblock
    have hgap : gapLength ('/' :: '*' :: r) =
        gapLength.shift (k + 2) (gapLength (r.drop k)) := by
      rw [gapLength_block, hblock]
    rw [hgap] at h
    refine GapGoesOn.shift t ?_ ?_ (fun _ => ih) h
    · simp only [List.length_cons, List.length_drop]
      omega
    · rw [List.cons_append, List.cons_append, gapLength_block, happend, ← drop_append_break t hle]
  | case3 r hblock =>
    rw [gapLength_block, hblock] at h
    cases h
  | case4 c r hdash hslash hblank ih =>
    rw [gapLength_cons hdash hslash, if_pos hblank] at h
    refine GapGoesOn.shift t (by simp only [List.length_cons]; omega) ?_ (fun _ => ih) h
    rw [gapLength_cons_append_break t hdash hslash, if_pos hblank]
  | case5 c r hdash hslash hblank =>
    rw [gapLength_cons hdash hslash, if_neg hblank] at h
    cases h
    refine ⟨Nat.zero_le _, ?_⟩
    rw [gapLength_cons_append_break t hdash hslash, if_neg hblank, if_neg (by simp)]
  | case6 =>
    rw [gapLength_nil] at h
    cases h
    refine ⟨Nat.le_refl 0, ?_⟩
    show gapLength ('\n' :: t) = gapLength.shift 1 (gapLength t)
    exact gapLength_blank t (by decide) (by decide) (by decide)

end

/-! ## Streams -/

/-- Tokens in front of a stream. -/
def Stream.prepend (ts : List Token) (s : Stream) : Stream :=
  { s with tokens := ts ++ s.tokens }

/-- A text that is read to its end falls into the same tokens with another text on a new line behind
it, and that text into its own. -/
theorem alike_append_break (p p' q : Position) {s : List Char} (t : List Char)
    (h : (streamFrom p s).outcome.isOk = true) :
    Alike (streamFrom p' (s ++ '\n' :: t)) ((streamFrom q t).prepend (streamFrom p s).tokens) := by
  induction falls s generalizing p p' with
  | opened hgap =>
    rw [streamFrom_of_open p hgap] at h
    cases h
  | faulty hgap hnext hfault =>
    obtain ⟨e, hp⟩ := streamFrom_of_fault p hgap hnext hfault
    rw [hp] at h
    cases h
  | @ended s n hgap hend =>
    -- all of the text is a gap, and the line break is part of it
    obtain ⟨hle, happend⟩ := gapLength_append_break t hgap
    have hn : n = s.length := Nat.le_antisymm hle (List.drop_eq_nil_iff.mp hend)
    rw [if_pos hn, hn] at happend
    rw [streamFrom_of_end p hgap hend]
    refine alike_of_gap p' q happend ?_
    rw [List.append_cons, ← List.length_singleton (a := '\n'), ← List.length_append]
    exact List.drop_left
  | @token s r n length c kind hgap hnext hread _ ih =>
    obtain ⟨hle, happend⟩ := gapLength_append_break t hgap
    have hn : n ≠ s.length := by
      rintro rfl
      rw [List.drop_length] at hnext
      cases hnext
    rw [if_neg hn] at happend
    have hnext' : (s ++ '\n' :: t).drop n = c :: (r ++ '\n' :: t) := by
      rw [drop_append_break t hle, hnext, List.cons_append]
    obtain ⟨hread', hlength⟩ := readStart_append_break t (b := '\n') (by decide) hread
    rw [streamFrom_of_token p hgap hnext hread] at h ⊢
    rw [streamFrom_of_token p' happend hnext' hread', drop_append_break t (by omega)]
    exact (ih _ _ h).cons rfl

theorem Alike.prepend {a b : Stream} (h : Alike a b) (ts : List Token) :
    Alike (a.prepend ts) (b.prepend ts) := by
  refine ⟨?_, h.ends⟩
  show (ts ++ a.tokens).map Token.kind = (ts ++ b.tokens).map Token.kind
  rw [List.map_append, List.map_append, h.kinds]

theorem readStart_semicolon (r : List Char) :
    readStart ';' r = .token (.symbol .semicolon) 1 := by
  rw [readStart.eq_def]
  dsimp only
  rw [guidLength?_of_start r (by decide) rfl]
  show readSymbol (';' :: r) = _
  rfl

/-- A line with a semicolon in front of a text is one more token. -/
theorem alike_semicolon {s : List Char} (p q : Position) (t : Token)
    (ht : t.kind = .symbol .semicolon) :
    Alike (streamFrom p (';' :: '\n' :: s)) ((streamFrom q s).cons t) := by
  have hgap : gapLength (';' :: '\n' :: s) = .ok 0 :=
    gapLength_of_start _ (by decide) (by decide) (by decide)
  have hbreak : gapLength ('\n' :: s) = gapLength.shift 1 (gapLength s) :=
    gapLength_blank s (by decide) (by decide) (by decide)
  rw [streamFrom_of_token p hgap rfl (readStart_semicolon _)]
  exact (alike_of_gap _ q hbreak rfl).cons ht.symm

/-- The tokens of two texts with a semicolon on a line of its own between them. -/
theorem tokenize_join {text more : String} {ts us : List Token} {p q : Position}
    (h : tokenize text = .ok (ts, p)) (h' : tokenize more = .ok (us, q)) :
    ∃ tokens finish, tokenize (text ++ "\n;\n" ++ more) = .ok (tokens, finish) ∧
      tokens.map Token.kind =
        (ts ++ ⟨.symbol .semicolon, ";", .start⟩ :: us).map Token.kind := by
  obtain ⟨rfl, hfinish⟩ := tokenize_eq_ok_iff.mp h
  obtain ⟨rfl, hfinish'⟩ := tokenize_eq_ok_iff.mp h'
  have hchars : (text ++ "\n;\n" ++ more).toList =
      text.toList ++ '\n' :: ';' :: '\n' :: more.toList := by
    simp
  have hends : (streamFrom .start text.toList).outcome.isOk = true := by
    show (stream text).outcome.isOk = true
    rw [hfinish]
    rfl
  -- the text ends with its line; behind it come the semicolon and the other text
  have hbreak := alike_append_break .start .start .start (';' :: '\n' :: more.toList) hends
  have hsemicolon := alike_semicolon (s := more.toList) .start .start
    ⟨.symbol .semicolon, ";", .start⟩ rfl
  have halike := hbreak.trans (hsemicolon.prepend _)
  rw [← hchars] at halike
  exact tokenize_of_alike halike hfinish'

/-! ## Lines -/

/-- A text with each word on a line of its own. -/
def lines : List String → String
  | [] => ""
  | word :: words => word ++ "\n" ++ lines words

/-- A word is one token of a kind. -/
def Spells (word : String) (kind : Kind) : Prop :=
  (stream word).outcome.isOk = true ∧ (stream word).tokens.map Token.kind = [kind]

instance (word : String) (kind : Kind) : Decidable (Spells word kind) :=
  inferInstanceAs (Decidable (_ ∧ _))

theorem stream_lines {words : List (String × Kind)} (h : ∀ w ∈ words, Spells w.1 w.2) :
    (stream (lines (words.map (·.1)))).outcome.isOk = true ∧
      (stream (lines (words.map (·.1)))).tokens.map Token.kind = words.map (·.2) := by
  induction words with
  | nil => decide +kernel
  | cons w words ih =>
    rw [List.forall_mem_cons] at h
    obtain ⟨⟨hends, hkinds⟩, h⟩ := h
    obtain ⟨hrest, hmore⟩ := ih h
    have hchars : (lines ((w :: words).map (·.1))).toList =
        w.1.toList ++ '\n' :: (lines (words.map (·.1))).toList := by
      simp [lines]
    have halike := alike_append_break .start .start .start
      (lines (words.map (·.1))).toList hends
    rw [← hchars] at halike
    refine ⟨halike.ends.trans hrest, halike.kinds.trans ?_⟩
    show ((stream w.1).tokens ++ (stream (lines (words.map (·.1)))).tokens).map Token.kind = _
    rw [List.map_append, hkinds, hmore]
    rfl

/-- A text with one word on each line falls into those words. -/
theorem tokenize_lines {words : List (String × Kind)} (h : ∀ w ∈ words, Spells w.1 w.2) :
    ∃ tokens finish, tokenize (lines (words.map (·.1))) = .ok (tokens, finish) ∧
      tokens.map Token.kind = words.map (·.2) := by
  obtain ⟨hends, hkinds⟩ := stream_lines h
  cases hout : (stream (lines (words.map (·.1)))).outcome with
  | error e =>
    rw [hout] at hends
    cases hends
  | ok finish => exact ⟨_, finish, tokenize_eq_ok_iff.mpr ⟨rfl, hout⟩, hkinds⟩

end RowFilter.Token
