import RowFilter.Token.Lexer

/-!
Tokens and where they stand. The kinds of the tokens of a text do not depend on the position at
which it starts, and a blank in front of a text changes nothing but that position.
-/

namespace RowFilter.Token

open Text (Position)

/-! ## One step -/

/-- A gap that is not closed ends the reading. -/
theorem streamFrom_of_open {s : List Char} {n : Nat} (p : Position)
    (hgap : gapLength s = .error n) :
    streamFrom p s =
      ⟨[], .error (.grammar (.unterminated "comment") (p.advance (s.take n)))⟩ := by
  rw [streamFrom, hgap]

theorem streamFrom_of_end {s : List Char} {n : Nat} (p : Position) (hgap : gapLength s = .ok n)
    (hend : s.drop n = []) : streamFrom p s = ⟨[], .ok (p.advance (s.take n))⟩ := by
  rw [streamFrom, hgap]
  simp only
  split
  · rfl
  · next h => rw [hend] at h; cases h

/-- Behind the gap stands a token. -/
theorem streamFrom_of_token {s r : List Char} {n length : Nat} {c : Char} {kind : Kind}
    (p : Position) (hgap : gapLength s = .ok n) (hnext : s.drop n = c :: r)
    (hread : readStart c r = .token kind length) :
    streamFrom p s =
      (streamFrom ((p.advance (s.take n)).advance (c :: r.take (length - 1)))
        (r.drop (length - 1))).cons
        ⟨kind, String.ofList (c :: r.take (length - 1)), p.advance (s.take n)⟩ := by
  rw [streamFrom, hgap]
  simp only
  split
  · next h => rw [hnext] at h; cases h
  · next h =>
    rw [hnext] at h
    cases h
    rw [hread]

/-- Behind the gap stands no token. -/
theorem streamFrom_of_fault {s r : List Char} {n : Nat} {c : Char} (p : Position)
    (hgap : gapLength s = .ok n) (hnext : s.drop n = c :: r)
    (hread : ∀ kind length, readStart c r ≠ .token kind length) :
    ∃ e, streamFrom p s = ⟨[], .error e⟩ := by
  rw [streamFrom, hgap]
  simp only
  split
  · next h => rw [hnext] at h; cases h
  · next h =>
    rw [hnext] at h
    cases h
    split
    · exact ⟨_, rfl⟩
    · exact ⟨_, rfl⟩
    · next h => exact absurd h (hread _ _)

/-- How a text falls into tokens: it is a gap to its end, or what stands behind the gap is no token,
or a token stands there, and the rest of the text falls into tokens again. -/
inductive Falls : List Char → Prop where
  | opened {s : List Char} {n : Nat} (hgap : gapLength s = .error n) : Falls s
  | ended {s : List Char} {n : Nat} (hgap : gapLength s = .ok n) (hend : s.drop n = []) : Falls s
  | faulty {s r : List Char} {n : Nat} {c : Char} (hgap : gapLength s = .ok n)
      (hnext : s.drop n = c :: r) (hfault : ∀ kind length, readStart c r ≠ .token kind length) :
      Falls s
  | token {s r : List Char} {n length : Nat} {c : Char} {kind : Kind} (hgap : gapLength s = .ok n)
      (hnext : s.drop n = c :: r) (hread : readStart c r = .token kind length)
      (hrest : Falls (r.drop (length - 1))) : Falls s

theorem falls (s : List Char) : Falls s := by
  cases hgap : gapLength s with
  | error n => exact .opened hgap
  | ok n =>
    cases hnext : s.drop n with
    | nil => exact .ended hgap hnext
    | cons c r =>
      by_cases htoken : ∃ kind length, readStart c r = .token kind length
      · obtain ⟨kind, length, hread⟩ := htoken
        -- what follows the token is shorter than the text
        have hshorter : (r.drop (length - 1)).length < s.length := by
          have hlength := congrArg List.length hnext
          simp only [List.length_drop, List.length_cons] at hlength ⊢
          omega
        exact .token hgap hnext hread (falls _)
      · exact .faulty hgap hnext fun kind length hread => htoken ⟨kind, length, hread⟩
termination_by s.length
decreasing_by exact hshorter

/-! ## Streams that differ in positions only -/

/-- The same kinds of tokens, and both streams reach the end of their text or neither does. -/
structure Alike (a b : Stream) : Prop where
  kinds : a.tokens.map Token.kind = b.tokens.map Token.kind
  ends : a.outcome.isOk = b.outcome.isOk

theorem Alike.trans {a b c : Stream} (h : Alike a b) (h' : Alike b c) : Alike a c :=
  ⟨h.kinds.trans h'.kinds, h.ends.trans h'.ends⟩

theorem Alike.cons {a b : Stream} {t u : Token} (h : Alike a b) (hkind : t.kind = u.kind) :
    Alike (a.cons t) (b.cons u) :=
  ⟨List.cons_eq_cons.mpr ⟨hkind, h.kinds⟩, h.ends⟩

/-- The position at which a text starts shifts its tokens and does nothing else. -/
theorem alike_streamFrom (p q : Position) (s : List Char) :
    Alike (streamFrom p s) (streamFrom q s) := by
  induction falls s generalizing p q with
  | opened hgap =>
    rw [streamFrom_of_open p hgap, streamFrom_of_open q hgap]
    exact ⟨rfl, rfl⟩
  | ended hgap hend =>
    rw [streamFrom_of_end p hgap hend, streamFrom_of_end q hgap hend]
    exact ⟨rfl, rfl⟩
  | faulty hgap hnext hfault =>
    -- the faults name different positions, but there is one on both sides
    obtain ⟨e, hp⟩ := streamFrom_of_fault p hgap hnext hfault
    obtain ⟨f, hq⟩ := streamFrom_of_fault q hgap hnext hfault
    rw [hp, hq]
    exact ⟨rfl, rfl⟩
  | token hgap hnext hread _ ih =>
    rw [streamFrom_of_token p hgap hnext hread, streamFrom_of_token q hgap hnext hread]
    exact (ih _ _).cons rfl

/-! ## Names -/

/-- The kind of a token with its name, if it has one, changed. -/
def Kind.rename (f : String → String) : Kind → Kind
  | .identifier name => .identifier (f name)
  | .keyword k => .keyword k
  | .symbol s => .symbol s
  | .integer text => .integer text
  | .numeric text => .numeric text
  | .string content => .string content
  | .guid text => .guid text
  | .dateTime content => .dateTime content
  | .measurementKey text => .measurementKey text
  | .pointTag content => .pointTag content

/-! ## Text in front -/

/-- A comment of two dashes goes to the end of the line. -/
theorem gapLength_line (r : List Char) :
    gapLength ('-' :: '-' :: r) =
      gapLength.shift ((r.takeWhile (· ≠ '\n')).length + 2)
        (gapLength (r.drop (r.takeWhile (· ≠ '\n')).length)) := by
  rw [gapLength.eq_def]
  rfl

/-- A block comment goes to its closing mark. -/
theorem gapLength_block (r : List Char) :
    gapLength ('/' :: '*' :: r) =
      match blockLength? r with
      | some n => gapLength.shift (n + 2) (gapLength (r.drop n))
      | none => .error 0 := by
  rw [gapLength.eq_def]
  rfl

/-- A character that opens no comment is a blank or ends the gap. -/
theorem gapLength_cons {c : Char} {r : List Char}
    (hdash : ∀ u, c = '-' → r = '-' :: u → False) (hslash : ∀ u, c = '/' → r = '*' :: u → False) :
    gapLength (c :: r) = if Text.isBlank c then gapLength.shift 1 (gapLength r) else .ok 0 := by
  rw [gapLength.eq_def]
  split
  · next h =>
    obtain ⟨rfl, hr⟩ := List.cons_eq_cons.mp h
    exact absurd hr (hdash _ rfl)
  · next h =>
    obtain ⟨rfl, hr⟩ := List.cons_eq_cons.mp h
    exact absurd hr (hslash _ rfl)
  · next h =>
    obtain ⟨rfl, rfl⟩ := List.cons_eq_cons.mp h
    rfl
  · next h => cases h

theorem gapLength_nil : gapLength [] = .ok 0 := by
  rw [gapLength.eq_def]

/-- A character that is no blank and opens no comment begins a token or a fault at once. -/
theorem gapLength_of_start {c : Char} (s : List Char) (hblank : Text.isBlank c = false)
    (hdash : c ≠ '-') (hslash : c ≠ '/') : gapLength (c :: s) = .ok 0 := by
  rw [gapLength_cons (fun _ hc => absurd hc hdash) (fun _ hc => absurd hc hslash), hblank]
  rfl

/-- A blank in front of a text is part of its gap. -/
theorem gapLength_blank {c : Char} (s : List Char) (hblank : Text.isBlank c = true)
    (hdash : c ≠ '-') (hslash : c ≠ '/') :
    gapLength (c :: s) = gapLength.shift 1 (gapLength s) := by
  rw [gapLength_cons (fun _ hc => absurd hc hdash) (fun _ hc => absurd hc hslash), hblank]
  rfl

/-- A text whose gap is that of another one, moved by the length of what stands before it there,
has the tokens of the other one. -/
theorem alike_of_gap {s s' : List Char} {m : Nat} (p q : Position)
    (hgap : gapLength s' = gapLength.shift m (gapLength s)) (hdrop : s'.drop m = s) :
    Alike (streamFrom p s') (streamFrom q s) := by
  have hrest (n : Nat) : s'.drop (m + n) = s.drop n := by rw [← List.drop_drop, hdrop]
  cases falls s with
  | opened h =>
    rw [h] at hgap
    rw [streamFrom_of_open p hgap, streamFrom_of_open q h]
    exact ⟨rfl, rfl⟩
  | ended h hend =>
    rw [h] at hgap
    rw [streamFrom_of_end p hgap ((hrest _).trans hend), streamFrom_of_end q h hend]
    exact ⟨rfl, rfl⟩
  | faulty h hnext hfault =>
    rw [h] at hgap
    obtain ⟨e, hp⟩ := streamFrom_of_fault p hgap ((hrest _).trans hnext) hfault
    obtain ⟨f, hq⟩ := streamFrom_of_fault q h hnext hfault
    rw [hp, hq]
    exact ⟨rfl, rfl⟩
  | token h hnext hread =>
    rw [h] at hgap
    rw [streamFrom_of_token p hgap ((hrest _).trans hnext) hread,
      streamFrom_of_token q h hnext hread]
    exact (alike_streamFrom _ _ _).cons rfl

/-- A space in front of a text moves its position and does nothing else. -/
theorem alike_space (p q : Position) (s : List Char) :
    Alike (streamFrom p (' ' :: s)) (streamFrom q s) :=
  alike_of_gap p q (gapLength_blank s (by decide) (by decide) (by decide)) rfl

theorem guidLength?_eq_none {s : List Char} (hbrace : s.head? ≠ some '\x7b')
    (hhex : (s.take 8).all Guid.isHexDigit = false) : guidLength? s = none := by
  have hgroups : afterGroups? s guidGroups = none := by
    rw [guidGroups]
    unfold afterGroups?
    apply if_neg
    rw [hhex]
    exact fun h => Bool.false_ne_true h.2
  unfold guidLength?
  split
  · exact absurd rfl hbrace
  · rw [hgroups]
    rfl

theorem guidLength?_of_start {c : Char} (s : List Char) (hbrace : c ≠ '\x7b')
    (hhex : Guid.isHexDigit c = false) : guidLength? (c :: s) = none := by
  apply guidLength?_eq_none
  · exact fun h => hbrace (Option.some.inj h)
  · rw [List.take_succ_cons, List.all_cons, hhex, Bool.false_and]

theorem wordLength_append_space {w : List Char} (hword : w.all isWordChar = true)
    (t : List Char) : wordLength (w ++ ' ' :: t) = w.length := by
  have hspace : ¬ isWordChar ' ' = true := by decide
  rw [wordLength, List.takeWhile_append_of_pos (List.all_eq_true.mp hword),
    List.takeWhile_cons_of_neg hspace, List.append_nil]

/-- A keyword of fewer than eight letters, with a space behind it. It is no identifier because the
space stands among the first eight characters, and no measurement key because no colon follows. -/
theorem readStart_keyword {c : Char} {w t : List Char} {k : Keyword}
    (hstart : isWordStart c = true) (hdigit : startsNumber (c :: (w ++ ' ' :: t)) = false)
    (hbrace : c ≠ '\x7b') (hword : (c :: w).all isWordChar = true)
    (hlength : (c :: w).length < 8) (hk : Keyword.ofWord? (c :: w) = some k) :
    readStart c (w ++ ' ' :: t) = .token (.keyword k) (w.length + 1) := by
  have hwordLength : wordLength (c :: (w ++ ' ' :: t)) = (c :: w).length :=
    wordLength_append_space hword t
  have hhex : ((c :: (w ++ ' ' :: t)).take 8).all Guid.isHexDigit = false := by
    -- the space is among the first eight characters and is no hexadecimal digit
    obtain ⟨n, hn⟩ : ∃ n, 8 - (c :: w).length = n + 1 := ⟨7 - (c :: w).length, by omega⟩
    have hspace : (' ' :: t.take n).all Guid.isHexDigit = false := rfl
    rw [← List.cons_append, List.take_append, List.take_of_length_le (Nat.le_of_lt hlength), hn,
      List.all_append, List.take_succ_cons, hspace, Bool.and_false]
  have hguid : guidLength? (c :: (w ++ ' ' :: t)) = none :=
    guidLength?_eq_none (fun h => hbrace (Option.some.inj h)) hhex
  have hkey : measurementKeyLength? (c :: (w ++ ' ' :: t)) = none := by
    rw [measurementKeyLength?, if_pos (by exact hstart), hwordLength, ← List.cons_append]
    dsimp only
    rw [List.drop_left]
    rfl
  have hread : readWord (c :: (w ++ ' ' :: t)) = .token (.keyword k) (w.length + 1) := by
    rw [readWord, hwordLength, ← List.cons_append]
    rw [List.take_left, hk]
    rfl
  rw [readStart.eq_def]
  dsimp only
  rw [hguid, hkey]
  dsimp only
  rw [if_neg (Bool.eq_false_iff.mp hdigit), if_pos hstart, hread]

/-- A character that is no closing mark is content, whatever follows it. -/
theorem readDelimited?_cons {closing c : Char} {doubled : Bool} (hc : c ≠ closing) (s : List Char) :
    readDelimited? closing doubled (c :: s) =
      (readDelimited? closing doubled s).map fun (content, n) => (c :: content, n + 1) := by
  rw [readDelimited?.eq_def]
  exact if_neg hc

/-- The content of a bracketed name without a closing bracket in it. -/
theorem readDelimited?_bracket {name : List Char} (h : ']' ∉ name) (t : List Char) :
    readDelimited? ']' false (name ++ ']' :: t) = some (name, name.length + 1) := by
  induction name with
  | nil =>
    cases t with
    | nil => rfl
    | cons d t => rfl
  | cons c name ih =>
    have hc : c ≠ ']' := fun hc => h (hc ▸ List.mem_cons_self)
    have hname : ']' ∉ name := fun hmem => h (List.mem_cons_of_mem c hmem)
    rw [List.cons_append, readDelimited?_cons hc, ih hname]
    rfl

/-- A name in brackets. -/
theorem readStart_bracket {name : List Char} (h : ']' ∉ name) (t : List Char) :
    readStart '[' (name ++ ']' :: t) =
      .token (.identifier (String.ofList name)) (name.length + 2) := by
  rw [readStart, guidLength?_of_start _ (by decide) rfl]
  show readQuoted ']' false .identifier "bracketed identifier" (name ++ ']' :: t) = _
  rw [readQuoted, readDelimited?_bracket h]

/-- A keyword in front of a text, with a space between them, is one more token. -/
theorem alike_keyword {c : Char} {w s : List Char} {k : Keyword} (p q : Position)
    (hgap : gapLength (c :: (w ++ ' ' :: s)) = .ok 0)
    (hread : readStart c (w ++ ' ' :: s) = .token (.keyword k) (w.length + 1)) (t : Token)
    (ht : t.kind = .keyword k) :
    Alike (streamFrom p (c :: (w ++ ' ' :: s))) ((streamFrom q s).cons t) := by
  rw [streamFrom_of_token p hgap rfl hread, Nat.add_sub_cancel, List.drop_left]
  exact (alike_space _ q s).cons ht.symm

/-- A name in brackets in front of a text, with a space between them, is one more token. -/
theorem alike_bracket {name s : List Char} (p q : Position) (h : ']' ∉ name) (t : Token)
    (ht : t.kind = .identifier (String.ofList name)) :
    Alike (streamFrom p ('[' :: (name ++ ']' :: ' ' :: s))) ((streamFrom q s).cons t) := by
  have hgap : gapLength ('[' :: (name ++ ']' :: ' ' :: s)) = .ok 0 :=
    gapLength_of_start _ (by decide) (by decide) (by decide)
  -- behind the bracket the text goes on with the space
  have hrest : (name ++ ']' :: ' ' :: s).drop (name.length + 1) = ' ' :: s := by
    rw [List.drop_append, List.drop_eq_nil_of_le (Nat.le_succ _), Nat.add_sub_cancel_left]
    rfl
  rw [streamFrom_of_token p hgap rfl (readStart_bracket h _)]
  show Alike ((streamFrom _ ((name ++ ']' :: ' ' :: s).drop (name.length + 1))).cons _) _
  rw [hrest]
  exact (alike_space _ q s).cons ht.symm

/-- An equals sign, with a space behind it. -/
theorem readStart_equal (t : List Char) :
    readStart '=' (' ' :: t) = .token (.symbol .equal) 1 := by
  rw [readStart.eq_def]
  dsimp only
  rw [guidLength?_of_start _ (by decide) rfl]
  show readSymbol ('=' :: ' ' :: t) = _
  rfl

/-- An equals sign in front of a text, with a space between them, is one more token. -/
theorem alike_equal {s : List Char} (p q : Position) (t : Token) (ht : t.kind = .symbol .equal) :
    Alike (streamFrom p ('=' :: ' ' :: s)) ((streamFrom q s).cons t) := by
  have hgap : gapLength ('=' :: ' ' :: s) = .ok 0 :=
    gapLength_of_start _ (by decide) (by decide) (by decide)
  rw [streamFrom_of_token p hgap rfl (readStart_equal s)]
  exact (alike_space _ q s).cons ht.symm

/-- The head of a FILTER statement in front of a text is three more tokens: what follows it falls
into the tokens that it has on its own. -/
theorem alike_filter {name : List Char} (h : ']' ∉ name) (p : Position) (s : List Char) :
    Alike (streamFrom p ("FILTER [".toList ++ name ++ "] WHERE ".toList ++ s))
      ((((streamFrom .start s).cons ⟨.keyword .WHERE, "WHERE", p⟩).cons
        ⟨.identifier (String.ofList name), "", p⟩).cons ⟨.keyword .FILTER, "FILTER", p⟩) := by
  -- the three lexemes and the spaces between them
  have htext : "FILTER [".toList ++ name ++ "] WHERE ".toList ++ s =
      'F' :: (['I', 'L', 'T', 'E', 'R'] ++ ' ' :: '[' :: (name ++ ']' :: ' ' ::
        'W' :: (['H', 'E', 'R', 'E'] ++ ' ' :: s))) := by
    simp
  rw [htext]
  have hwhere : Alike (streamFrom p ('W' :: (['H', 'E', 'R', 'E'] ++ ' ' :: s)))
      ((streamFrom .start s).cons ⟨.keyword .WHERE, "WHERE", p⟩) := by
    refine alike_keyword p .start (gapLength_of_start _ (by decide) (by decide) (by decide)) ?_
      ⟨.keyword .WHERE, "WHERE", p⟩ rfl
    exact readStart_keyword (by decide) rfl (by decide) (by decide) (by decide) (by decide)
  have hname := (alike_bracket p p h ⟨.identifier (String.ofList name), "", p⟩ rfl).trans
    (hwhere.cons rfl)
  refine (alike_keyword p p (gapLength_of_start _ (by decide) (by decide) (by decide)) ?_
    ⟨.keyword .FILTER, "FILTER", p⟩ rfl).trans (hname.cons rfl)
  exact readStart_keyword (by decide) rfl (by decide) (by decide) (by decide) (by decide)

theorem tokenize_eq_ok_iff {input : String} {tokens : List Token} {finish : Position} :
    tokenize input = .ok (tokens, finish) ↔
      (stream input).tokens = tokens ∧ (stream input).outcome = .ok finish := by
  rw [tokenize]
  cases hout : (stream input).outcome with
  | error e =>
    constructor
    · intro h
      cases h
    · intro h
      cases h.2
  | ok q =>
    constructor
    · intro h
      cases h
      exact ⟨rfl, rfl⟩
    · rintro ⟨rfl, ⟨⟩⟩
      rfl

/-- A text falls into tokens if it does so elsewhere, and into tokens of the same kinds. -/
theorem tokenize_of_alike {input : String} {s : Stream} {finish : Position}
    (h : Alike (stream input) s) (hs : s.outcome = .ok finish) :
    ∃ tokens finish', tokenize input = .ok (tokens, finish') ∧
      tokens.map Token.kind = s.tokens.map Token.kind := by
  cases hout : (stream input).outcome with
  | error e =>
    have hends := h.ends
    rw [hout, hs] at hends
    cases hends
  | ok finish' => exact ⟨_, finish', tokenize_eq_ok_iff.mpr ⟨rfl, hout⟩, h.kinds⟩

end RowFilter.Token
