import RowFilter.Expression.Basic
import RowFilter.Proofs.Number.Digits
import RowFilter.Proofs.Token.Append
import RowFilter.Proofs.Token.Guid

/-!
Texts that are put together out of tokens. A text adds tokens to what follows it if it falls into
them in front of everything that ends its last token. Single tokens do, and so do texts that add
tokens one behind the other.
-/

namespace RowFilter.Token

open Text (Position)

/-! ## Kinds of tokens -/

/-- The kinds of the tokens of a text, and whether it is read to its end. -/
def outline (s : List Char) : List Kind × Bool :=
  ((streamFrom .start s).tokens.map Token.kind, (streamFrom .start s).outcome.isOk)

theorem outline_of_alike {s t : List Char} (h : Alike (streamFrom .start s) (streamFrom .start t)) :
    outline s = outline t :=
  Prod.ext h.kinds h.ends

theorem outline_space (s : List Char) : outline (' ' :: s) = outline s :=
  outline_of_alike (alike_space .start .start s)

/-- The token that a text begins with comes before those of the rest. -/
theorem outline_of_token {c : Char} {r : List Char} {kind : Kind} {length : Nat}
    (hgap : gapLength (c :: r) = .ok 0) (hread : readStart c r = .token kind length) :
    outline (c :: r) =
      (kind :: (outline (r.drop (length - 1))).1, (outline (r.drop (length - 1))).2) := by
  have hrest := alike_streamFrom (((Position.start).advance []).advance (c :: r.take (length - 1)))
    .start (r.drop (length - 1))
  rw [outline, streamFrom_of_token .start hgap rfl hread]
  exact Prod.ext (congrArg (kind :: ·) hrest.kinds) hrest.ends

/-! ## Texts that add tokens -/

/-- What starts so ends every token before it. -/
def EndsToken : List Char → Prop
  | [] => True
  | b :: _ => b ∈ breaks

instance : DecidablePred EndsToken
  | [] => inferInstanceAs (Decidable True)
  | b :: _ => inferInstanceAs (Decidable (b ∈ breaks))

theorem EndsToken.append {s t : List Char} (hs : EndsToken s) (ht : EndsToken t) :
    EndsToken (s ++ t) := by
  cases s with
  | nil => exact ht
  | cons b s => exact hs

/-- In front of a text that ends its last token, the text falls into tokens of these kinds. -/
def Adds (s : List Char) (kinds : List Kind) : Prop :=
  ∀ rest, EndsToken rest → outline (s ++ rest) = (kinds ++ (outline rest).1, (outline rest).2)

namespace Adds

theorem nil : Adds [] [] := fun _ _ => rfl

theorem append {s t : List Char} {ks ls : List Kind} (h : Adds s ks) (h' : Adds t ls)
    (ht : EndsToken t) : Adds (s ++ t) (ks ++ ls) := by
  intro rest hrest
  rw [List.append_assoc, h _ (ht.append hrest), h' rest hrest, List.append_assoc]

theorem space {s : List Char} {ks : List Kind} (h : Adds s ks) : Adds (' ' :: s) ks := by
  intro rest hrest
  rw [List.cons_append, outline_space, h rest hrest]

theorem beside {s t : List Char} {ks ls : List Kind} (h : Adds s ks) (h' : Adds t ls) :
    Adds (s ++ ' ' :: t) (ks ++ ls) :=
  h.append h'.space (by show ' ' ∈ breaks; decide)

/-- An opening parenthesis is a token whatever follows it. -/
theorem parenthesis {s : List Char} {ks : List Kind} (h : Adds s ks) :
    Adds ('(' :: s) (.symbol .leftParen :: ks) := by
  intro rest hrest
  have hgap : gapLength ('(' :: (s ++ rest)) = .ok 0 :=
    gapLength_of_start _ (by decide) (by decide) (by decide)
  have hread : readStart '(' (s ++ rest) = .token (.symbol .leftParen) 1 := by
    rw [readStart.eq_def]
    dsimp only
    rw [guidLength?_of_start _ (by decide) rfl]
    show readSymbol ('(' :: (s ++ rest)) = _
    rfl
  rw [List.cons_append, outline_of_token hgap hread, Nat.sub_self, List.drop_zero, h rest hrest]
  rfl

/-- A text that adds tokens has them on its own. -/
theorem tokenize {text : String} {ks : List Kind} (h : Adds text.toList ks) :
    ∃ tokens finish, Token.tokenize text = .ok (tokens, finish) ∧ tokens.map Token.kind = ks := by
  have halone := h [] trivial
  rw [List.append_nil] at halone
  have hnil : outline [] = ([], true) := by decide +kernel
  rw [hnil, List.append_nil] at halone
  have hkinds : (stream text).tokens.map Token.kind = ks := congrArg Prod.fst halone
  have hends : (stream text).outcome.isOk = true := congrArg Prod.snd halone
  cases hout : (stream text).outcome with
  | error e =>
    rw [hout] at hends
    cases hends
  | ok finish => exact ⟨_, finish, tokenize_eq_ok_iff.mpr ⟨rfl, hout⟩, hkinds⟩

end Adds

/-! ## Single tokens -/

theorem shift_ne_zero {n : Nat} (hn : 0 < n) (x : Except Nat Nat) :
    gapLength.shift n x ≠ .ok 0 := by
  cases x with
  | ok m =>
    intro h
    have hzero : n + m = 0 := Except.ok.inj h
    omega
  | error m => exact nofun

/-- Where a gap ends at once stand neither a blank nor the mark of a comment. -/
theorem start_of_gapLength {c : Char} {r : List Char} (h : gapLength (c :: r) = .ok 0) :
    Text.isBlank c = false ∧ (∀ u, c = '-' → r = '-' :: u → False) ∧
      ∀ u, c = '/' → r = '*' :: u → False := by
  have hdash : ∀ u, c = '-' → r = '-' :: u → False := by
    rintro u rfl rfl
    rw [gapLength_line] at h
    exact shift_ne_zero (Nat.succ_pos _) _ h
  have hslash : ∀ u, c = '/' → r = '*' :: u → False := by
    rintro u rfl rfl
    rw [gapLength_block] at h
    split at h
    · exact shift_ne_zero (Nat.succ_pos _) _ h
    · cases h
  refine ⟨?_, hdash, hslash⟩
  rw [gapLength_cons hdash hslash] at h
  cases hblank : Text.isBlank c with
  | false => rfl
  | true =>
    rw [if_pos hblank] at h
    exact absurd h (shift_ne_zero Nat.one_pos _)

/-- What ends a token makes no comment of it. -/
theorem gapLength_append {c : Char} {r rest : List Char} (h : gapLength (c :: r) = .ok 0)
    (hrest : EndsToken rest) : gapLength (c :: (r ++ rest)) = .ok 0 := by
  obtain ⟨hblank, hdash, hslash⟩ := start_of_gapLength h
  -- the second character decides, and it may be the one that ends the token
  have hsecond {d : Char} (hd : d ∉ breaks) {u : List Char} (heq : r ++ rest = d :: u) :
      ∃ v, r = d :: v := by
    cases r with
    | cons e r => exact ⟨r, by rw [(List.cons_eq_cons.mp heq).1]⟩
    | nil =>
      cases heq
      exact absurd hrest hd
  rw [gapLength_cons, hblank]
  · rfl
  · intro u hc heq
    obtain ⟨v, hv⟩ := hsecond (by decide) heq
    exact hdash v hc hv
  · intro u hc heq
    obtain ⟨v, hv⟩ := hsecond (by decide) heq
    exact hslash v hc hv

/-- A text that is one token as a whole. -/
structure IsLexeme (w : List Char) (kind : Kind) : Prop where
  gap : gapLength w = .ok 0
  read : ∃ c r, w = c :: r ∧ readStart c r = .token kind (r.length + 1)

theorem IsLexeme.adds {w : List Char} {kind : Kind} (h : IsLexeme w kind) : Adds w [kind] := by
  obtain ⟨c, r, rfl, hread⟩ := h.read
  intro rest hrest
  have hgap := gapLength_append h.gap hrest
  have hread' : readStart c (r ++ rest) = .token kind (r.length + 1) := by
    cases rest with
    | nil => rwa [List.append_nil]
    | cons b t => exact (readStart_append_break t hrest hread).1
  rw [List.cons_append, outline_of_token hgap hread', Nat.add_sub_cancel, List.drop_left]
  rfl

/-- A text that is read as one token and opens no comment. -/
theorem adds_start {c : Char} {r : List Char} {kind : Kind} (hgap : gapLength (c :: r) = .ok 0)
    (hread : readStart c r = .token kind (r.length + 1)) : Adds (c :: r) [kind] :=
  IsLexeme.adds ⟨hgap, c, r, rfl, hread⟩

/-- A token whose first character is no blank and opens no comment. -/
theorem isLexeme_of_start {c : Char} {r : List Char} {kind : Kind} (hblank : Text.isBlank c = false)
    (hdash : c ≠ '-') (hslash : c ≠ '/') (hread : readStart c r = .token kind (r.length + 1)) :
    IsLexeme (c :: r) kind :=
  ⟨gapLength_of_start r hblank hdash hslash, c, r, rfl, hread⟩

/-- A closing parenthesis ends what stands before it. -/
theorem Adds.closed {s : List Char} {ks : List Kind} (h : Adds s ks) :
    Adds (s ++ [')']) (ks ++ [.symbol .rightParen]) :=
  h.append (isLexeme_of_start (by decide) (by decide) (by decide) rfl).adds (by decide)

/-- So does a comma. -/
theorem Adds.comma {s t : List Char} {ks ls : List Kind} (h : Adds s ks) (h' : Adds t ls) :
    Adds (s ++ ',' :: ' ' :: t) (ks ++ .symbol .comma :: ls) := by
  have hcomma : Adds [','] [.symbol .comma] :=
    (isLexeme_of_start (by decide) (by decide) (by decide) rfl).adds
  exact h.append (hcomma.beside h') (by show ',' ∈ breaks; decide)

/-! ### Names and quoted texts -/

theorem isLexeme_bracket {name : List Char} (h : ']' ∉ name) :
    IsLexeme ('[' :: (name ++ [']'])) (.identifier (String.ofList name)) := by
  refine isLexeme_of_start (by decide) (by decide) (by decide) ?_
  rw [readStart_bracket h, List.length_append, List.length_singleton]

/-- A literal without its mark in it ends with the mark. -/
theorem readDelimited?_of_notMem {closing : Char} {content : List Char} (doubled : Bool)
    (h : closing ∉ content) :
    readDelimited? closing doubled (content ++ [closing]) = some (content, content.length + 1) := by
  induction content with
  | nil => simp [readDelimited?]
  | cons c content ih =>
    obtain ⟨hc, hcontent⟩ : closing ≠ c ∧ closing ∉ content := by simpa using h
    rw [List.cons_append, readDelimited?_cons hc.symm, ih hcontent]
    rfl

theorem isLexeme_dateTime {content : List Char} (h : '#' ∉ content) :
    IsLexeme ('#' :: (content ++ ['#'])) (.dateTime (String.ofList content)) := by
  refine isLexeme_of_start (by decide) (by decide) (by decide) ?_
  rw [readStart, guidLength?_of_start _ (by decide) rfl]
  show readQuoted '#' true .dateTime "date/time literal" (content ++ ['#']) = _
  rw [readQuoted, readDelimited?_of_notMem true h, List.length_append]
  rfl

/-- Marks that are written twice are read once. -/
theorem readDelimited?_flatMap (closing : Char) (content : List Char) :
    readDelimited? closing true
      (content.flatMap (fun c => if c = closing then [c, c] else [c]) ++ [closing]) =
        some (content,
          (content.flatMap (fun c => if c = closing then [c, c] else [c])).length + 1) := by
  induction content with
  | nil => simp [readDelimited?]
  | cons c content ih =>
    by_cases hc : c = closing
    · simp [hc, readDelimited?, ih]
    · rw [List.flatMap_cons, if_neg hc, List.singleton_append, List.cons_append,
        readDelimited?_cons hc, ih]
      rfl

theorem isLexeme_quote (s : String) : IsLexeme (Expression.quote s).toList (.string s) := by
  rw [Expression.quote, String.toList_ofList, List.cons_append]
  refine isLexeme_of_start (by decide) (by decide) (by decide) ?_
  rw [readStart, guidLength?_of_start _ (by decide) rfl]
  show readQuoted '\x27' true .string "string literal" _ = _
  rw [readQuoted, readDelimited?_flatMap, List.length_append]
  dsimp only
  rw [String.ofList_toList, List.length_singleton]

/-! ### Numbers and identifiers -/

/-- Digits alone are no identifier: a hyphen is missing. -/
theorem guidLength?_of_digits {ds : List Char} (h : ∀ c ∈ ds, c.isDigit = true) :
    guidLength? ds = none := by
  have hgroups : afterGroups? ds guidGroups = none := by
    have hmark : afterMark? '-' (ds.drop 8) = none := by
      apply if_neg
      intro hhead
      have hmem : '-' ∈ ds := List.mem_of_mem_drop (List.mem_of_head? hhead)
      exact absurd (h _ hmem) (by decide)
    rw [guidGroups, afterGroups?_cons_cons, hmark]
    exact ite_self none
  rw [guidLength?_eq]
  cases ds with
  | nil => rfl
  | cons c ds =>
    have hc : c ≠ '\x7b' := by
      rintro rfl
      exact absurd (h _ List.mem_cons_self) (by decide)
    rw [afterGuid?_of_ne hc, hgroups]
    rfl

theorem hexLength_of_digits {ds : List Char} (h : ∀ c ∈ ds, c.isDigit = true) :
    hexLength ds = 0 := by
  unfold hexLength
  split
  · next c r =>
    have hc : c.isDigit = true := h c (by simp)
    have hmark : (c = 'x' || c = 'X') = false :=
      forall_isDigit (P := fun c => (c = 'x' || c = 'X') = false) (by decide) hc
    rw [hmark]
    rfl
  · rfl

theorem numberLength_of_digits {ds : List Char} (h : ∀ c ∈ ds, c.isDigit = true) :
    numberLength ds = ds.length := by
  have hlength : digitsLength ds = ds.length := by
    rw [digitsLength, takeWhile_isDigit h]
    dsimp only
    rw [List.drop_length]
  rw [numberLength, if_neg (not_not_intro (hexLength_of_digits h)), hlength]
  dsimp only
  rw [List.drop_length]
  rfl

theorem readNumber_of_digits {ds : List Char} (h : ∀ c ∈ ds, c.isDigit = true) :
    readNumber ds = .token (.integer (String.ofList ds)) ds.length := by
  have hfraction : ds.any (fun c => c = '.' || c = 'e' || c = 'E') = false := by
    rw [List.any_eq_false]
    intro c hc
    exact Bool.eq_false_iff.mp (forall_isDigit
      (P := fun c => (c = '.' || c = 'e' || c = 'E') = false) (by decide) (h c hc))
  rw [readNumber, numberLength_of_digits h, List.drop_length, List.take_length,
    hexLength_of_digits h, hfraction]
  rfl

theorem isLexeme_integer (n : Nat) :
    IsLexeme (Nat.toDigits 10 n) (.integer (String.ofList (Nat.toDigits 10 n))) := by
  have hdigits := isDigit_toDigits (n := n)
  obtain ⟨c, r, hds, hc⟩ := exists_toDigits_eq_cons n
  rw [hds] at hdigits ⊢
  refine isLexeme_of_start (isBlank_of_isDigit hc)
    (forall_isDigit (P := fun c => c ≠ '-') (by decide) hc)
    (forall_isDigit (P := fun c => c ≠ '/') (by decide) hc) ?_
  have hkey : measurementKeyLength? (c :: r) = none := by
    rw [measurementKeyLength?]
    exact if_neg (Bool.eq_false_iff.mp
      (forall_isDigit (P := fun c => isWordStart c = false) (by decide) hc))
  have hstart : startsNumber (c :: r) = true := by
    have hpoint : c ≠ '.' := forall_isDigit (P := fun c => c ≠ '.') (by decide) hc
    simpa [startsNumber, hpoint] using hc
  rw [readStart.eq_def]
  dsimp only
  rw [guidLength?_of_digits hdigits, hkey]
  dsimp only
  rw [if_pos hstart, readNumber_of_digits hdigits, List.length_cons]

/-- What stands behind the groups is left of a text that they begin. -/
theorem afterGroups?_of_isHyphenated {s : List Char} (h : Guid.IsHyphenated s)
    (rest : List Char) : afterGroups? (s ++ rest) guidGroups = some rest := by
  cases h with
  | @mk a b c d e ha hb hc hd he hhex =>
    have hgroup {g r : List Char} {n m : Nat} {groups : List Nat} (hlength : g.length = n)
        (hg : ∀ x ∈ g, Guid.isHexDigit x = true) :
        afterGroups? (g ++ '-' :: r) (n :: m :: groups) = afterGroups? r (m :: groups) := by
      rw [afterGroups?_cons_cons, List.take_left' hlength, List.drop_left' hlength,
        if_pos ⟨hlength, List.all_eq_true.mpr hg⟩]
      rfl
    simp only [List.forall_mem_append] at hhex
    obtain ⟨hexa, hexb, hexc, hexd, hexe⟩ := hhex
    simp only [List.append_assoc, List.cons_append]
    rw [guidGroups, hgroup ha hexa, hgroup hb hexb, hgroup hc hexc, hgroup hd hexd, afterGroups?,
      List.take_left' he, List.drop_left' he, if_pos ⟨he, List.all_eq_true.mpr hexe⟩]

theorem isLexeme_guid {s : List Char} (h : Guid.IsHyphenated s) :
    IsLexeme s (.guid (String.ofList s)) := by
  have hgroups := afterGroups?_of_isHyphenated h []
  rw [List.append_nil] at hgroups
  obtain ⟨c, m, d, rfl, hc, -⟩ := h.ends
  refine isLexeme_of_start (Guid.isBlank_of_isHexDigit hc) (Guid.ne_hyphen_of_isHexDigit hc)
    (Guid.forall_isHexDigit (P := fun c => c ≠ '/') (by decide) hc) ?_
  have hguid : guidLength? (c :: (m ++ [d])) = some ((m ++ [d]).length + 1) := by
    rw [guidLength?_eq, afterGuid?_of_ne (Guid.ne_brace_of_isHexDigit hc), hgroups]
    rfl
  rw [readStart.eq_def]
  dsimp only
  rw [hguid]
  dsimp only
  rw [← List.length_cons (a := c), List.take_length]

end RowFilter.Token
