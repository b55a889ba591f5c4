import Mathlib.Algebra.Group.Nat.Defs
import RowFilter.Proofs.Token.Stream

/-!
Identifiers among the tokens: what the scanner of tokens takes for an identifier, groups of digits
with hyphens between them and perhaps braces around them, reads as one.
-/

namespace RowFilter

namespace Guid

/-- Hexadecimal digits are found among the first characters of all, so that what is to hold of each
of them can be tried out. -/
theorem forall_isHexDigit {P : Char → Prop}
    (hP : ∀ n < 103, isHexDigit (Char.ofNat n) = true → P (Char.ofNat n)) {c : Char}
    (h : isHexDigit c = true) : P c := by
  have hbound : c.toNat < 103 := by
    unfold isHexDigit hexValue? at h
    simp only [Char.le_def, UInt32.le_iff_toNat_le] at h
    split at h
    · next hc => exact Nat.lt_of_le_of_lt hc.2 (by decide)
    · split at h
      · next hc => exact Nat.lt_of_le_of_lt hc.2 (by decide)
      · split at h
        · next hc => exact Nat.lt_of_le_of_lt hc.2 (by decide)
        · cases h
  rw [← Char.ofNat_toNat c] at h ⊢
  exact hP c.toNat hbound h

theorem isBlank_of_isHexDigit {c : Char} (h : isHexDigit c = true) : Text.isBlank c = false :=
  forall_isHexDigit (P := fun c => Text.isBlank c = false) (by decide) h

theorem ne_hyphen_of_isHexDigit {c : Char} (h : isHexDigit c = true) : c ≠ '-' :=
  forall_isHexDigit (P := fun c => c ≠ '-') (by decide) h

theorem ne_brace_of_isHexDigit {c : Char} (h : isHexDigit c = true) : c ≠ '\x7b' :=
  forall_isHexDigit (P := fun c => c ≠ '\x7b') (by decide) h

theorem ne_quote_of_isHexDigit {c : Char} (h : isHexDigit c = true) : c ≠ '\x27' :=
  forall_isHexDigit (P := fun c => c ≠ '\x27') (by decide) h

/-! ## The hyphenated form -/

theorem hyphenate_append {a b c d e : List Char} (ha : a.length = 8) (hb : b.length = 4)
    (hc : c.length = 4) (hd : d.length = 4) :
    hyphenate (a ++ (b ++ (c ++ (d ++ e)))) =
      a ++ '-' :: (b ++ '-' :: (c ++ '-' :: (d ++ '-' :: e))) := by
  simp [hyphenate, List.drop_append, List.drop_of_length_le, ha, hb, hc, hd]

/-- Without the hyphens only the digits are left. -/
theorem filter_hyphenate_append {a b c d e : List Char} (ha : a.length = 8) (hb : b.length = 4)
    (hc : c.length = 4) (hd : d.length = 4)
    (hhex : ∀ x ∈ a ++ (b ++ (c ++ (d ++ e))), isHexDigit x = true) :
    (hyphenate (a ++ (b ++ (c ++ (d ++ e))))).filter (· ≠ '-') = a ++ (b ++ (c ++ (d ++ e))) := by
  have hgroup (g : List Char) (hg : ∀ x ∈ g, isHexDigit x = true) : g.filter (· ≠ '-') = g :=
    List.filter_eq_self.mpr fun x hx => decide_eq_true (ne_hyphen_of_isHexDigit (hg x hx))
  have hskip (g : List Char) : ('-' :: g).filter (· ≠ '-') = g.filter (· ≠ '-') :=
    List.filter_cons_of_neg (by decide)
  rw [hyphenate_append ha hb hc hd]
  rw [List.forall_mem_append] at hhex
  simp only [List.forall_mem_append] at hhex
  obtain ⟨ha, hb, hc, hd, he⟩ := hhex
  simp only [List.filter_append, hskip, hgroup _ ha, hgroup _ hb, hgroup _ hc, hgroup _ hd,
    hgroup _ he]

/-- The digits in the groups that the hyphens part. -/
theorem exists_groups {ds : List Char} (h : ds.length = 32) :
    ∃ a b c d e, ds = a ++ (b ++ (c ++ (d ++ e))) ∧ a.length = 8 ∧ b.length = 4 ∧
      c.length = 4 ∧ d.length = 4 ∧ e.length = 12 := by
  have hcut (i j : Nat) : (ds.drop i).take j ++ ds.drop (i + j) = ds.drop i := by
    rw [← List.drop_drop]
    exact List.take_append_drop j _
  refine ⟨ds.take 8, (ds.drop 8).take 4, (ds.drop 12).take 4, (ds.drop 16).take 4, ds.drop 20,
    ?_, ?_⟩
  · rw [hcut 16 4, hcut 12 4, hcut 8 4, List.take_append_drop]
  · simp only [List.length_take, List.length_drop, h]
    decide

theorem withinBraces?_of_isHexDigit {c : Char} (s : List Char) (h : isHexDigit c = true) :
    withinBraces? (c :: s) = none := by
  unfold withinBraces?
  split
  · next heq => exact absurd (List.cons_eq_cons.mp heq).1 (ne_brace_of_isHexDigit h)
  · rfl

/-- Groups of 8, 4, 4, 4 and 12 hexadecimal digits with hyphens between them. -/
inductive IsHyphenated : List Char → Prop where
  | mk {a b c d e : List Char} (ha : a.length = 8) (hb : b.length = 4) (hc : c.length = 4)
      (hd : d.length = 4) (he : e.length = 12)
      (hhex : ∀ x ∈ a ++ (b ++ (c ++ (d ++ e))), isHexDigit x = true) :
      IsHyphenated (a ++ '-' :: (b ++ '-' :: (c ++ '-' :: (d ++ '-' :: e))))

namespace IsHyphenated

variable {s : List Char} (h : IsHyphenated s)

include h

theorem length_eq : s.length = 36 := by
  cases h with
  | mk ha hb hc hd he hhex =>
    simp only [List.length_append, List.length_cons]
    omega

/-- A digit stands at either end. -/
theorem ends : ∃ x m y, s = x :: (m ++ [y]) ∧ isHexDigit x = true ∧ isHexDigit y = true := by
  cases h with
  | @mk a b c d e ha hb hc hd he hhex =>
    obtain ⟨x, a', rfl⟩ : ∃ x a', a = x :: a' := List.exists_cons_of_length_eq_add_one ha
    rcases List.eq_nil_or_concat e with rfl | ⟨e', y, rfl⟩
    · cases he
    · refine ⟨x, a' ++ '-' :: (b ++ '-' :: (c ++ '-' :: (d ++ '-' :: e'))), y, ?_, ?_, ?_⟩
      · simp
      · exact hhex x (by simp)
      · exact hhex y (by simp)

theorem exists_hyphenate : ∃ ds, s = hyphenate ds ∧ s.filter (· ≠ '-') = ds ∧ ds.length = 32 ∧
    ∀ x ∈ ds, isHexDigit x = true := by
  cases h with
  | @mk a b c d e ha hb hc hd he hhex =>
    rw [← hyphenate_append ha hb hc hd]
    refine ⟨_, rfl, filter_hyphenate_append ha hb hc hd hhex, ?_, hhex⟩
    simp only [List.length_append]
    omega

theorem isHexDigit_or_eq {x : Char} (hx : x ∈ s) : isHexDigit x = true ∨ x = '-' := by
  by_cases hhyphen : x = '-'
  · exact .inr hhyphen
  · obtain ⟨ds, -, hfilter, -, hhex⟩ := h.exists_hyphenate
    exact .inl (hhex x (hfilter ▸ List.mem_filter.mpr ⟨hx, decide_eq_true hhyphen⟩))

theorem ofHyphenated?_eq : ofHyphenated? s = ofDigits? (s.filter (· ≠ '-')) := by
  obtain ⟨ds, hs, hfilter, -⟩ := h.exists_hyphenate
  rw [ofHyphenated?, hfilter]
  exact if_pos hs

/-- What is hyphenated is not taken for another form. -/
theorem ofForm?_eq : ofForm? s = ofDigits? (s.filter (· ≠ '-')) := by
  rw [← h.ofHyphenated?_eq]
  obtain ⟨x, m, y, rfl, hx, -⟩ := h.ends
  -- no digit is the letter that the long form begins with
  have hurn : afterUrn? (x :: (m ++ [y])) = none := by
    unfold afterUrn?
    apply if_neg
    intro heq
    have hhead : x.toLower = 'u' := by
      simpa [Text.lowerAscii] using congrArg List.head? heq
    exact forall_isHexDigit (P := fun c => c.toLower ≠ 'u') (by decide) hx hhead
  -- with its hyphens it is longer than the bare digits
  have hlength : ¬ (x :: (m ++ [y])).length = 32 := by
    rw [h.length_eq]
    decide
  rw [ofForm?, if_neg hlength, withinBraces?_of_isHexDigit _ hx, hurn]
  rfl

theorem ofForm?_isSome : (ofForm? s).isSome = true := by
  obtain ⟨ds, -, hfilter, hlength, hhex⟩ := h.exists_hyphenate
  rw [h.ofForm?_eq, hfilter, ofDigits?, if_pos ⟨hlength, List.all_eq_true.mpr hhex⟩]
  rfl

end IsHyphenated

/-! ## Identifiers as they are read -/

/-- Nothing is dropped from a text by what its first and its last character refuse. -/
theorem strip_of_ends {p : Char → Bool} {x y : Char} (m : List Char) (hx : p x = false)
    (hy : p y = false) :
    (((x :: (m ++ [y])).dropWhile p).reverse.dropWhile p).reverse = x :: (m ++ [y]) := by
  rw [List.dropWhile_cons_of_neg (by simp [hx])]
  have hreverse : (x :: (m ++ [y])).reverse = y :: (x :: m).reverse := by simp
  rw [hreverse, List.dropWhile_cons_of_neg (by simp [hy])]
  simp

/-- Neither blanks nor quotes are dropped from a text that has none at its ends. -/
theorem read?_of_ends {x y : Char} (m : List Char) (hx : Text.isBlank x = false)
    (hy : Text.isBlank y = false) (hx' : x ≠ '\x27') (hy' : y ≠ '\x27') :
    read? (x :: (m ++ [y])) =
      ofForm? ((withinBraces? (x :: (m ++ [y]))).getD (x :: (m ++ [y]))) := by
  have htrim : Text.trim (x :: (m ++ [y])) = x :: (m ++ [y]) := strip_of_ends m hx hy
  rw [read?, htrim]
  simp only [strip_of_ends (p := fun c => decide (c = '\x27')) m (decide_eq_false hx')
    (decide_eq_false hy')]

theorem IsHyphenated.read?_eq {s : List Char} (h : IsHyphenated s) : read? s = ofForm? s := by
  obtain ⟨x, m, y, rfl, hx, hy⟩ := h.ends
  rw [read?_of_ends m (isBlank_of_isHexDigit hx) (isBlank_of_isHexDigit hy)
    (ne_quote_of_isHexDigit hx) (ne_quote_of_isHexDigit hy), withinBraces?_of_isHexDigit _ hx]
  rfl

/-- Braces around a form are passed over. -/
theorem read?_braced (s : List Char) : read? ('\x7b' :: (s ++ ['\x7d'])) = ofForm? s := by
  have hbraces : withinBraces? ('\x7b' :: (s ++ ['\x7d'])) = some s := by
    rw [withinBraces?, List.getLast?_concat, if_pos rfl, List.dropLast_concat]
  rw [read?_of_ends s (by decide) (by decide) (by decide) (by decide), hbraces]
  rfl

theorem IsHyphenated.read?_braced_isSome {s : List Char} (h : IsHyphenated s) :
    (read? ('\x7b' :: (s ++ ['\x7d']))).isSome = true := by
  rw [read?_braced]
  exact h.ofForm?_isSome

/-! ## The text of an identifier -/

theorem hexValue?_hexDigit {n : Nat} (h : n < 16) : hexValue? (hexDigit n) = some n :=
  (by decide : ∀ n < 16, hexValue? (hexDigit n) = some n) n h

theorem length_hexDigits (n count : Nat) : (hexDigits n count).length = count := by
  induction count generalizing n with
  | zero => rfl
  | succ count ih => rw [hexDigits, List.length_append, ih, List.length_singleton]

theorem isHexDigit_hexDigits {n count : Nat} :
    ∀ c ∈ hexDigits n count, isHexDigit c = true := by
  induction count generalizing n with
  | zero => exact nofun
  | succ count ih =>
    have hlast : isHexDigit (hexDigit (n % 16)) = true := by
      rw [isHexDigit, hexValue?_hexDigit (Nat.mod_lt n (by decide))]
      rfl
    exact List.forall_mem_append.mpr ⟨ih, List.forall_mem_singleton.mpr hlast⟩

/-- A hexadecimal digit is written in lowercase. -/
theorem exists_hexValue? {c : Char} (h : isHexDigit c = true) :
    ∃ n, hexValue? c = some n ∧ n < 16 ∧ hexDigit n = c.toLower :=
  forall_isHexDigit
    (P := fun c => ∃ n, hexValue? c = some n ∧ n < 16 ∧ hexDigit n = c.toLower) (by decide) h

/-- The digits stand for the number up to what they leave out. -/
theorem foldl_hexDigits (n count : Nat) :
    (hexDigits n count).foldl (fun n c => 16 * n + (hexValue? c).getD 0) 0 = n % 16 ^ count := by
  induction count generalizing n with
  | zero => rw [Nat.pow_zero, Nat.mod_one]; rfl
  | succ count ih =>
    rw [hexDigits, List.foldl_append, ih, List.foldl_cons, List.foldl_nil,
      hexValue?_hexDigit (Nat.mod_lt n (by decide)), Option.getD_some, Nat.pow_succ',
      Nat.mod_mul, Nat.add_comm]

theorem isHyphenated_text (g : Guid) : IsHyphenated g.text := by
  have hhex : ∀ x ∈ hexDigits g.number.toNat 32, isHexDigit x = true := isHexDigit_hexDigits
  obtain ⟨a, b, c, d, e, hds, ha, hb, hc, hd, he⟩ :=
    exists_groups (length_hexDigits g.number.toNat 32)
  rw [hds] at hhex
  rw [text, hds, hyphenate_append ha hb hc hd]
  exact .mk ha hb hc hd he hhex

theorem filter_text (g : Guid) : g.text.filter (· ≠ '-') = hexDigits g.number.toNat 32 := by
  have hhex : ∀ x ∈ hexDigits g.number.toNat 32, isHexDigit x = true := isHexDigit_hexDigits
  obtain ⟨a, b, c, d, e, hds, ha, hb, hc, hd, -⟩ :=
    exists_groups (length_hexDigits g.number.toNat 32)
  rw [hds] at hhex
  rw [text, hds]
  exact filter_hyphenate_append ha hb hc hd hhex

/-- An identifier is read back from its text. -/
theorem read?_text (g : Guid) : read? g.text = some g := by
  have hvalue : BitVec.ofNat 128 (g.number.toNat % 16 ^ 32) = g.number := by
    have hlt : g.number.toNat < 16 ^ 32 := g.number.isLt
    rw [Nat.mod_eq_of_lt hlt, BitVec.ofNat_toNat, BitVec.setWidth_eq]
  rw [g.isHyphenated_text.read?_eq, g.isHyphenated_text.ofForm?_eq, g.filter_text, ofDigits?,
    if_pos ⟨length_hexDigits _ _, List.all_eq_true.mpr isHexDigit_hexDigits⟩, foldl_hexDigits,
    hvalue]

end Guid

namespace Token

/-- One group of digits and the hyphen after it. -/
theorem afterGroups?_cons {s rest : List Char} {n m : Nat} {groups : List Nat}
    (h : afterGroups? s (n :: m :: groups) = some rest) :
    ∃ g r, s = g ++ '-' :: r ∧ g.length = n ∧ (∀ x ∈ g, Guid.isHexDigit x = true) ∧
      afterGroups? r (m :: groups) = some rest := by
  unfold afterGroups? at h
  split at h
  · next hg =>
    split at h
    · next heq => cases heq
    · next r heq hdrop =>
      cases heq
      refine ⟨s.take n, r, ?_, hg.1, List.all_eq_true.mp hg.2, h⟩
      rw [← hdrop, List.take_append_drop]
    · cases h
  · cases h

/-- The last group of digits. -/
theorem afterGroups?_singleton {s rest : List Char} {n : Nat}
    (h : afterGroups? s [n] = some rest) :
    ∃ g, s = g ++ rest ∧ g.length = n ∧ ∀ x ∈ g, Guid.isHexDigit x = true := by
  rw [afterGroups?] at h
  split at h
  · next hg =>
    cases h
    exact ⟨s.take n, (List.take_append_drop n s).symm, hg.1, List.all_eq_true.mp hg.2⟩
  · cases h

theorem isHyphenated_of_afterGroups? {s rest : List Char}
    (h : afterGroups? s guidGroups = some rest) : ∃ t, Guid.IsHyphenated t ∧ s = t ++ rest := by
  obtain ⟨a, r, rfl, ha, hexa, h⟩ := afterGroups?_cons h
  obtain ⟨b, r, rfl, hb, hexb, h⟩ := afterGroups?_cons h
  obtain ⟨c, r, rfl, hc, hexc, h⟩ := afterGroups?_cons h
  obtain ⟨d, r, rfl, hd, hexd, h⟩ := afterGroups?_cons h
  obtain ⟨e, rfl, he, hexe⟩ := afterGroups?_singleton h
  refine ⟨_, .mk ha hb hc hd he ?_, by simp⟩
  simp only [List.forall_mem_append]
  exact ⟨hexa, hexb, hexc, hexd, hexe⟩

/-- What the scanner takes for an identifier reads as one. -/
theorem read?_of_guidLength? {s : List Char} {n : Nat} (h : guidLength? s = some n) :
    (Guid.read? (s.take n)).isSome = true := by
  unfold guidLength? at h
  obtain ⟨rest, hrest, rfl⟩ := Option.map_eq_some_iff.mp h
  have hrest := (Option.filter_eq_some_iff.mp hrest).1
  split at hrest
  · next r =>
    split at hrest
    · next tail hgroups =>
      cases hrest
      obtain ⟨t, ht, rfl⟩ := isHyphenated_of_afterGroups? hgroups
      -- the part that is taken ends with the closing brace
      have htake : ('\x7b' :: (t ++ '\x7d' :: rest)).take
          (('\x7b' :: (t ++ '\x7d' :: rest)).length - rest.length) =
            '\x7b' :: (t ++ ['\x7d']) := by
        have hsplit : '\x7b' :: (t ++ '\x7d' :: rest) = '\x7b' :: (t ++ ['\x7d']) ++ rest := by
          simp
        rw [hsplit, List.length_append, Nat.add_sub_cancel, List.take_left]
      rw [htake]
      exact ht.read?_braced_isSome
    · cases hrest
  · obtain ⟨t, ht, rfl⟩ := isHyphenated_of_afterGroups? hrest
    rw [List.length_append, Nat.add_sub_cancel, List.take_left]
    rw [ht.read?_eq]
    exact ht.ofForm?_isSome

/-- A token of the kind of identifiers is what the scanner takes for one. -/
theorem guidLength?_of_readStart {c : Char} {r : List Char} {text : String} {length : Nat}
    (h : readStart c r = .token (.guid text) length) :
    ∃ n, guidLength? (c :: r) = some n ∧ text = String.ofList ((c :: r).take n) := by
  have hquoted (closing : Char) (doubled : Bool) (kind : String → Kind) (what : String)
      (hkind : ∀ content, kind content ≠ .guid text) :
      readQuoted closing doubled kind what r ≠ .token (.guid text) length := by
    unfold readQuoted
    split
    · exact fun heq => hkind _ (Reading.token.inj heq).1
    · exact nofun
  unfold readStart at h
  dsimp only at h
  split at h
  · next n hguid =>
    cases h
    exact ⟨_, hguid, rfl⟩
  · cases h
  -- no other reading gives an identifier
  · split at h
    · unfold readNumber at h
      dsimp only at h
      split at h
      · cases h
      · split at h <;> cases h
    · split at h
      · unfold readWord at h
        dsimp only at h
        split at h <;> cases h
      · split at h
        · exact absurd h (hquoted _ _ _ _ nofun)
        · exact absurd h (hquoted _ _ _ _ nofun)
        · exact absurd h (hquoted _ _ _ _ nofun)
        · exact absurd h (hquoted _ _ _ _ nofun)
        · unfold readSymbol at h
          split at h <;> cases h

/-- Every token of a text was read somewhere. -/
theorem exists_readStart_of_mem {p : Text.Position} {s : List Char} {o : Token}
    (h : o ∈ (streamFrom p s).tokens) : ∃ c r length, readStart c r = .token o.kind length := by
  induction falls s generalizing p with
  | opened hgap =>
    rw [streamFrom_of_open p hgap] at h
    cases h
  | ended hgap hend =>
    rw [streamFrom_of_end p hgap hend] at h
    cases h
  | faulty hgap hnext hfault =>
    obtain ⟨e, hp⟩ := streamFrom_of_fault p hgap hnext hfault
    rw [hp] at h
    cases h
  | token hgap hnext hread _ ih =>
    rw [streamFrom_of_token p hgap hnext hread] at h
    rcases List.mem_cons.mp h with rfl | h
    · exact ⟨_, _, _, hread⟩
    · exact ih h

/-- The identifiers among the tokens of a text read as identifiers. -/
theorem read?_of_mem_tokens {input : String} {o : Token} {text : String}
    (h : o ∈ (stream input).tokens) (ho : o.kind = .guid text) :
    (Guid.read? text.toList).isSome = true := by
  obtain ⟨c, r, length, hread⟩ := exists_readStart_of_mem h
  rw [ho] at hread
  obtain ⟨n, hn, rfl⟩ := guidLength?_of_readStart hread
  rw [String.toList_ofList]
  exact read?_of_guidLength? hn

end Token

end RowFilter
