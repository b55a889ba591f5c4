import RowFilter.Proofs.Token.Case

/-!
Texts that differ in the case of letters within keywords and names. Such texts fall into tokens at
the same places: keywords stay what they are, names keep their spelling up to case, and all other
tokens are the same ones.
-/

namespace RowFilter

namespace Text.Position

/-- A text without line breaks moves the column by its length, any other one goes to a later
line. -/
theorem advance_moves (p : Position) (s : List Char) :
    p.line < (p.advance s).line ∨
      (p.advance s).line = p.line ∧ (p.advance s).column = p.column + s.length := by
  induction s generalizing p with
  | nil => exact .inr ⟨rfl, rfl⟩
  | cons c s ih =>
    have hrest := ih (p.next c)
    rw [advance_cons, List.length_cons]
    unfold next at hrest ⊢
    split at hrest
    · next hc =>
      rw [if_pos hc]
      dsimp only at hrest
      omega
    · next hc =>
      rw [if_neg hc]
      dsimp only at hrest
      omega

theorem eq_nil_of_advance_eq {p : Position} {s : List Char} (h : p.advance s = p) : s = [] := by
  have hmoves := p.advance_moves s
  rw [h] at hmoves
  apply List.eq_nil_of_length_eq_zero
  omega

/-- A position in a text is the end of one part of it only. -/
theorem prefix_eq_of_advance_eq {p : Position} {a b s t : List Char} (h : a ++ s = b ++ t)
    (hp : p.advance a = p.advance b) : a = b := by
  rcases List.append_eq_append_iff.mp h with ⟨m, hb, -⟩ | ⟨m, ha, -⟩
  · rw [hb, advance_append] at hp
    rw [hb, eq_nil_of_advance_eq hp.symm, List.append_nil]
  · rw [ha, advance_append] at hp
    rw [ha, eq_nil_of_advance_eq hp, List.append_nil]

end Text.Position

namespace Token

open Text (Position lowerAscii lowerName)

/-! ## Other spellings -/

/-- A keyword or a name. -/
def Kind.isWord : Kind → Bool
  | .keyword _ | .identifier _ => true
  | _ => false

/-- A spelling of a token: its own, but for the case of ASCII letters if it is a keyword or a
name. -/
structure Respells (o : Token) (w : List Char) : Prop where
  letters : lowerAscii w = lowerAscii o.text.toList
  others : o.kind.isWord = false → w = o.text.toList

/-- A text that starts at a position is gaps with tokens between them, and the other text has the
same gaps and other spellings of the tokens. -/
inductive Recases : Position → List Char → List Token → List Char → Prop where
  | gap (p : Position) (g : List Char) : Recases p g [] g
  | token {p : Position} {g w s s' : List Char} {o : Token} {ts : List Token}
      (hp : o.position = p.advance g) (hw : o.Respells w)
      (h : Recases ((p.advance g).advance o.text.toList) s ts s') :
      Recases p (g ++ (o.text.toList ++ s)) (o :: ts) (g ++ (w ++ s'))

theorem Recases.letters {p : Position} {s s' : List Char} {ts : List Token}
    (h : Recases p s ts s') : lowerAscii s' = lowerAscii s := by
  induction h with
  | gap => rfl
  | token _ hw _ ih => simp only [Text.lowerAscii_append, hw.letters, ih]

/-! ## What a token holds -/

/-- A literal that is closed ends within its own characters. -/
theorem readDelimited?_take {closing : Char} {doubled : Bool} {s content : List Char} {n : Nat}
    (h : readDelimited? closing doubled s = some (content, n)) :
    readDelimited? closing doubled (s.take n) = some (content, n) := by
  induction s using readDelimited?.induct closing doubled generalizing content n with
  | case1 => cases h
  | case2 d rest hd ih =>
    simp only [readDelimited?, if_true, hd] at h
    obtain ⟨⟨inner, m⟩, hinner, heq⟩ := Option.map_eq_some_iff.mp h
    cases heq
    simp only [List.take_succ_cons, readDelimited?, if_true, hd, ih hinner, Option.map_some]
  | case3 d rest hd =>
    simp only [readDelimited?, if_true, hd] at h
    cases h
    simp only [List.take_succ_cons, List.take_zero, readDelimited?, if_true]
  | case4 =>
    simp only [readDelimited?, if_true] at h
    cases h
    simp only [List.take_succ_cons, List.take_zero, readDelimited?, if_true]
  | case5 c rest hc ih =>
    rw [readDelimited?_cons hc] at h
    obtain ⟨⟨inner, m⟩, hinner, heq⟩ := Option.map_eq_some_iff.mp h
    cases heq
    rw [List.take_succ_cons, readDelimited?_cons hc, ih hinner]
    rfl

/-- The content of a quoted literal with its closing mark. -/
def quotedContent (closing : Char) (s : List Char) : String :=
  String.ofList (((readDelimited? closing true s).map Prod.fst).getD [])

/-- The kind of a token, what it holds being taken from its characters. Keywords, symbols and names
are left as they are. -/
def Kind.reread (w : List Char) : Kind → Kind
  | .keyword k => .keyword k
  | .symbol s => .symbol s
  | .identifier name => .identifier name
  | .integer _ => .integer (String.ofList w)
  | .numeric _ => .numeric (String.ofList w)
  | .string _ => .string (quotedContent '\x27' (w.drop 1))
  | .guid _ => .guid (String.ofList w)
  | .dateTime _ => .dateTime (quotedContent '#' (w.drop 1))
  | .measurementKey _ => .measurementKey (String.ofList w)
  | .pointTag _ => .pointTag (quotedContent '\x22' (w.drop 1))

theorem reread_readQuoted {closing : Char} {kindOf : String → Kind} {what : String} {c : Char}
    {r : List Char} {kind : Kind} {length : Nat}
    (hkind : ∀ w content, (kindOf content).reread w = kindOf (quotedContent closing (w.drop 1)))
    (h : readQuoted closing true kindOf what r = .token kind length) :
    kind.reread ((c :: r).take length) = kind := by
  unfold readQuoted at h
  split at h
  · next content n hread =>
    cases h
    rw [hkind, List.take_succ_cons, List.drop_succ_cons, List.drop_zero, quotedContent,
      readDelimited?_take hread]
    rfl
  · cases h

/-- What a token holds is read off its own characters. -/
theorem reread_readStart {c : Char} {r : List Char} {kind : Kind} {length : Nat}
    (h : readStart c r = .token kind length) : kind.reread ((c :: r).take length) = kind := by
  unfold readStart at h
  dsimp only at h
  split at h
  · cases h
    rfl
  · cases h
    rfl
  · split at h
    · unfold readNumber at h
      dsimp only at h
      split at h
      · cases h
      · split at h <;> cases h <;> rfl
    · split at h
      · unfold readWord at h
        dsimp only at h
        split at h <;> cases h <;> rfl
      · split at h
        · exact reread_readQuoted (fun _ _ => rfl) h
        · exact reread_readQuoted (fun _ _ => rfl) h
        · exact reread_readQuoted (fun _ _ => rfl) h
        · unfold readQuoted at h
          split at h <;> cases h
          rfl
        · unfold readSymbol at h
          split at h <;> cases h
          rfl

theorem reread_lowered (k : Kind) (w : List Char) :
    k.lowered.reread w = (k.reread w).rename lowerName := by
  cases k <;> rfl

theorem isWord_lowered (k : Kind) : k.lowered.isWord = k.isWord := by
  cases k <;> rfl

theorem rename_of_isWord {k : Kind} (h : k.isWord = true) : k.rename lowerName = k.lowered := by
  cases k <;> first | rfl | cases h

/-- Kinds that are the same in lowercase are the same but for the case of names, if they are read
off the same characters or keywords or names. -/
theorem rename_eq_of_lowered {k k' : Kind} {w w' : List Char} (hk : k.reread w = k)
    (hk' : k'.reread w' = k') (h : k'.lowered = k.lowered) (hw : k.isWord = false → w' = w) :
    k'.rename lowerName = k.rename lowerName := by
  cases hword : k.isWord with
  | true =>
    have hword' : k'.isWord = true := by rw [← isWord_lowered, h, isWord_lowered, hword]
    rw [rename_of_isWord hword, rename_of_isWord hword', h]
  -- content is not in lowercase, so it is compared through the characters it is read off
  | false => rw [← hk, ← hk', ← reread_lowered, ← reread_lowered, h, hw hword]

/-! ## Tokens -/

/-- How a text begins that falls into a token and more. -/
theorem streamFrom_eq_cons {p finish : Position} {s : List Char} {o : Token} {ts : List Token}
    (h : streamFrom p s = ⟨o :: ts, .ok finish⟩) :
    ∃ n c r length, gapLength s = .ok n ∧ s.drop n = c :: r ∧
      readStart c r = .token o.kind length ∧
      o.text.toList = c :: r.take (length - 1) ∧ o.position = p.advance (s.take n) ∧
      streamFrom (o.position.advance o.text.toList) (r.drop (length - 1)) = ⟨ts, .ok finish⟩ := by
  cases falls s with
  | opened hgap =>
    rw [streamFrom_of_open p hgap] at h
    cases h
  | ended hgap hend =>
    rw [streamFrom_of_end p hgap hend] at h
    cases h
  | faulty hgap hnext hfault =>
    obtain ⟨e, hp⟩ := streamFrom_of_fault p hgap hnext hfault
    rw [hp] at h
    cases h
  | token hgap hnext hread =>
    rw [streamFrom_of_token p hgap hnext hread, Stream.cons] at h
    obtain ⟨htokens, hfinish⟩ := Stream.mk.inj h
    obtain ⟨rfl, hts⟩ := List.cons_eq_cons.mp htokens
    refine ⟨_, _, _, _, hgap, hnext, hread, String.toList_ofList, rfl, ?_⟩
    rw [String.toList_ofList, ← hts, ← hfinish]

/-- A token is read off where its position says that it stands. -/
theorem streamFrom_append_eq_cons {p finish : Position} {g s : List Char} {o : Token}
    {ts : List Token} (h : streamFrom p (g ++ (o.text.toList ++ s)) = ⟨o :: ts, .ok finish⟩)
    (hp : o.position = p.advance g) :
    ∃ c u length, gapLength (g ++ (o.text.toList ++ s)) = .ok g.length ∧
      o.text.toList = c :: u ∧ u.length = length - 1 ∧
      readStart c (u ++ s) = .token o.kind length ∧
      streamFrom ((p.advance g).advance o.text.toList) s = ⟨ts, .ok finish⟩ := by
  obtain ⟨n, c, r, length, hgap, hnext, hread, htext, hposition, hrest⟩ := streamFrom_eq_cons h
  -- the position says how long the gap is, and the gap where the token ends
  have hg : (g ++ (o.text.toList ++ s)).take n = g :=
    Text.Position.prefix_eq_of_advance_eq (List.take_append_drop n _) (hposition.symm.trans hp)
  have hn : g.length = n := by
    have hlength := congrArg List.length hnext
    rw [← hg, List.length_take]
    simp only [List.length_drop, List.length_cons] at hlength
    omega
  subst hn
  rw [List.drop_left, htext, List.cons_append] at hnext
  have hr : r.take (length - 1) ++ s = r := (List.cons_eq_cons.mp hnext).2
  have hs : r.drop (length - 1) = s := by
    have hparts : r.take (length - 1) ++ r.drop (length - 1) = r.take (length - 1) ++ s := by
      rw [List.take_append_drop, hr]
    exact List.append_cancel_left hparts
  refine ⟨c, r.take (length - 1), length, hgap, htext, ?_, ?_, ?_⟩
  · have hle := (readStart_append_break [] (b := '\n') (by decide) hread).2
    rw [List.length_take]
    omega
  · rw [hr]
    exact hread
  · rw [← hp, ← hs]
    exact hrest

/-- A token in another case stands at the start of the other text. -/
theorem readStart_of_letters {c c' : Char} {u v s s' : List Char} {kind : Kind} {length : Nat}
    (h : readStart c (u ++ s) = .token kind length) (hu : u.length = length - 1)
    (hv : v.length = length - 1) (hletters : lowerAscii (c' :: (v ++ s')) = lowerAscii (c :: (u ++ s)))
    (hw : kind.isWord = false → c' :: v = c :: u) :
    ∃ kind', readStart c' (v ++ s') = .token kind' length ∧
      kind'.rename lowerName = kind.rename lowerName := by
  have hlowered : (readStart c' (v ++ s')).lowered = .token kind.lowered length := by
    obtain ⟨hc, hr⟩ := List.cons_eq_cons.mp hletters
    change lowerAscii (v ++ s') = lowerAscii (u ++ s) at hr
    rw [← readStart_lowerAscii, hc, hr, readStart_lowerAscii, h]
    rfl
  cases hread : readStart c' (v ++ s') with
  | unexpected length passed =>
    rw [hread] at hlowered
    cases hlowered
  | unterminated what =>
    rw [hread] at hlowered
    cases hlowered
  | token kind' length' =>
    rw [hread] at hlowered
    obtain ⟨hkind, rfl⟩ := Reading.token.inj hlowered
    refine ⟨kind', rfl, rename_eq_of_lowered (reread_readStart h) (reread_readStart hread) hkind
      fun hword => ?_⟩
    -- both are read off the same characters
    rw [← List.cons_append, ← List.cons_append, hw hword,
      List.take_append_of_le_length (by rw [List.length_cons]; omega),
      List.take_append_of_le_length (by rw [List.length_cons]; omega)]

/-- A text in another case falls into tokens at the same places, of the same kinds but for the case
of names. -/
theorem Recases.streamFrom_eq {p finish : Position} {s s' : List Char} {ts : List Token}
    (h : Recases p s ts s') (hs : streamFrom p s = ⟨ts, .ok finish⟩) :
    ∃ ts', streamFrom p s' = ⟨ts', .ok finish⟩ ∧
      ts'.map (·.kind.rename lowerName) = ts.map (·.kind.rename lowerName) := by
  induction h with
  | gap p g => exact ⟨[], hs, rfl⟩
  | @token p g w s s' o ts hp hw h ih =>
    obtain ⟨c, u, length, hgap, htext, hu, hread, hrest⟩ := streamFrom_append_eq_cons hs hp
    obtain ⟨ts', hts', hnames⟩ := ih hrest
    -- the other spelling stands behind the same gap
    obtain ⟨c', v, rfl, hc, hv⟩ := List.map_eq_cons_iff.mp (hw.letters.trans (by rw [htext]; rfl))
    have hgap' : gapLength (g ++ (c' :: v ++ s')) = .ok g.length := by
      rw [← gapLength_lowerAscii, (Recases.token hp hw h).letters, gapLength_lowerAscii, hgap]
    have hnext' : (g ++ (c' :: v ++ s')).drop g.length = c' :: (v ++ s') := List.drop_left
    -- and is read as the token is
    have hv' : v.length = length - 1 := by
      rw [← hu]
      simpa using congrArg List.length hv
    have hletters : lowerAscii (c' :: v ++ s') = lowerAscii (c :: u ++ s) := by
      rw [Text.lowerAscii_append, Text.lowerAscii_append, hw.letters, htext, h.letters]
    obtain ⟨kind', hread', hkind⟩ := readStart_of_letters hread hu hv' hletters
      fun hword => (hw.others hword).trans htext
    have hadvance : (p.advance g).advance (c' :: v) = (p.advance g).advance o.text.toList := by
      rw [← Text.Position.advance_lowerAscii, hw.letters, Text.Position.advance_lowerAscii]
    have hstream := streamFrom_of_token p hgap' hnext' hread'
    rw [List.take_left, ← hv', List.take_left, List.drop_left, hadvance, hts'] at hstream
    refine ⟨_, hstream, ?_⟩
    rw [List.map_cons, List.map_cons, hnames, hkind]

theorem tokenize_of_recases {text text' : String} {tokens : List Token} {finish : Position}
    (h : tokenize text = .ok (tokens, finish))
    (hr : Recases .start text.toList tokens text'.toList) :
    ∃ tokens', tokenize text' = .ok (tokens', finish) ∧
      tokens'.map (·.kind.rename lowerName) = tokens.map (·.kind.rename lowerName) := by
  obtain ⟨htokens, hfinish⟩ := tokenize_eq_ok_iff.mp h
  have hstream : streamFrom .start text.toList = ⟨tokens, .ok finish⟩ := by
    rw [← htokens, ← hfinish]
    rfl
  obtain ⟨tokens', hstream', hnames⟩ := hr.streamFrom_eq hstream
  refine ⟨tokens', ?_, hnames⟩
  rw [tokenize_eq_ok_iff, stream, hstream']
  exact ⟨rfl, rfl⟩

end Token

end RowFilter
