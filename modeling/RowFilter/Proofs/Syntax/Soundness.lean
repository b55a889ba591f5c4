import RowFilter.Proofs.Outcome
import RowFilter.Proofs.Syntax.Grammar

/-!
What is read from the front of a token list is a phrase of the grammar: every reader of a rank
gives the term of a phrase of that rank, and the tokens that it passes over are the phrase's.
-/

namespace RowFilter.Syntax

open Text (Position)

/-! ## Single tokens -/

/-- Two parts passed over one after the other. -/
theorem split_trans {ts us rest vs rest' : List Token} (h : ts = us ++ rest)
    (h' : rest = vs ++ rest') : ts = us ++ vs ++ rest' := by
  rw [h, h', List.append_assoc]

theorem le_of_descend {finish : Position} {d : Nat} {ts : List Token} {u : Unit}
    (h : descend finish d ts = .ok u) : d + 1 ≤ maxDepth := by
  unfold descend at h
  split at h
  · cases h
  · next hd => exact Nat.le_of_not_lt hd

theorem split_of_startsWith {kind : Token.Kind} {ts : List Token}
    (h : startsWith kind ts = true) : ∃ o, ts = o :: ts.drop 1 ∧ o.kind = kind := by
  cases ts with
  | nil => cases h
  | cons o us =>
    rw [startsWith, decide_eq_true_iff] at h
    exact ⟨o, rfl, h⟩

theorem skipEither_split (a b : Token.Kind) (ts : List Token) :
    ∃ es, ts = es ++ (skipEither a b ts).2 ∧ Optionally a b (skipEither a b ts).1 es := by
  unfold skipEither
  split
  · next h =>
    rw [Bool.or_eq_true] at h
    rcases h with h | h
    · obtain ⟨o, hts, ho⟩ := split_of_startsWith h
      exact ⟨[o], hts, .present (.inl ho)⟩
    · obtain ⟨o, hts, ho⟩ := split_of_startsWith h
      exact ⟨[o], hts, .present (.inr ho)⟩
  · exact ⟨[], rfl, .absent⟩

theorem split_of_expect {finish : Position} {kind : Token.Kind} {what : String} {ts : List Token}
    {p : Parsed Unit ts.length} (h : expect finish kind what ts = .ok p) :
    ∃ o, ts = o :: p.rest ∧ o.kind = kind := by
  cases ts with
  | nil => cases h
  | cons o us =>
    rw [expect] at h
    split at h
    · next ho =>
      cases h
      exact ⟨o, rfl, ho⟩
    · cases h

/-- The tokens that a predicate other than a comparison begins with. -/
def PredicateHead.Opens : PredicateHead → Position → List Token → Prop
  | .like negated => Syntax.Opens .LIKE negated
  | .inList negated => Syntax.Opens .IN negated
  | .isNull => fun p hs => ∃ o : Token, hs = [o] ∧ p = o.position ∧ o.kind = .keyword .IS

theorem split_of_predicateHead {t : Token} {rest : List Token}
    {p : Parsed PredicateHead (t :: rest).length} (h : predicateHead? (t :: rest) = some p) :
    ∃ hs, t :: rest = hs ++ p.rest ∧ p.value.Opens t.position hs := by
  rw [predicateHead?.eq_def] at h
  simp only at h
  split at h
  -- LIKE, IN and IS, each on its own
  · next ht =>
    cases h
    exact ⟨[t], rfl, .plain ht⟩
  · next ht =>
    cases h
    exact ⟨[t], rfl, .plain ht⟩
  · next ht =>
    cases h
    exact ⟨[t], rfl, t, rfl, rfl, ht⟩
  · split at h
    · next hn =>
      split at h
      · split at h
        -- a negation belongs to the head only if LIKE or IN comes after it
        · next hu =>
          cases h
          exact ⟨[t, _], rfl, .negated hn hu⟩
        · next hu =>
          cases h
          exact ⟨[t, _], rfl, .negated hn hu⟩
        · cases h
      · cases h
    · cases h

/-! ## Terms -/

/-- A phrase of a rank stands at the front of the tokens; its term is the value read, and the
tokens after it are the rest. -/
def Reads (r : Rank) (d : Nat) (ts : List Token) {bound : Nat} (p : Parsed Term bound) : Prop :=
  ∃ us, ts = us ++ p.rest ∧ Derives r d us p.value

/-- Phrases with commas between them stand at the front of the tokens. -/
def ReadsItems (d : Nat) (ts : List Token) {bound : Nat} (p : Parsed (List Term) bound) : Prop :=
  ∃ (all : List Token) (items : List (List Token × Term)), ts = all ++ p.rest ∧
    p.value = items.map (·.2) ∧ Separated (.symbol .comma) (items.map (·.1)) all ∧
    ∀ i ∈ items, Derives (.level .or) d i.1 i.2

/-- Phrases with commas between them, none if the list closes at once. -/
def ReadsArguments (d : Nat) (ts : List Token) {bound : Nat} (p : Parsed (List Term) bound) :
    Prop :=
  (ts = p.rest ∧ p.value = []) ∨ ReadsItems d ts p

section Terms

variable {finish : Position}

mutual

theorem reads_chain {c : Chain} {d : Nat} {ts : List Token} {p : Parsed Term ts.length}
    (h : chain finish c d ts = .ok p) : Reads (.level c) d ts p := by
  rw [chain, bind_eq_ok_iff] at h
  obtain ⟨left, hl, h⟩ := h
  rw [bind_eq_ok_iff] at h
  obtain ⟨all, ha, h⟩ := h
  cases h
  obtain ⟨us, hus, hleft⟩ := reads_operand hl
  obtain ⟨n, vs, hvs, hall⟩ := reads_chainTail (.first hleft) ha
  -- the first operand is a chain without operators, and the tail goes on from it
  exact ⟨us ++ vs, split_trans hus hvs, .level hall⟩
termination_by (ts.length, 2 * c.height + 1)
decreasing_by
  · exact Prod.Lex.right _ (by simp)
  · exact Prod.Lex.left _ _ left.fewer

/-- The left side read so far is a chain with `n` operators; the rest of the chain goes on from
level `d + n`. -/
theorem reads_chainTail {c : Chain} {d n : Nat} {left : Term} {us ts : List Token}
    {p : Parsed Term (ts.length + 1)} (hleft : Derives (.links c n) d us left)
    (h : chainTail finish c (d + n) left ts = .ok p) :
    ∃ m vs, ts = vs ++ p.rest ∧ Derives (.links c m) d (us ++ vs) p.value := by
  match ts with
  | [] =>
    rw [chainTail] at h
    cases h
    exact ⟨n, [], rfl, by rwa [List.append_nil]⟩
  | t :: rest =>
    rw [chainTail] at h
    split at h
    · cases h
      exact ⟨n, [], rfl, by rwa [List.append_nil]⟩
    · next op ho =>
      simp only [bind_eq_ok_iff] at h
      obtain ⟨_, hd, right, hr, all, ha, h⟩ := h
      cases h
      obtain ⟨vs, hvs, hright⟩ := reads_operand hr
      -- the left side grows by one operator before the tail is read again
      have hlink := hleft.link ho (le_of_descend hd) hright
      obtain ⟨m, ws, hws, hall⟩ := reads_chainTail hlink ha
      refine ⟨m, t :: (vs ++ ws), congrArg (t :: ·) (split_trans hvs hws), ?_⟩
      rw [List.append_assoc, List.cons_append] at hall
      exact hall
termination_by (ts.length, 0)
decreasing_by
  · exact Prod.Lex.left _ _ (by simp)
  · exact Prod.Lex.left _ _ (by have := right.fewer; simp; omega)

theorem reads_operand {c : Chain} {d : Nat} {ts : List Token} {p : Parsed Term ts.length}
    (h : operand finish c d ts = .ok p) : Reads c.operandRank d ts p := by
  match c with
  | .or =>
    rw [operand] at h
    exact reads_chain h
  | .and =>
    rw [operand] at h
    exact reads_negation h
  | .bitwise =>
    rw [operand] at h
    exact reads_chain h
  | .additive =>
    rw [operand] at h
    exact reads_chain h
  | .multiplicative =>
    rw [operand] at h
    exact reads_signed h
termination_by (ts.length, 2 * c.height)
decreasing_by all_goals exact Prod.Lex.right _ (by simp [Chain.height])

theorem reads_negation {d : Nat} {ts : List Token} {p : Parsed Term ts.length}
    (h : negation finish d ts = .ok p) : Reads .negation d ts p := by
  match ts with
  | [] =>
    rw [negation] at h
    obtain ⟨us, hus, hp⟩ := reads_predicate h
    -- no phrase is empty, so nothing is read from no tokens
    rw [List.nil_eq_append_iff] at hus
    exact absurd hus.1 hp.ne_nil
  | t :: rest =>
    rw [negation] at h
    split at h
    · next ht =>
      simp only [bind_eq_ok_iff] at h
      obtain ⟨_, hd, operand, ho, h⟩ := h
      cases h
      obtain ⟨us, hus, hoperand⟩ := reads_negation ho
      exact ⟨t :: us, congrArg (t :: ·) hus, .not ht (le_of_descend hd) hoperand⟩
    · next ht =>
      obtain ⟨us, hus, hp⟩ := reads_predicate h
      -- the first token of the predicate is the one that is no negation
      obtain ⟨o, vs, rfl, -⟩ := hp.head
      obtain ⟨rfl, -⟩ := List.cons_eq_cons.mp hus
      exact ⟨t :: vs, hus, .condition (Bool.eq_false_iff.mpr ht) hp⟩
termination_by (ts.length, 9)
decreasing_by
  · exact Prod.Lex.right _ (by simp)
  · exact Prod.Lex.right _ (by simp)
  · exact Prod.Lex.left _ _ (by simp)

theorem reads_predicate {d : Nat} {ts : List Token} {p : Parsed Term ts.length}
    (h : predicate finish d ts = .ok p) : Reads .predicate d ts p := by
  rw [predicate, bind_eq_ok_iff] at h
  obtain ⟨left, hl, h⟩ := h
  rw [bind_eq_ok_iff] at h
  obtain ⟨all, ha, h⟩ := h
  cases h
  obtain ⟨us, hus, hleft⟩ := reads_chain hl
  obtain ⟨n, vs, hvs, hall⟩ := reads_predicateTail (.value hleft) ha
  exact ⟨us ++ vs, split_trans hus hvs, .predicate hall⟩
termination_by (ts.length, 8)
decreasing_by
  · exact Prod.Lex.right _ (by simp [Chain.height])
  · exact Prod.Lex.left _ _ left.fewer

/-- The left side read so far has `n` predicates after its value; further ones go on from level
`d + n`. -/
theorem reads_predicateTail {d n : Nat} {left : Term} {us ts : List Token}
    {p : Parsed Term (ts.length + 1)} (hleft : Derives (.suffixed n) d us left)
    (h : predicateTail finish (d + n) left ts = .ok p) :
    ∃ m vs, ts = vs ++ p.rest ∧ Derives (.suffixed m) d (us ++ vs) p.value := by
  match ts with
  | [] =>
    rw [predicateTail] at h
    cases h
    exact ⟨n, [], rfl, by rwa [List.append_nil]⟩
  | t :: rest =>
    rw [predicateTail] at h
    split at h
    · next op ho =>
      simp only [bind_eq_ok_iff] at h
      obtain ⟨_, hd, right, hr, all, ha, h⟩ := h
      cases h
      obtain ⟨vs, hvs, hright⟩ := reads_chain hr
      have hlink := hleft.comparison ho (le_of_descend hd) hright
      obtain ⟨m, ws, hws, hall⟩ := reads_predicateTail hlink ha
      refine ⟨m, t :: (vs ++ ws), congrArg (t :: ·) (split_trans hvs hws), ?_⟩
      rw [List.append_assoc, List.cons_append] at hall
      exact hall
    · split at h
      · cases h
        exact ⟨n, [], rfl, by rwa [List.append_nil]⟩
      · next head hh =>
        simp only [bind_eq_ok_iff] at h
        obtain ⟨_, hd, whole, hw, all, ha, h⟩ := h
        cases h
        -- the tail is read from what the head and the rest of the predicate leave, which is shorter
        have hhead := head.fewer
        have hwhole := whole.fewer
        obtain ⟨hs, hhs, hopens⟩ := split_of_predicateHead hh
        obtain ⟨vs, hvs, hpart⟩ :=
          reads_completePredicate hleft (le_of_descend hd) hopens hw
        obtain ⟨m, ws, hws, hall⟩ := reads_predicateTail hpart ha
        refine ⟨m, hs ++ (vs ++ ws), split_trans hhs (split_trans hvs hws), ?_⟩
        rw [List.append_assoc, List.append_assoc] at hall
        exact hall
termination_by (ts.length, 0)
decreasing_by
  · exact Prod.Lex.left _ _ (by simp)
  · exact Prod.Lex.left _ _ (by have := right.fewer; simp; omega)
  · exact Prod.Lex.left _ _ (by omega)
  · exact Prod.Lex.left _ _ (by omega)

theorem reads_completePredicate {d n : Nat} {left : Term} {head : PredicateHead} {q : Position}
    {us hs ts : List Token} {p : Parsed Term ts.length} (hleft : Derives (.suffixed n) d us left)
    (hd : d + n + 1 ≤ maxDepth) (hh : head.Opens q hs)
    (h : completePredicate finish q (d + n + 1) left head ts = .ok p) :
    ∃ vs, ts = vs ++ p.rest ∧ Derives (.suffixed (n + 1)) d (us ++ (hs ++ vs)) p.value := by
  match head with
  | .like negated =>
    simp only [completePredicate, bind_eq_ok_iff] at h
    obtain ⟨right, hr, h⟩ := h
    cases h
    obtain ⟨es, hes, hexact⟩ := skipEither_split (.keyword .BINARY) (.symbol .tripleEqual) ts
    obtain ⟨vs, hvs, hright⟩ := reads_chain hr
    exact ⟨es ++ vs, split_trans hes hvs, hleft.like hh hd hexact hright⟩
  | .inList negated =>
    simp only [completePredicate, bind_eq_ok_iff] at h
    obtain ⟨opening, ha, list, hl, closing, hz, h⟩ := h
    cases h
    obtain ⟨es, hes, hexact⟩ := skipEither_split (.keyword .BINARY) (.symbol .tripleEqual) ts
    obtain ⟨a, hopening, ha⟩ := split_of_expect ha
    obtain ⟨z, hclosing, hz⟩ := split_of_expect hz
    obtain ⟨all, items, hall, hvalue, hsep, hitems⟩ := reads_items hl
    have hlist : opening.rest = all ++ [z] ++ closing.rest := split_trans hall hclosing
    have hparens : (skipExact ts).2 = a :: (all ++ [z]) ++ closing.rest :=
      hopening.trans (congrArg (a :: ·) hlist)
    refine ⟨es ++ a :: (all ++ [z]), split_trans hes hparens, ?_⟩
    -- the list that is returned is the list of the terms of its items
    · rw [show list.value = items.map (·.2) from hvalue]
      exact hleft.inList hh hd hexact ha hsep hitems hz
  | .isNull =>
    simp only [completePredicate, bind_eq_ok_iff] at h
    obtain ⟨null, hz, h⟩ := h
    cases h
    obtain ⟨o, rfl, rfl, ho⟩ := hh
    obtain ⟨ns, hns, hmark⟩ := skipEither_split (.keyword .NOT) (.symbol .bang) ts
    obtain ⟨z, hnull, hz⟩ := split_of_expect hz
    exact ⟨ns ++ [z], split_trans hns hnull, hleft.isNull ho hd hmark hz⟩
termination_by (ts.length, 20)
decreasing_by
  -- the mark of an exact match may be missing, and then the rank has to go down instead
  · rcases Nat.lt_or_eq_of_le (length_skipExact_le ts) with h | h
    · exact Prod.Lex.left _ _ h
    · rw [h]; exact Prod.Lex.right _ (by simp [Chain.height])
  · have := opening.fewer
    have := length_skipExact_le ts
    exact Prod.Lex.left _ _ (by omega)

theorem reads_signed {d : Nat} {ts : List Token} {p : Parsed Term ts.length}
    (h : signed finish d ts = .ok p) : Reads .signed d ts p := by
  match ts with
  | [] =>
    rw [signed] at h
    obtain ⟨us, hus, hp⟩ := reads_primary h
    exact ⟨us, hus, .unsigned hp⟩
  | t :: rest =>
    rw [signed] at h
    split at h
    · obtain ⟨us, hus, hp⟩ := reads_primary h
      exact ⟨us, hus, .unsigned hp⟩
    · next op ho =>
      simp only [bind_eq_ok_iff] at h
      obtain ⟨_, hd, operand, hr, h⟩ := h
      cases h
      obtain ⟨us, hus, hoperand⟩ := reads_signed hr
      exact ⟨t :: us, congrArg (t :: ·) hus, .sign ho (le_of_descend hd) hoperand⟩
termination_by (ts.length, 1)
decreasing_by
  · exact Prod.Lex.right _ (by simp)
  · exact Prod.Lex.right _ (by simp)
  · exact Prod.Lex.left _ _ (by simp)

theorem reads_primary {d : Nat} {ts : List Token} {p : Parsed Term ts.length}
    (h : primary finish d ts = .ok p) : Reads .primary d ts p := by
  match ts with
  | [] =>
    rw [primary] at h
    cases h
  | t :: rest =>
    rw [primary] at h
    split at h
    · next l hl =>
      cases h
      exact ⟨[t], rfl, .literal hl⟩
    · split at h
      · next ha =>
        simp only [bind_eq_ok_iff] at h
        obtain ⟨_, hd, inner, hi, closing, hz, h⟩ := h
        cases h
        obtain ⟨us, hus, hinner⟩ := reads_chain hi
        obtain ⟨z, hclosing, hz⟩ := split_of_expect hz
        have hrest : rest = us ++ [z] ++ closing.rest := split_trans hus hclosing
        exact ⟨t :: (us ++ [z]), congrArg (t :: ·) hrest,
          .parentheses ha (le_of_descend hd) hinner hz⟩
      · next name ho =>
        split at h
        · next hopen =>
          simp only [bind_eq_ok_iff] at h
          obtain ⟨arguments, hargs, closing, hz, h⟩ := h
          cases h
          obtain ⟨a, hopening, ha⟩ := split_of_startsWith hopen
          obtain ⟨z, hclosing, hz⟩ := split_of_expect hz
          -- a call without arguments is a production of its own
          rcases reads_callItems hargs with ⟨hrest, hnone⟩ | ⟨all, items, hall, hvalue, hsep, hi⟩
          · have hrest := hopening.trans (congrArg (a :: ·) (hrest.trans hclosing))
            refine ⟨[t, a, z], congrArg (t :: ·) hrest, ?_⟩
            rw [hnone]
            exact .callEmpty ho ha hz
          · have hlist : rest.drop 1 = all ++ [z] ++ closing.rest := split_trans hall hclosing
            have hrest := hopening.trans (congrArg (a :: ·) hlist)
            refine ⟨t :: a :: (all ++ [z]), congrArg (t :: ·) hrest, ?_⟩
            rw [hvalue]
            exact .call ho ha hsep hi hz
        · cases h
          exact ⟨[t], rfl, .column ho⟩
      · cases h
termination_by (ts.length, 0)
decreasing_by
  · exact Prod.Lex.left _ _ (by simp)
  · exact Prod.Lex.left _ _ (by simp only [List.length_drop, List.length_cons]; omega)

theorem reads_callItems {d : Nat} {ts : List Token} {p : Parsed (List Term) (ts.length + 1)}
    (h : callItems finish d ts = .ok p) : ReadsArguments d ts p := by
  rw [callItems] at h
  split at h
  · cases h
    exact .inl ⟨rfl, rfl⟩
  · rw [bind_eq_ok_iff] at h
    obtain ⟨list, hl, h⟩ := h
    cases h
    exact .inr (reads_items hl)
termination_by (ts.length, 20)
decreasing_by exact Prod.Lex.right _ (by simp)

theorem reads_items {d : Nat} {ts : List Token} {p : Parsed (List Term) ts.length}
    (h : items finish d ts = .ok p) : ReadsItems d ts p := by
  rw [items, bind_eq_ok_iff] at h
  obtain ⟨first, hf, h⟩ := h
  rw [bind_eq_ok_iff] at h
  obtain ⟨more, hm, h⟩ := h
  cases h
  obtain ⟨us, hus, hfirst⟩ := reads_chain hf
  -- the list ends with this item, or a comma and a list of items follow
  rcases reads_moreItems hm with ⟨hrest, hnone⟩ | ⟨o, rest, ho, hrest, all, list, hall, hv, hs, hi⟩
  · refine ⟨us, [(us, first.value)], hus.trans (congrArg (us ++ ·) hrest), ?_, .last us, ?_⟩
    · rw [hnone]
      rfl
    · intro i hi
      rw [List.mem_singleton.mp hi]
      exact hfirst
  · have hmore : first.rest = o :: all ++ more.rest := hrest.trans (congrArg (o :: ·) hall)
    refine ⟨us ++ o :: all, (us, first.value) :: list, split_trans hus hmore, ?_, .more ho hs, ?_⟩
    · rw [hv]
      rfl
    · intro i hmem
      rcases List.mem_cons.mp hmem with rfl | hmem
      · exact hfirst
      · exact hi i hmem
termination_by (ts.length, 15)
decreasing_by
  · exact Prod.Lex.right _ (by simp [Chain.height])
  · exact Prod.Lex.left _ _ first.fewer

theorem reads_moreItems {d : Nat} {ts : List Token} {p : Parsed (List Term) (ts.length + 1)}
    (h : moreItems finish d ts = .ok p) :
    (ts = p.rest ∧ p.value = []) ∨
      ∃ o rest, o.kind = .symbol .comma ∧ ts = o :: rest ∧ ReadsItems d rest p := by
  match ts with
  | [] =>
    rw [moreItems] at h
    cases h
    exact .inl ⟨rfl, rfl⟩
  | t :: rest =>
    rw [moreItems] at h
    split at h
    · next ht =>
      rw [bind_eq_ok_iff] at h
      obtain ⟨list, hl, h⟩ := h
      cases h
      exact .inr ⟨t, rest, ht, rfl, reads_items hl⟩
    · cases h
      exact .inl ⟨rfl, rfl⟩
termination_by (ts.length, 0)
decreasing_by exact Prod.Lex.left _ _ (by simp)

end

end Terms

end RowFilter.Syntax
