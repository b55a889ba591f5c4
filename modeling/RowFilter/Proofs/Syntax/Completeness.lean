import RowFilter.Proofs.Syntax.Soundness

/-!
Every phrase of the grammar is found: where what follows a phrase cannot go on with it, the reader
of its rank gives the phrase's term and leaves what follows.
-/

namespace RowFilter.Syntax

open Text (Position)

/-! ## What may follow a phrase -/

/-- The height of the level at which a token goes on with the value before it, by the heights of
`Chain`, four being that of predicates; seven for tokens that end every term. -/
def binding : Token.Kind → Nat
  | .symbol .leftParen => 0
  | .symbol .star | .symbol .slash | .symbol .percent => 1
  | .symbol .plus | .symbol .minus => 2
  | .symbol .amp | .symbol .pipe | .symbol .caret | .keyword .XOR => 3
  | .symbol .shiftLeft | .symbol .shiftRight => 3
  | .symbol .less | .symbol .lessEqual | .symbol .greater | .symbol .greaterEqual => 4
  | .symbol .equal | .symbol .doubleEqual | .symbol .tripleEqual => 4
  | .symbol .notEqual | .symbol .lessGreater | .symbol .notDoubleEqual => 4
  | .keyword .LIKE | .keyword .IN | .keyword .IS | .keyword .NOT | .symbol .bang => 4
  | .keyword .AND | .symbol .ampAmp => 5
  | .keyword .OR | .symbol .pipePipe => 6
  | _ => 7

/-- No token of a height up to `h` comes next. -/
def Stops (h : Nat) : List Token → Prop
  | [] => True
  | t :: _ => h < binding t.kind

theorem Stops.mono {h h' : Nat} {ts : List Token} (hs : Stops h' ts) (hle : h ≤ h') :
    Stops h ts := by
  cases ts with
  | nil => trivial
  | cons t us => exact Nat.lt_of_le_of_lt hle hs

theorem binding_of_operator {c : Chain} {k : Token.Kind} {op : Operator}
    (h : c.operator? k = some op) : binding k = c.height := by
  unfold Chain.operator? at h
  split at h <;> first | rfl | cases h

theorem binding_of_comparison {k : Token.Kind} {op : Operator} (h : comparison? k = some op) :
    binding k = 4 := by
  unfold comparison? at h
  split at h <;> first | rfl | cases h

theorem binding_of_isNegation {k : Token.Kind} (h : isNegation k = true) : binding k = 4 := by
  rcases isNegation_iff.mp h with rfl | rfl <;> rfl

theorem Chain.height_pos (c : Chain) : 0 < c.height := by
  cases c <;> decide

theorem Opens.stops {word : Keyword} {negated : Bool} {p : Position} {hs : List Token}
    (h : Opens word negated p hs) (hw : binding (.keyword word) = 4) (ts : List Token) :
    Stops 3 (hs ++ ts) := by
  cases h with
  | @plain o ho =>
    show 3 < binding o.kind
    rw [ho, hw]
    decide
  | @negated n o hn _ =>
    show 3 < binding n.kind
    rw [binding_of_isNegation hn]
    decide

/-! ## Outcomes -/

/-- What was read and the tokens after it, without the proof that they are fewer. -/
def outcome {α : Type} {bound : Nat} : Except Error (Parsed α bound) → Except Error (α × List Token)
  | .ok p => .ok (p.value, p.rest)
  | .error e => .error e

theorem exists_of_outcome {α : Type} {bound : Nat} {x : Except Error (Parsed α bound)} {a : α}
    {rest : List Token} (h : outcome x = .ok (a, rest)) : ∃ hlt, x = .ok ⟨a, rest, hlt⟩ := by
  cases x with
  | error e => cases h
  | ok p =>
    cases h
    exact ⟨p.fewer, rfl⟩

/-- A bound plays no part in an outcome. -/
theorem outcome_weaken {α : Type} {a b : Nat} (x : Except Error (Parsed α a))
    (f : Parsed α a → a ≤ b) : outcome (x >>= fun p => .ok (p.weaken (f p))) = outcome x := by
  cases x <;> rfl

theorem descend_of_le {finish : Position} {d : Nat} {ts : List Token} (h : d + 1 ≤ maxDepth) :
    descend finish d ts = .ok () := by
  unfold descend
  rw [if_neg (Nat.not_lt.mpr h)]

theorem outcome_expect (finish : Position) {kind : Token.Kind} (what : String) {o : Token}
    (ts : List Token) (ho : o.kind = kind) :
    outcome (expect finish kind what (o :: ts)) = .ok ((), ts) := by
  rw [expect, if_pos ho]
  rfl

/-- An optional token that is not there is not one of those that follow either. -/
theorem skipEither_append {a b : Token.Kind} {present : Bool} {es : List Token}
    (h : Optionally a b present es) {rest : List Token} (ha : startsWith a rest = false)
    (hb : startsWith b rest = false) : skipEither a b (es ++ rest) = (present, rest) := by
  unfold skipEither
  cases h with
  | absent => rw [List.nil_append, ha, hb]; rfl
  | present ho =>
    rw [if_pos]
    · rfl
    · rw [Bool.or_eq_true]
      rcases ho with rfl | rfl
      · exact .inl (by rw [List.singleton_append, startsWith, decide_eq_true_iff])
      · exact .inr (by rw [List.singleton_append, startsWith, decide_eq_true_iff])

theorem startsWith_cons_of_ne {kind : Token.Kind} {o : Token} {ts : List Token}
    (h : o.kind ≠ kind) : startsWith kind (o :: ts) = false := by
  rw [startsWith, decide_eq_false_iff_not]
  exact h

/-- A phrase begins with no token that begins no term. -/
theorem Derives.startsWith_eq_false {r : Rank} {d : Nat} {us : List Token} {t : Term}
    (h : Derives r d us t) {kind : Token.Kind} (hk : beginsTerm kind = false) (rest : List Token) :
    startsWith kind (us ++ rest) = false := by
  obtain ⟨o, vs, rfl, ho⟩ := h.head
  apply startsWith_cons_of_ne
  rintro rfl
  rw [ho] at hk
  cases hk

/-- Phrases with separators between them begin with the first phrase. -/
theorem startsWith_of_separated {kind k : Token.Kind} {d : Nat} {r : Rank} {all : List Token}
    {list : List (List Token × Term)} (hsep : Separated k (list.map (·.1)) all)
    (hi : ∀ i ∈ list, Derives r d i.1 i.2) (hk : beginsTerm kind = false) (rest : List Token) :
    startsWith kind (all ++ rest) = false := by
  generalize hparts : list.map (·.1) = parts at hsep
  cases hsep with
  | last =>
    obtain ⟨i, rfl, rfl⟩ := List.map_eq_singleton_iff.mp hparts
    exact (hi i List.mem_cons_self).startsWith_eq_false hk rest
  | more =>
    obtain ⟨i, list, rfl, rfl, -⟩ := List.map_eq_cons_iff.mp hparts
    rw [List.append_assoc]
    exact (hi i List.mem_cons_self).startsWith_eq_false hk _

section Terms

variable {finish : Position}

/-! ## Steps of the readers -/

theorem outcome_chain {c : Chain} {d : Nat} {ts rest : List Token} {left : Term}
    (h : outcome (operand finish c d ts) = .ok (left, rest)) :
    outcome (chain finish c d ts) = outcome (chainTail finish c d left rest) := by
  obtain ⟨hlt, h⟩ := exists_of_outcome h
  rw [chain, h, ok_bind]
  exact outcome_weaken _ _

theorem outcome_chainTail_stop {c : Chain} {d : Nat} {ts : List Token} {left : Term}
    (h : Stops c.height ts) : outcome (chainTail finish c d left ts) = .ok (left, ts) := by
  cases ts with
  | nil =>
    rw [chainTail]
    rfl
  | cons t rest =>
    -- an operator of the chain would bind exactly as tightly as the chain
    have ht : c.operator? t.kind = none := by
      cases ho : c.operator? t.kind with
      | none => rfl
      | some op =>
        have hh : c.height < binding t.kind := h
        rw [binding_of_operator ho] at hh
        exact absurd hh (Nat.lt_irrefl _)
    rw [chainTail]
    split
    · rfl
    · next ho => rw [ht] at ho; cases ho

theorem outcome_chainTail_link {c : Chain} {d : Nat} {o : Token} {op : Operator}
    {ts rest : List Token} {left right : Term} (ho : c.operator? o.kind = some op)
    (hd : d + 1 ≤ maxDepth) (h : outcome (operand finish c (d + 1) ts) = .ok (right, rest)) :
    outcome (chainTail finish c d left (o :: ts)) =
      outcome (chainTail finish c (d + 1) (c.join o.position op left right) rest) := by
  obtain ⟨hlt, h⟩ := exists_of_outcome h
  rw [chainTail]
  split
  · next ho' => rw [ho] at ho'; cases ho'
  · next op' ho' =>
    rw [ho] at ho'
    cases ho'
    -- the level is checked first, then the right operand is read one level below
    rw [descend_of_le hd, ok_bind, h, ok_bind]
    exact outcome_weaken _ _

theorem outcome_negation_not {d : Nat} {o : Token} {ts rest : List Token} {t : Term}
    (ho : isNegation o.kind = true) (hd : d + 1 ≤ maxDepth)
    (h : outcome (negation finish (d + 1) ts) = .ok (t, rest)) :
    outcome (negation finish d (o :: ts)) = .ok (.not o.position t, rest) := by
  obtain ⟨hlt, h⟩ := exists_of_outcome h
  rw [negation, if_pos ho, descend_of_le hd, ok_bind, h]
  rfl

theorem outcome_negation_condition {d : Nat} {o : Token} {ts : List Token}
    (ho : isNegation o.kind = false) :
    outcome (negation finish d (o :: ts)) = outcome (predicate finish d (o :: ts)) := by
  rw [negation, if_neg (Bool.eq_false_iff.mp ho)]

theorem outcome_predicate {d : Nat} {ts rest : List Token} {left : Term}
    (h : outcome (chain finish .bitwise d ts) = .ok (left, rest)) :
    outcome (predicate finish d ts) = outcome (predicateTail finish d left rest) := by
  obtain ⟨hlt, h⟩ := exists_of_outcome h
  rw [predicate, h, ok_bind]
  exact outcome_weaken _ _

theorem comparison_eq_none {k : Token.Kind} (h : binding k ≠ 4) : comparison? k = none := by
  cases hc : comparison? k with
  | none => rfl
  | some op => exact absurd (binding_of_comparison hc) h

/-- What stops predicates is no start of one. -/
theorem predicateHead_eq_none {t : Token} {ts : List Token} (h : binding t.kind ≠ 4) :
    predicateHead? (t :: ts) = none := by
  rw [predicateHead?.eq_def]
  simp only
  split
  · next ht => rw [ht] at h; exact absurd rfl h
  · next ht => rw [ht] at h; exact absurd rfl h
  · next ht => rw [ht] at h; exact absurd rfl h
  · rw [if_neg (fun hn => h (binding_of_isNegation hn))]

theorem outcome_predicateTail_stop {d : Nat} {ts : List Token} {left : Term} (h : Stops 4 ts) :
    outcome (predicateTail finish d left ts) = .ok (left, ts) := by
  cases ts with
  | nil =>
    rw [predicateTail]
    rfl
  | cons t rest =>
    -- what binds looser than a predicate neither compares nor opens one
    have ht : binding t.kind ≠ 4 := Nat.ne_of_gt h
    rw [predicateTail]
    split
    · next ho => rw [comparison_eq_none ht] at ho; cases ho
    · split
      · rfl
      · next hp => rw [predicateHead_eq_none ht] at hp; cases hp

theorem outcome_predicateTail_comparison {d : Nat} {o : Token} {op : Operator}
    {ts rest : List Token} {left right : Term} (ho : comparison? o.kind = some op)
    (hd : d + 1 ≤ maxDepth)
    (h : outcome (chain finish .bitwise (d + 1) ts) = .ok (right, rest)) :
    outcome (predicateTail finish d left (o :: ts)) =
      outcome (predicateTail finish (d + 1) (.predicate o.position op left right) rest) := by
  obtain ⟨hlt, h⟩ := exists_of_outcome h
  rw [predicateTail]
  split
  · next op' ho' =>
    rw [ho] at ho'
    cases ho'
    rw [descend_of_le hd, ok_bind, h, ok_bind]
    exact outcome_weaken _ _
  · next ho' => rw [ho] at ho'; cases ho'

/-- A list that begins with the tokens of a predicate's word, as it is looked at. -/
def BeginsWith (head : PredicateHead) (p : Position) (ts all : List Token) : Prop :=
  ∃ o us, all = o :: us ∧ p = o.position ∧ comparison? o.kind = none ∧
    ∃ hlt, predicateHead? (o :: us) = some ⟨head, ts, hlt⟩

theorem Opens.beginsWith {word : Keyword} {make : Bool → PredicateHead} {negated : Bool}
    {p : Position} {hs : List Token} (h : Opens word negated p hs)
    (hw : word = .LIKE ∧ make = .like ∨ word = .IN ∧ make = .inList) (ts : List Token) :
    BeginsWith (make negated) p ts (hs ++ ts) := by
  cases h with
  | @plain o ho =>
    refine ⟨o, ts, rfl, rfl, ?_, by simp, ?_⟩
    · rw [ho]; rfl
    · rcases hw with ⟨rfl, rfl⟩ | ⟨rfl, rfl⟩ <;> simp only [predicateHead?, ho]
  -- the negation is the first token, and the word behind it decides
  | @negated n o hn ho =>
    refine ⟨n, o :: ts, rfl, rfl, ?_, by simp only [List.length_cons]; omega, ?_⟩
    · rcases isNegation_iff.mp hn with hn | hn <;> rw [hn] <;> rfl
    · rcases hw with ⟨rfl, rfl⟩ | ⟨rfl, rfl⟩ <;> rcases isNegation_iff.mp hn with hn | hn <;>
        simp [predicateHead?, hn, ho, isNegation]

theorem PredicateHead.Opens.beginsWith {head : PredicateHead} {p : Position} {hs : List Token}
    (h : head.Opens p hs) (ts : List Token) : BeginsWith head p ts (hs ++ ts) := by
  cases head with
  | like negated => exact Syntax.Opens.beginsWith h (.inl ⟨rfl, rfl⟩) ts
  | inList negated => exact Syntax.Opens.beginsWith h (.inr ⟨rfl, rfl⟩) ts
  | isNull =>
    obtain ⟨o, rfl, rfl, ho⟩ := h
    refine ⟨o, ts, rfl, rfl, by rw [ho]; rfl, by simp, ?_⟩
    simp only [predicateHead?, ho]

theorem outcome_predicateTail_head {d : Nat} {head : PredicateHead} {p : Position}
    {hs ts rest : List Token} {left whole : Term} (hh : head.Opens p hs) (hd : d + 1 ≤ maxDepth)
    (h : outcome (completePredicate finish p (d + 1) left head ts) = .ok (whole, rest)) :
    outcome (predicateTail finish d left (hs ++ ts)) =
      outcome (predicateTail finish (d + 1) whole rest) := by
  obtain ⟨o, us, hus, rfl, hc, hlt, hp⟩ := hh.beginsWith ts
  obtain ⟨hlt', h⟩ := exists_of_outcome h
  rw [hus, predicateTail]
  split
  · next ho => rw [hc] at ho; cases ho
  · split
    · next hn => rw [hp] at hn; cases hn
    · next head' hs =>
      rw [hp] at hs
      cases hs
      rw [descend_of_le hd, ok_bind, h, ok_bind]
      exact outcome_weaken _ _

theorem skipExact_append {exact : Bool} {es ts : List Token} (h : ExactMark exact es)
    (hb : startsWith (.keyword .BINARY) ts = false)
    (he : startsWith (.symbol .tripleEqual) ts = false) : skipExact (es ++ ts) = (exact, ts) :=
  skipEither_append h hb he

theorem outcome_completePredicate_like {d : Nat} {negated exact : Bool} {p : Position}
    {es ts rest : List Token} {left right : Term} (he : ExactMark exact es)
    (hb : startsWith (.keyword .BINARY) ts = false)
    (ht : startsWith (.symbol .tripleEqual) ts = false)
    (h : outcome (chain finish .bitwise d ts) = .ok (right, rest)) :
    outcome (completePredicate finish p d left (.like negated) (es ++ ts)) =
      .ok (.predicate p (.ofLike negated exact) left right, rest) := by
  have hskip := skipExact_append he hb ht
  -- the pattern is read behind the mark, whether the mark is there or not
  have hchain : outcome (chain finish .bitwise d (skipExact (es ++ ts)).2) = .ok (right, rest) := by
    rw [hskip]
    exact h
  obtain ⟨hlt, hchain⟩ := exists_of_outcome hchain
  rw [completePredicate, hchain]
  show Except.ok (Term.predicate p (.ofLike negated (skipExact (es ++ ts)).1) left right, rest) = _
  rw [hskip]

theorem outcome_completePredicate_inList {d : Nat} {negated exact : Bool} {p : Position}
    {es ts rest : List Token} {a z : Token} {left : Term} {list : List Term}
    (he : ExactMark exact es) (ha : a.kind = .symbol .leftParen)
    (h : outcome (items finish d ts) = .ok (list, z :: rest))
    (hz : z.kind = .symbol .rightParen) :
    outcome (completePredicate finish p d left (.inList negated) (es ++ a :: ts)) =
      .ok (.inList p left list negated exact, rest) := by
  -- the parenthesis is no mark of an exact match
  have hskip : skipExact (es ++ a :: ts) = (exact, a :: ts) :=
    skipExact_append he (startsWith_cons_of_ne (by rw [ha]; exact nofun))
      (startsWith_cons_of_ne (by rw [ha]; exact nofun))
  have hopen : outcome (expect finish (.symbol .leftParen) "'('" (skipExact (es ++ a :: ts)).2) =
      .ok ((), ts) := by
    rw [hskip]
    exact outcome_expect finish _ ts ha
  obtain ⟨_, hopen⟩ := exists_of_outcome hopen
  obtain ⟨_, hitems⟩ := exists_of_outcome h
  obtain ⟨_, hclose⟩ := exists_of_outcome (outcome_expect finish "')'" rest hz)
  rw [completePredicate, hopen, ok_bind, hitems, ok_bind, hclose]
  show Except.ok (Term.inList p left list negated (skipExact (es ++ a :: ts)).1, rest) = _
  rw [hskip]

theorem outcome_completePredicate_isNull {d : Nat} {negated : Bool} {p : Position}
    {ns : List Token} {z : Token} {left : Term} (rest : List Token) (hn : NegationMark negated ns)
    (hz : z.kind = .keyword .NULL) :
    outcome (completePredicate finish p d left .isNull (ns ++ z :: rest)) =
      .ok (.isNull p left negated, rest) := by
  -- NULL is no negation
  have hskip : skipNegation (ns ++ z :: rest) = (negated, z :: rest) :=
    skipEither_append hn (startsWith_cons_of_ne (by rw [hz]; exact nofun))
      (startsWith_cons_of_ne (by rw [hz]; exact nofun))
  have hnull : outcome (expect finish (.keyword .NULL) "NULL"
      (skipNegation (ns ++ z :: rest)).2) = .ok ((), rest) := by
    rw [hskip]
    exact outcome_expect finish _ rest hz
  obtain ⟨_, hnull⟩ := exists_of_outcome hnull
  rw [completePredicate, hnull]
  show Except.ok (Term.isNull p left (skipNegation (ns ++ z :: rest)).1, rest) = _
  rw [hskip]

theorem outcome_signed_sign {d : Nat} {o : Token} {op : UnaryOperator} {ts rest : List Token}
    {t : Term} (ho : unaryOperator? o.kind = some op) (hd : d + 1 ≤ maxDepth)
    (h : outcome (signed finish (d + 1) ts) = .ok (t, rest)) :
    outcome (signed finish d (o :: ts)) = .ok (.unary o.position op t, rest) := by
  obtain ⟨_, h⟩ := exists_of_outcome h
  rw [signed]
  split
  · next hn => rw [ho] at hn; cases hn
  · next op' hs =>
    rw [ho] at hs
    cases hs
    rw [descend_of_le hd, ok_bind, h]
    rfl

theorem outcome_signed_unsigned {d : Nat} {o : Token} {ts : List Token}
    (ho : unaryOperator? o.kind = none) :
    outcome (signed finish d (o :: ts)) = outcome (primary finish d (o :: ts)) := by
  rw [signed]
  split
  · rfl
  · next op hs => rw [ho] at hs; cases hs

theorem outcome_primary_literal {d : Nat} {o : Token} {l : Literal} (rest : List Token)
    (ho : literal? o.kind = some l) :
    outcome (primary finish d (o :: rest)) = .ok (.literal o.position l, rest) := by
  rw [primary]
  split
  · next l' hs => rw [ho] at hs; cases hs; rfl
  · next hn => rw [ho] at hn; cases hn

theorem outcome_primary_parentheses {d : Nat} {a z : Token} {ts rest : List Token} {t : Term}
    (ha : a.kind = .symbol .leftParen) (hd : d + 1 ≤ maxDepth)
    (h : outcome (chain finish .or (d + 1) ts) = .ok (t, z :: rest))
    (hz : z.kind = .symbol .rightParen) :
    outcome (primary finish d (a :: ts)) = .ok (t, rest) := by
  obtain ⟨_, h⟩ := exists_of_outcome h
  obtain ⟨_, hclose⟩ := exists_of_outcome (outcome_expect finish "')'" rest hz)
  rw [primary]
  split
  · next hl => rw [ha] at hl; cases hl
  · split
    · rw [descend_of_le hd, ok_bind, h, ok_bind, hclose]
      rfl
    · next ho => rw [ha] at ho; cases ho
    · next hn _ => exact absurd ha hn

theorem outcome_primary_column {d : Nat} {o : Token} {name : String} {rest : List Token}
    (ho : o.kind = .identifier name) (hs : Stops 0 rest) :
    outcome (primary finish d (o :: rest)) = .ok (.column o.position name, rest) := by
  -- a parenthesis behind the name would make it a call, and a parenthesis binds tightest
  have hstart : startsWith (.symbol .leftParen) rest = false := by
    cases rest with
    | nil => rfl
    | cons t us =>
      apply startsWith_cons_of_ne
      intro ht
      have hb : 0 < binding t.kind := hs
      rw [ht] at hb
      exact absurd hb (Nat.lt_irrefl 0)
  rw [primary]
  split
  · next hl => rw [ho] at hl; cases hl
  · split
    · next ha => rw [ho] at ha; cases ha
    · next name' hname =>
      rw [ho] at hname
      cases hname
      rw [if_neg (Bool.eq_false_iff.mp hstart)]
      rfl
    · next hn => exact absurd ho (hn name)

theorem outcome_primary_call {d : Nat} {o a z : Token} {name : String} {ts rest : List Token}
    {list : List Term} (ho : o.kind = .identifier name) (ha : a.kind = .symbol .leftParen)
    (h : outcome (callItems finish d ts) = .ok (list, z :: rest))
    (hz : z.kind = .symbol .rightParen) :
    outcome (primary finish d (o :: a :: ts)) = .ok (.call o.position name list, rest) := by
  have hstart : startsWith (.symbol .leftParen) (a :: ts) = true := by
    rw [startsWith, decide_eq_true_iff]
    exact ha
  have h : outcome (callItems finish d ((a :: ts).drop 1)) = .ok (list, z :: rest) := h
  obtain ⟨_, h⟩ := exists_of_outcome h
  obtain ⟨_, hclose⟩ := exists_of_outcome (outcome_expect finish "')'" rest hz)
  rw [primary]
  split
  · next hl => rw [ho] at hl; cases hl
  · split
    · next hl => rw [ho] at hl; cases hl
    · next name' hname =>
      rw [ho] at hname
      cases hname
      rw [if_pos hstart, h, ok_bind, hclose]
      rfl
    · next hn => exact absurd ho (hn name)

/-! ## Lists -/

theorem outcome_items {d : Nat} {ts rest rest' : List Token} {first : Term} {more : List Term}
    (h : outcome (chain finish .or d ts) = .ok (first, rest))
    (h' : outcome (moreItems finish d rest) = .ok (more, rest')) :
    outcome (items finish d ts) = .ok (first :: more, rest') := by
  obtain ⟨_, h⟩ := exists_of_outcome h
  obtain ⟨_, h'⟩ := exists_of_outcome h'
  rw [items, h, ok_bind, h']
  rfl

theorem outcome_moreItems_comma {d : Nat} {o : Token} {ts : List Token}
    (ho : o.kind = .symbol .comma) :
    outcome (moreItems finish d (o :: ts)) = outcome (items finish d ts) := by
  rw [moreItems, if_pos ho]
  exact outcome_weaken _ _

theorem outcome_moreItems_stop {d : Nat} {z : Token} (rest : List Token)
    (hz : z.kind = .symbol .rightParen) :
    outcome (moreItems finish d (z :: rest)) = .ok ([], z :: rest) := by
  rw [moreItems, if_neg (by rw [hz]; exact nofun)]
  rfl

/-- A list of phrases with commas between them is read up to the parenthesis that closes it. -/
theorem outcome_items_of_separated {d : Nat} {all : List Token}
    {list : List (List Token × Term)} (hsep : Separated (.symbol .comma) (list.map (·.1)) all)
    (hi : ∀ i ∈ list, ∀ rest, Stops Chain.or.height rest →
      outcome (chain finish .or d (i.1 ++ rest)) = .ok (i.2, rest))
    {z : Token} (rest : List Token) (hz : z.kind = .symbol .rightParen) :
    outcome (items finish d (all ++ z :: rest)) = .ok (list.map (·.2), z :: rest) := by
  generalize hparts : list.map (·.1) = parts at hsep
  induction hsep generalizing list with
  | last ts =>
    obtain ⟨i, rfl, rfl⟩ := List.map_eq_singleton_iff.mp hparts
    -- the closing parenthesis ends the last item
    have hz' : Stops Chain.or.height (z :: rest) := by
      show 6 < binding z.kind
      rw [hz]
      decide
    exact outcome_items (hi i List.mem_cons_self _ hz') (outcome_moreItems_stop rest hz)
  | @more ts all parts o ho _ ih =>
    obtain ⟨i, list, rfl, rfl, hlist⟩ := List.map_eq_cons_iff.mp hparts
    -- a comma ends every other item
    have ho' : Stops Chain.or.height (o :: (all ++ z :: rest)) := by
      show 6 < binding o.kind
      rw [ho]
      decide
    rw [List.append_assoc, List.cons_append]
    refine outcome_items (hi i List.mem_cons_self _ ho') ?_
    rw [outcome_moreItems_comma ho]
    exact ih (fun j hj => hi j (List.mem_cons_of_mem i hj)) hlist

theorem outcome_callItems_empty {d : Nat} {z : Token} (rest : List Token)
    (hz : z.kind = .symbol .rightParen) :
    outcome (callItems finish d (z :: rest)) = .ok ([], z :: rest) := by
  have hstart : startsWith (.symbol .rightParen) (z :: rest) = true := by
    rw [startsWith, decide_eq_true_iff]
    exact hz
  rw [callItems, if_pos hstart]
  rfl

theorem outcome_callItems {d : Nat} {ts : List Token}
    (h : startsWith (.symbol .rightParen) ts = false) :
    outcome (callItems finish d ts) = outcome (items finish d ts) := by
  rw [callItems, if_neg (Bool.eq_false_iff.mp h)]
  exact outcome_weaken _ _

/-! ## Phrases -/

variable (finish) in
/-- The phrase is found in front of everything that stops its rank. What has been put together of
a chain, or of the predicates after a value, is where the reader of their rest goes on. -/
def Found : Rank → Nat → List Token → Term → Prop
  | .level c, d, us, t => ∀ rest, Stops c.height rest →
      outcome (chain finish c d (us ++ rest)) = .ok (t, rest)
  | .links c n, d, us, t => ∀ rest, Stops (c.height - 1) rest →
      outcome (chain finish c d (us ++ rest)) = outcome (chainTail finish c (d + n) t rest)
  | .negation, d, us, t => ∀ rest, Stops 4 rest →
      outcome (negation finish d (us ++ rest)) = .ok (t, rest)
  | .predicate, d, us, t => ∀ rest, Stops 4 rest →
      outcome (predicate finish d (us ++ rest)) = .ok (t, rest)
  | .suffixed n, d, us, t => ∀ rest, Stops 3 rest →
      outcome (predicate finish d (us ++ rest)) = outcome (predicateTail finish (d + n) t rest)
  | .signed, d, us, t => ∀ rest, Stops 0 rest →
      outcome (signed finish d (us ++ rest)) = .ok (t, rest)
  | .primary, d, us, t => ∀ rest, Stops 0 rest →
      outcome (primary finish d (us ++ rest)) = .ok (t, rest)

/-- The operand of a chain is found where nothing tighter than the chain follows. -/
theorem Found.operand {c : Chain} {d : Nat} {us : List Token} {t : Term}
    (h : Found finish c.operandRank d us t) {rest : List Token} (hs : Stops (c.height - 1) rest) :
    outcome (operand finish c d (us ++ rest)) = .ok (t, rest) := by
  cases c <;> rw [Syntax.operand] <;> exact h rest hs

theorem stops_cons {h : Nat} {o : Token} (rest : List Token) (ho : h < binding o.kind) :
    Stops h (o :: rest) := ho

theorem unaryOperator_of_literal {k : Token.Kind} {l : Literal} (h : literal? k = some l) :
    unaryOperator? k = none := by
  unfold literal? at h
  split at h <;> first | rfl | cases h

/-- The first token of a primary term is no sign. -/
theorem Derives.unaryOperator_eq_none {d : Nat} {o : Token} {us : List Token} {t : Term}
    (h : Derives .primary d (o :: us) t) : unaryOperator? o.kind = none := by
  cases h with
  | literal ho => exact unaryOperator_of_literal ho
  | column ho | callEmpty ho | call ho => rw [ho]; rfl
  | parentheses ha => rw [ha]; rfl

variable (finish) in
theorem Derives.found {r : Rank} {d : Nat} {us : List Token} {t : Term} (h : Derives r d us t) :
    Found finish r d us t := by
  -- by induction on the derivation, for every rest that stops the rank of the phrase
  induction h with
  | first _ ih =>
    intro rest hs
    exact outcome_chain (ih.operand hs)
  | @link c d n ts us o op left right _ ho hd _ ihl ihr =>
    intro rest hs
    -- the operator stops the operand before it, which binds tighter than the chain
    have hbind : c.height - 1 < binding o.kind := by
      rw [binding_of_operator ho]
      exact Nat.sub_lt c.height_pos Nat.one_pos
    rw [List.append_assoc, List.cons_append, ihl _ (stops_cons _ hbind)]
    exact outcome_chainTail_link ho hd (ihr.operand hs)
  | level _ ih =>
    intro rest hs
    -- what stops the whole chain stops its operands too, and then the tail finds nothing more
    rw [ih rest (hs.mono (Nat.sub_le _ 1))]
    exact outcome_chainTail_stop hs
  | not ho hd _ ih =>
    intro rest hs
    exact outcome_negation_not ho hd (ih rest hs)
  | condition ho _ ih =>
    intro rest hs
    rw [List.cons_append, outcome_negation_condition ho]
    exact ih rest hs
  | value _ ih =>
    intro rest hs
    exact outcome_predicate (ih rest hs)
  | comparison _ ho hd _ ihl ihr =>
    intro rest hs
    have hbind := binding_of_comparison ho
    rw [List.append_assoc, List.cons_append, ihl _ (stops_cons _ (by omega))]
    exact outcome_predicateTail_comparison ho hd (ihr rest hs)
  | @like d n ts ws es us negated exact p left right _ hh hd he hr ihl ihr =>
    intro rest hs
    -- the head stops the value before it; the mark and the pattern follow the head
    have hhead : (PredicateHead.like negated).Opens p ws := hh
    rw [List.append_assoc, List.append_assoc, List.append_assoc, ihl _ (hh.stops rfl _)]
    exact outcome_predicateTail_head hhead hd
      (outcome_completePredicate_like he (hr.startsWith_eq_false rfl rest)
        (hr.startsWith_eq_false rfl rest) (ihr rest hs))
  | @inList d n ts ws es all negated exact p left a z list _ hh hd he ha hall _ hz ihl ihi =>
    intro rest hs
    have hhead : (PredicateHead.inList negated).Opens p ws := hh
    rw [List.append_assoc, List.append_assoc, List.append_assoc, List.cons_append,
      List.append_assoc, List.singleton_append, ihl _ (hh.stops rfl _)]
    exact outcome_predicateTail_head hhead hd
      (outcome_completePredicate_inList he ha (outcome_items_of_separated hall ihi rest hz) hz)
  | @isNull d n ts ns negated left o z _ ho hd hn hz ihl =>
    intro rest hs
    have hbind : 3 < binding o.kind := by
      rw [ho]
      decide
    have hh : PredicateHead.isNull.Opens o.position [o] := ⟨o, rfl, rfl, ho⟩
    rw [List.append_assoc, List.cons_append, List.append_assoc, List.singleton_append,
      ihl _ (stops_cons _ hbind)]
    exact outcome_predicateTail_head hh hd (outcome_completePredicate_isNull rest hn hz)
  | predicate _ ih =>
    intro rest hs
    rw [ih rest (hs.mono (by decide))]
    exact outcome_predicateTail_stop hs
  | sign ho hd _ ih =>
    intro rest hs
    exact outcome_signed_sign ho hd (ih rest hs)
  | unsigned h ih =>
    intro rest hs
    -- a primary term begins with no sign, so the reader goes straight to it
    obtain ⟨o, us, rfl, -⟩ := h.head
    rw [List.cons_append, outcome_signed_unsigned h.unaryOperator_eq_none]
    exact ih rest hs
  | literal ho =>
    intro rest _
    exact outcome_primary_literal rest ho
  | column ho =>
    intro rest hs
    exact outcome_primary_column ho hs
  | @parentheses d a z ts t ha hd _ hz ih =>
    intro rest _
    have hbind : Chain.or.height < binding z.kind := by
      rw [hz]
      decide
    rw [List.cons_append, List.append_assoc, List.singleton_append]
    exact outcome_primary_parentheses ha hd (ih _ (stops_cons rest hbind)) hz
  | callEmpty ho ha hz =>
    intro rest _
    exact outcome_primary_call ho ha (outcome_callItems_empty rest hz) hz
  | @call d o a z name all list ho ha hall hi hz ih =>
    intro rest _
    have hitems := outcome_items_of_separated hall ih rest hz
    -- arguments begin with a term, which is no closing parenthesis
    rw [← outcome_callItems (startsWith_of_separated hall hi rfl _)] at hitems
    rw [List.cons_append, List.cons_append, List.append_assoc, List.singleton_append]
    exact outcome_primary_call ho ha hitems hz

end Terms

end RowFilter.Syntax
