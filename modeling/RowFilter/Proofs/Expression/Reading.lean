import RowFilter.Proofs.Expression.Text
import RowFilter.Proofs.Syntax.Gives

/-!
The tokens of the text of an expression are read as a term of the expression, at every level of
nesting that is left. An expression that is written behind its operand is read as a predicate, and
whatever predicate follows goes on with it; any other is read as a single value.
-/

namespace RowFilter

open Syntax Text

/-! ## Tokens by their kinds -/

namespace Token

/-- A token that may be there. -/
theorem exists_optionally {a b : Kind} {present : Bool} {ts : List Token} {ks : List Kind}
    (h : ts.map kind = (if present then [a] else []) ++ ks) :
    ∃ es us, ts = es ++ us ∧ Optionally a b present es ∧ us.map kind = ks := by
  cases present with
  | false => exact ⟨[], ts, rfl, .absent, h⟩
  | true =>
    obtain ⟨o, us, rfl, ho, hus⟩ := List.map_eq_cons_iff.mp h
    exact ⟨[o], us, rfl, .present (.inl ho), hus⟩

/-- A word that may be negated. -/
theorem exists_opens {word : Keyword} {negated : Bool} {ts : List Token} {ks : List Kind}
    (h : ts.map kind = negationKinds negated ++ .keyword word :: ks) :
    ∃ p hs us, ts = hs ++ us ∧ Opens word negated p hs ∧ us.map kind = ks := by
  cases negated with
  | false =>
    obtain ⟨o, us, rfl, ho, hus⟩ := List.map_eq_cons_iff.mp h
    exact ⟨_, [o], us, rfl, .plain ho, hus⟩
  | true =>
    obtain ⟨n, rest, rfl, hn, hrest⟩ := List.map_eq_cons_iff.mp h
    obtain ⟨o, us, rfl, ho, hus⟩ := List.map_eq_cons_iff.mp hrest
    exact ⟨_, [n, o], us, rfl, .negated (by rw [hn]; rfl) ho, hus⟩

end Token

/-! ## Climbing the levels -/

namespace Syntax

section Levels

variable {finish : Position} {d : Nat} {o : Token} {ts rest rest' : List Token}
  {P Q : Term → Prop}

theorem isNegation_eq_false {k : Token.Kind} (h : unaryOperator? k = none) :
    isNegation k = false := by
  cases hk : isNegation k with
  | false => rfl
  | true =>
    rcases isNegation_iff.mp hk with rfl | rfl <;> cases h

/-- A single value is an operand of every level that is tighter than predicates. -/
theorem gives_operand_of_primary {c : Chain} (hc : c.height ≤ 3) (ho : unaryOperator? o.kind = none)
    (hs : Stops (c.height - 1) rest) (h : Gives (primary finish d (o :: ts)) P rest) :
    Gives (operand finish c d (o :: ts)) P rest := by
  have hsigned : Gives (operand finish .multiplicative d (o :: ts)) P rest := by
    rw [operand]
    exact gives_signed ho h
  have hproduct (hs : Stops 1 rest) : Gives (operand finish .additive d (o :: ts)) P rest := by
    rw [operand]
    exact gives_chain_alone hsigned hs
  cases c with
  | multiplicative => exact hsigned
  | additive => exact hproduct hs
  | bitwise =>
    rw [operand]
    exact gives_chain_alone (hproduct (hs.mono (by decide))) hs
  | and | or => exact absurd hc (by decide)

/-- What is read as a predicate is an operand of AND and of OR. -/
theorem gives_operand_of_predicate {c : Chain} (hc : 4 < c.height)
    (ho : unaryOperator? o.kind = none) (hs : Stops (c.height - 1) rest)
    (h : Gives (predicate finish d (o :: ts)) P rest) :
    Gives (operand finish c d (o :: ts)) P rest := by
  have hcondition : Gives (operand finish .and d (o :: ts)) P rest := by
    rw [operand]
    exact gives_negation (isNegation_eq_false ho) h
  cases c with
  | and => exact hcondition
  | or =>
    rw [operand]
    exact gives_chain_alone hcondition hs
  | bitwise | additive | multiplicative => exact absurd hc (by decide)

theorem gives_or_of_predicate (ho : unaryOperator? o.kind = none)
    (h : Gives (predicate finish d (o :: ts)) P rest) (hs : Stops 6 rest) :
    Gives (chain finish .or d (o :: ts)) P rest :=
  gives_chain_alone (gives_operand_of_predicate (by decide) ho (hs.mono (by decide)) h) hs

theorem gives_or_of_bitwise (ho : unaryOperator? o.kind = none)
    (h : Gives (chain finish .bitwise d (o :: ts)) P rest) (hs : Stops 6 rest) :
    Gives (chain finish .or d (o :: ts)) P rest :=
  gives_or_of_predicate ho
    (gives_predicate h fun _ hleft => gives_predicateTail_stop (hs.mono (by decide)) hleft) hs

/-- What is read as a chain of one level is read as a chain of every looser level. -/
theorem gives_or_of_chain {c : Chain} (ho : unaryOperator? o.kind = none)
    (h : Gives (chain finish c d (o :: ts)) P rest) (hs : Stops 6 rest) :
    Gives (chain finish .or d (o :: ts)) P rest := by
  have hbitwise (h : Gives (operand finish .bitwise d (o :: ts)) P rest) :
      Gives (chain finish .or d (o :: ts)) P rest :=
    gives_or_of_bitwise ho (gives_chain_alone h (hs.mono (by decide))) hs
  cases c with
  | or => exact h
  | and =>
    refine gives_chain_alone ?_ hs
    rwa [operand]
  | bitwise => exact gives_or_of_bitwise ho h hs
  | additive =>
    apply hbitwise
    rwa [operand]
  | multiplicative =>
    apply hbitwise
    rw [operand]
    refine gives_chain_alone ?_ (hs.mono (by decide))
    rwa [operand]

end Levels

end Syntax

/-! ## Operators and functions -/

namespace Operator

/-- An operator is written as a link of a chain, as a comparison, or as a LIKE. -/
theorem kinds_cases (op : Operator) :
    (∃ c k, op.kinds = [k] ∧ Chain.operator? c k = some op) ∨
    (∃ k, op.kinds = [k] ∧ comparison? k = some op) ∨
    ∃ negated exact, op = .ofLike negated exact ∧
      op.kinds = negationKinds negated ++ .keyword .LIKE :: exactKinds exact := by
  cases op with
  | multiply | divide | modulus => exact .inl ⟨.multiplicative, _, rfl, rfl⟩
  | add | subtract => exact .inl ⟨.additive, _, rfl, rfl⟩
  | shiftLeft | shiftRight => exact .inl ⟨.bitwise, _, rfl, rfl⟩
  | bitwiseAnd | bitwiseOr | bitwiseXor => exact .inl ⟨.bitwise, _, rfl, rfl⟩
  | and => exact .inl ⟨.and, _, rfl, rfl⟩
  | or => exact .inl ⟨.or, _, rfl, rfl⟩
  | like => exact .inr (.inr ⟨false, false, rfl, rfl⟩)
  | likeExact => exact .inr (.inr ⟨false, true, rfl, rfl⟩)
  | notLike => exact .inr (.inr ⟨true, false, rfl, rfl⟩)
  | notLikeExact => exact .inr (.inr ⟨true, true, rfl, rfl⟩)
  | _ => exact .inr (.inl ⟨_, rfl, rfl⟩)

/-- The operators of chains that take what is written behind its operand are AND and OR. -/
theorem height_of_chain {c : Chain} {k : Token.Kind} {op : Operator}
    (h : c.operator? k = some op) (hop : (op.isLogical || op.isComparison || op.isLike) = true) :
    4 < c.height := by
  unfold Chain.operator? at h
  split at h <;> cases h <;> first | decide | cases hop

theorem isLogical_of_comparison {k : Token.Kind} {op : Operator} (h : comparison? k = some op) :
    op.isLogical = false := by
  unfold comparison? at h
  split at h <;> cases h <;> rfl

theorem isLogical_ofLike (negated exact : Bool) :
    (Operator.ofLike negated exact).isLogical = false := by
  cases negated <;> cases exact <;> rfl

end Operator

theorem Function.ofName?_name (f : Function) : ofName? f.name = some f :=
  (by decide +kernel : ∀ f ∈ all, ofName? f.name = some f) f f.mem_all

/-- A function is called by its own name. -/
theorem Binding.calledFunction_name {f : Function} {count : Nat}
    (h : f.arity.accepts count = true) : calledFunction f.name count = .ok f := by
  rw [calledFunction, f.ofName?_name]
  exact if_pos h

/-! ## Expressions and their tokens -/

/-- The tokens are read as terms of the expression: as a value if it stands on its own, and always
as the left side of the predicates that follow. -/
structure Expression.ReadsFrom (t : Table) (e : Expression) (ts : List Token) : Prop where
  head : ∃ o us, ts = o :: us ∧ beginsTerm o.kind = true ∧ unaryOperator? o.kind = none
  -- a parenthesis behind a column would make a call of it
  primary : e.isSuffixed = false → ∀ finish d rest, Stops 0 rest →
    Gives (primary finish d (ts ++ rest)) (·.compile t = .ok e) rest
  predicate : ∀ finish d {rest rest' : List Token} {Q : Term → Prop}, Stops 3 rest →
    (∀ d' term, term.compile t = .ok e → Gives (predicateTail finish d' term rest) Q rest') →
      Gives (predicate finish d (ts ++ rest)) Q rest'

namespace Expression.ReadsFrom

section Levels

variable {t : Table} {e : Expression} {ts rest : List Token} {c : Chain}

/-- A value of its own is read at all levels. -/
theorem of_primary
    (head : ∃ o us, ts = o :: us ∧ beginsTerm o.kind = true ∧ unaryOperator? o.kind = none)
    (h : ∀ finish d rest, Stops 0 rest →
      Gives (Syntax.primary finish d (ts ++ rest)) (·.compile t = .ok e) rest) :
    e.ReadsFrom t ts := by
  refine ⟨head, fun _ => h, fun finish d rest rest' Q hs htail => ?_⟩
  obtain ⟨o, us, rfl, -, ho⟩ := head
  refine gives_predicate (gives_chain_alone ?_ hs) (htail d)
  exact gives_operand_of_primary (by decide) ho (hs.mono (by decide))
    (h finish d rest (hs.mono (by decide)))

/-- The first token is none that begins no term. -/
theorem startsWith_eq_false (h : e.ReadsFrom t ts) {kind : Token.Kind}
    (hk : beginsTerm kind = false) (rest : List Token) :
    startsWith kind (ts ++ rest) = false := by
  obtain ⟨o, us, rfl, ho, -⟩ := h.head
  apply startsWith_cons_of_ne
  rintro rfl
  rw [ho] at hk
  cases hk

/-- The operand of a level: of AND and OR whatever the expression is, of the others if it is not
written behind its operand. -/
theorem operand (h : e.ReadsFrom t ts) (hc : e.isSuffixed = true → 4 < c.height)
    (finish : Position) (d : Nat) (hs : Stops (c.height - 1) rest) :
    Gives (operand finish c d (ts ++ rest)) (·.compile t = .ok e) rest := by
  obtain ⟨o, us, rfl, -, ho⟩ := h.head
  by_cases hheight : 4 < c.height
  · apply gives_operand_of_predicate hheight ho hs
    apply h.predicate finish d (hs.mono (by omega))
    intro d' term hterm
    exact gives_predicateTail_stop (hs.mono (by omega)) hterm
  · have hnot : e.isSuffixed = false :=
      Bool.eq_false_iff.mpr fun hsuffixed => hheight (hc hsuffixed)
    have hvalue : c.height ≤ 3 := by cases c <;> first | decide | exact absurd (by decide) hheight
    exact gives_operand_of_primary hvalue ho hs (h.primary hnot finish d rest (hs.mono (by omega)))

theorem chain (h : e.ReadsFrom t ts) (hc : e.isSuffixed = true → 4 < c.height)
    (finish : Position) (d : Nat) (hs : Stops c.height rest) :
    Gives (chain finish c d (ts ++ rest)) (·.compile t = .ok e) rest :=
  gives_chain_alone (h.operand hc finish d (hs.mono (Nat.sub_le ..))) hs

end Levels

/-! ### Operators -/

section Operators

variable {t : Table} {left right : Expression} {ls rs rest : List Token} {op : Operator} {d : Nat}
  {finish : Position}

/-- Two operands with an operator of a level between them. -/
theorem gives_link {c : Chain} {o : Token} (hl : left.ReadsFrom t ls) (hr : right.ReadsFrom t rs)
    (hleft : left.isSuffixed = true → 4 < c.height)
    (hright : right.isSuffixed = true → 4 < c.height) (ho : c.operator? o.kind = some op)
    (hs : Stops 6 rest) : Gives (Syntax.chain finish .or d (ls ++ o :: (rs ++ rest)))
      (·.compile t = .ok (.operator op left right)) rest := by
  have hc : c.height ≤ 6 := by cases c <;> decide
  have hpos := c.height_pos
  have hstop : Stops (c.height - 1) (o :: (rs ++ rest)) := by
    apply stops_cons
    rw [binding_of_operator ho]
    omega
  have hpair : Gives (Syntax.chain finish c d (ls ++ o :: (rs ++ rest)))
      (·.compile t = .ok (.operator op left right)) rest := by
    refine gives_chain_pair (hl.operand hleft finish d hstop) ho
      (hr.operand hright finish (d + 1) (hs.mono (by omega))) (hs.mono hc) ?_
    intro l hl r hr
    rw [Term.compile_join, hl, ok_bind, hr]
    rfl
  obtain ⟨k, us, rfl, -, hk⟩ := hl.head
  exact gives_or_of_chain hk hpair hs

theorem gives_comparison {o : Token} (hl : left.ReadsFrom t ls) (hr : right.ReadsFrom t rs)
    (hright : right.isSuffixed = false) (ho : comparison? o.kind = some op)
    (hs : Stops 6 rest) : Gives (Syntax.chain finish .or d (ls ++ o :: (rs ++ rest)))
      (·.compile t = .ok (.operator op left right)) rest := by
  have hstop : Stops 3 (o :: (rs ++ rest)) := by
    apply stops_cons
    rw [binding_of_comparison ho]
    decide
  have hpredicate : Gives (Syntax.predicate finish d (ls ++ o :: (rs ++ rest)))
      (·.compile t = .ok (.operator op left right)) rest := by
    refine hl.predicate finish d hstop fun d' l hl => ?_
    refine gives_predicateTail_comparison ho
      (hr.chain (c := .bitwise) (by simp [hright]) finish (d' + 1) (hs.mono (by decide))) ?_
    intro r hr
    refine gives_predicateTail_stop (hs.mono (by decide)) ?_
    rw [Term.compile, hl, ok_bind, hr]
    rfl
  obtain ⟨k, us, rfl, -, hk⟩ := hl.head
  exact gives_or_of_predicate hk hpredicate hs

theorem gives_like {negated exact : Bool} {p : Position} {ws es : List Token}
    (hl : left.ReadsFrom t ls) (hr : right.ReadsFrom t rs) (hright : right.isSuffixed = false)
    (hw : Opens .LIKE negated p ws) (he : ExactMark exact es) (hs : Stops 6 rest) :
    Gives (Syntax.chain finish .or d (ls ++ (ws ++ (es ++ (rs ++ rest)))))
      (·.compile t = .ok (.operator (.ofLike negated exact) left right)) rest := by
  have hpredicate : Gives (Syntax.predicate finish d (ls ++ (ws ++ (es ++ (rs ++ rest)))))
      (·.compile t = .ok (.operator (.ofLike negated exact) left right)) rest := by
    refine hl.predicate finish d (hw.stops rfl _) fun d' l hl => ?_
    have hpattern := hr.chain (c := .bitwise) (by simp [hright]) finish (d' + 1)
      (hs.mono (by decide))
    have hword : (PredicateHead.like negated).Opens p ws := hw
    refine gives_predicateTail_head hword (Syntax.gives_like he
      (hr.startsWith_eq_false rfl rest) (hr.startsWith_eq_false rfl rest) hpattern) ?_
    rintro whole ⟨r, hr, rfl⟩
    refine gives_predicateTail_stop (hs.mono (by decide)) ?_
    rw [Term.compile, hl, ok_bind, hr]
    rfl
  obtain ⟨k, us, rfl, -, hk⟩ := hl.head
  exact gives_or_of_predicate hk hpredicate hs

end Operators

theorem operator {t : Table} {op : Operator} {left right : Expression} {ls os rs : List Token}
    {a z : Token} (ha : a.kind = .symbol .leftParen) (hl : left.ReadsFrom t ls)
    (hos : os.map Token.kind = op.kinds) (hr : right.ReadsFrom t rs)
    (hz : z.kind = .symbol .rightParen)
    (hleft : left.isSuffixed = true → (op.isLogical || op.isComparison || op.isLike) = true)
    (hright : right.isSuffixed = true → op.isLogical = true) :
    (Expression.operator op left right).ReadsFrom t (a :: (ls ++ (os ++ (rs ++ [z])))) := by
  refine of_primary ⟨a, _, rfl, by rw [ha]; rfl, by rw [ha]; rfl⟩ fun finish d rest _ => ?_
  have hstop : Stops 6 (z :: rest) := stops_cons rest (by rw [hz]; decide)
  have hunsuffixed (hop : op.isLogical = false) : right.isSuffixed = false :=
    Bool.eq_false_iff.mpr fun h => by rw [hright h] at hop; cases hop
  have hinner : Gives (Syntax.chain finish .or (d + 1) (ls ++ (os ++ (rs ++ z :: rest))))
      (·.compile t = .ok (.operator op left right)) (z :: rest) := by
    rcases op.kinds_cases with ⟨c, k, hk, hop⟩ | ⟨k, hk, hop⟩ | ⟨negated, exact, rfl, hk⟩
    · rw [hk] at hos
      obtain ⟨o, rfl, rfl⟩ := List.map_eq_singleton_iff.mp hos
      exact gives_link hl hr (fun h => Operator.height_of_chain hop (hleft h))
        (fun h => Operator.height_of_chain hop (by rw [hright h]; rfl)) hop hstop
    · rw [hk] at hos
      obtain ⟨o, rfl, rfl⟩ := List.map_eq_singleton_iff.mp hos
      exact gives_comparison hl hr (hunsuffixed (Operator.isLogical_of_comparison hop)) hop hstop
    · rw [hk] at hos
      obtain ⟨p, ws, us, rfl, hw, hus⟩ := Token.exists_opens hos
      obtain ⟨es, vs, rfl, he, hvs⟩ := Token.exists_optionally (hus.trans (List.append_nil _).symm)
      rw [List.map_eq_nil_iff.mp hvs, List.append_nil, List.append_assoc]
      exact gives_like hl hr (hunsuffixed (Operator.isLogical_ofLike negated exact)) hw he hstop
  have htokens : a :: (ls ++ (os ++ (rs ++ [z]))) ++ rest =
      a :: (ls ++ (os ++ (rs ++ z :: rest))) := by simp
  rw [htokens]
  exact gives_parentheses ha hinner hz

/-! ### Lists -/

section Lists

variable {t : Table} {es : List Expression} {finish : Position} {d : Nat}

/-- A list with commas in it is read up to the parenthesis that closes it. -/
theorem gives_items (hes : es ≠ [])
    (h : ∀ e ∈ es, ∀ ts, ts.map Token.kind = e.kinds → e.ReadsFrom t ts) {ts : List Token}
    (hts : ts.map Token.kind = kindsList es) {z : Token} (hz : z.kind = .symbol .rightParen)
    (rest : List Token) :
    Gives (items finish d (ts ++ z :: rest)) (Term.compileAll t · = .ok es) (z :: rest) := by
  induction es generalizing ts with
  | nil => exact absurd rfl hes
  | cons e es ih =>
    obtain ⟨he, hrest⟩ := List.forall_mem_cons.mp h
    cases es with
    | nil =>
      have hstop : Stops 6 (z :: rest) := stops_cons rest (by rw [hz]; decide)
      have hfirst := (he ts hts).chain (c := .or) (fun _ => by decide) finish d hstop
      refine Syntax.gives_items hfirst (gives_moreItems_stop (R := (· = [])) hz rfl) ?_
      rintro first hfirst _ rfl
      rw [Term.compileAll, hfirst]
      rfl
    | cons e' es =>
      obtain ⟨us, vs, rfl, hus, hvs⟩ := List.map_eq_append_iff.mp hts
      obtain ⟨o, ws, rfl, ho, hws⟩ := List.map_eq_cons_iff.mp hvs
      have hstop : Stops 6 (o :: (ws ++ z :: rest)) := stops_cons _ (by rw [ho]; decide)
      have hfirst := (he us hus).chain (c := .or) (fun _ => by decide) finish d hstop
      have hmore := gives_moreItems_comma ho (ih nofun hrest hws)
      rw [List.append_assoc, List.cons_append]
      refine Syntax.gives_items hfirst hmore ?_
      intro first hfirst more hmore
      rw [Term.compileAll, hfirst, ok_bind, hmore]
      rfl

theorem startsWith_list {e : Expression} (he : ∀ ts, ts.map Token.kind = e.kinds → e.ReadsFrom t ts)
    {ts : List Token} (hts : ts.map Token.kind = kindsList (e :: es)) {kind : Token.Kind}
    (hk : beginsTerm kind = false) (rest : List Token) : startsWith kind (ts ++ rest) = false := by
  cases es with
  | nil => exact (he ts hts).startsWith_eq_false hk rest
  | cons e' es =>
    obtain ⟨us, vs, rfl, hus, -⟩ := List.map_eq_append_iff.mp hts
    rw [List.append_assoc]
    exact (he us hus).startsWith_eq_false hk _

end Lists

theorem function {t : Table} {f : Function} {arguments : List Expression} {all : List Token}
    {o y z : Token} (ho : o.kind = .identifier f.name) (hy : y.kind = .symbol .leftParen)
    (hcount : f.arity.accepts arguments.length = true)
    (h : ∀ e ∈ arguments, ∀ ts, ts.map Token.kind = e.kinds → e.ReadsFrom t ts)
    (hall : all.map Token.kind = kindsList arguments) (hz : z.kind = .symbol .rightParen) :
    (Expression.function f arguments).ReadsFrom t (o :: y :: (all ++ [z])) := by
  refine of_primary ⟨o, _, rfl, by rw [ho]; rfl, by rw [ho]; rfl⟩ fun finish d rest _ => ?_
  have hlist : Gives (callItems finish d (all ++ z :: rest)) (Term.compileAll t · = .ok arguments)
      (z :: rest) := by
    cases arguments with
    | nil =>
      rw [List.map_eq_nil_iff.mp hall]
      exact gives_callItems_empty hz rfl
    | cons e es =>
      exact gives_callItems (startsWith_list (h e List.mem_cons_self) hall rfl _)
        (gives_items (List.cons_ne_nil e es) h hall hz rest)
  have htokens : o :: y :: (all ++ [z]) ++ rest = o :: y :: (all ++ z :: rest) := by simp
  rw [htokens]
  refine (gives_call ho hy hlist hz).imp ?_
  rintro whole ⟨list, hlist, rfl⟩
  -- there are as many arguments as there are expressions of them
  have hlength : arguments.length = list.length :=
    (forall_mem_of_compileAll (P := fun _ => True) (fun _ _ _ _ => trivial) hlist).2
  rw [Term.compile, hlist, ok_bind, Binding.calledFunction_name (hlength ▸ hcount)]
  rfl

theorem inList {t : Table} {operand : Expression} {items : List Expression} {negated exact : Bool}
    {os ws es all : List Token} {p : Position} {y z : Token} (h : operand.ReadsFrom t os)
    (hw : Opens .IN negated p ws) (he : ExactMark exact es) (hy : y.kind = .symbol .leftParen)
    (hitems : items ≠ [])
    (hread : ∀ e ∈ items, ∀ ts, ts.map Token.kind = e.kinds → e.ReadsFrom t ts)
    (hall : all.map Token.kind = kindsList items) (hz : z.kind = .symbol .rightParen) :
    (Expression.inList operand items negated exact).ReadsFrom t
      (os ++ (ws ++ (es ++ y :: (all ++ [z])))) := by
  refine ⟨?_, nofun, fun finish d rest rest' Q _ htail => ?_⟩
  · obtain ⟨o, us, rfl, ho⟩ := h.head
    exact ⟨o, _, rfl, ho⟩
  · have htokens : os ++ (ws ++ (es ++ y :: (all ++ [z]))) ++ rest =
        os ++ (ws ++ (es ++ y :: (all ++ z :: rest))) := by simp
    rw [htokens]
    have hword : (PredicateHead.inList negated).Opens p ws := hw
    refine h.predicate finish d (hw.stops rfl _) fun d' left hleft => ?_
    have hlist : Gives (Syntax.items finish (d' + 1) (all ++ z :: rest))
        (Term.compileAll t · = .ok items) (z :: rest) := gives_items hitems hread hall hz rest
    refine gives_predicateTail_head hword (gives_inList he hy hlist hz) ?_
    rintro whole ⟨list, hlist, rfl⟩
    refine htail _ _ ?_
    rw [Term.compile, hleft, ok_bind, hlist]
    rfl

theorem isNull {t : Table} {operand : Expression} {negated : Bool} {os ns : List Token}
    {o z : Token} (h : operand.ReadsFrom t os) (ho : o.kind = .keyword .IS)
    (hn : NegationMark negated ns) (hz : z.kind = .keyword .NULL) :
    (Expression.isNull operand negated).ReadsFrom t (os ++ o :: (ns ++ [z])) := by
  refine ⟨?_, nofun, fun finish d rest rest' Q _ htail => ?_⟩
  · obtain ⟨o, us, rfl, ho⟩ := h.head
    exact ⟨o, _, rfl, ho⟩
  · have htokens : os ++ o :: (ns ++ [z]) ++ rest = os ++ o :: (ns ++ z :: rest) := by simp
    rw [htokens]
    refine h.predicate finish d (stops_cons _ (by rw [ho]; decide)) fun d' left hleft => ?_
    have hword : PredicateHead.isNull.Opens o.position [o] := ⟨o, rfl, rfl, ho⟩
    refine gives_predicateTail_head hword (gives_isNull hn hz) ?_
    rintro whole rfl
    refine htail _ _ ?_
    rw [Term.compile, hleft]
    rfl

theorem value {t : Table} {v : Value} {o : Token} (ho : o.kind = v.kind) (hv : v.IsWritten) :
    (Expression.value v).ReadsFrom t [o] := by
  obtain ⟨l, hl, hvalue⟩ := hv.literal
  rw [← ho] at hl
  refine of_primary ⟨o, [], rfl, beginsTerm_of_literal hl, unaryOperator_of_literal hl⟩
    fun finish d rest _ => .of_outcome (outcome_primary_literal rest hl) ?_
  rw [Term.compile, hvalue]
  rfl

theorem column {t : Table} {c : ColumnRef} {o : Token} (ho : o.kind = .identifier c.name)
    (hc : t.resolve c.name = .ok c) : (Expression.column c).ReadsFrom t [o] := by
  refine of_primary ⟨o, [], rfl, by rw [ho]; rfl, by rw [ho]; rfl⟩ fun finish d rest hs => ?_
  refine .of_outcome (outcome_primary_column ho hs) ?_
  rw [Term.compile, hc]
  rfl

end Expression.ReadsFrom

/-- The tokens of the text of an expression are read as terms of it. -/
theorem Expression.readsFrom_of_kinds {t : Table} (ht : t.WellFormed) {e : Expression}
    (hl : e.Legible) (hc : e.Compiled t) {ts : List Token} (hts : ts.map Token.kind = e.kinds) :
    e.ReadsFrom t ts := by
  induction hl generalizing ts with
  | value hv =>
    cases hc with
    | value h =>
      obtain ⟨o, rfl, ho⟩ := List.map_eq_singleton_iff.mp hts
      exact .value ho (Value.isWritten_of_value h hv)
  | column c =>
    cases hc with
    | column _ h =>
      obtain ⟨o, rfl, ho⟩ := List.map_eq_singleton_iff.mp hts
      exact .column ho (ht.resolve_name h)
  | operator _ _ hleft hright ihl ihr =>
    cases hc with
    | operator hl hr =>
      obtain ⟨a, rest, rfl, ha, hrest⟩ := List.map_eq_cons_iff.mp hts
      obtain ⟨ls, rest, rfl, hls, hrest⟩ := List.map_eq_append_iff.mp hrest
      obtain ⟨os, rest, rfl, hos, hrest⟩ := List.map_eq_append_iff.mp hrest
      obtain ⟨rs, rest, rfl, hrs, hrest⟩ := List.map_eq_append_iff.mp hrest
      obtain ⟨z, rfl, hz⟩ := List.map_eq_singleton_iff.mp hrest
      exact .operator ha (ihl hl hls) hos (ihr hr hrs) hz hleft hright
  | function _ ih =>
    cases hc with
    | function hcount h =>
      obtain ⟨o, rest, rfl, ho, hrest⟩ := List.map_eq_cons_iff.mp hts
      obtain ⟨y, rest, rfl, hy, hrest⟩ := List.map_eq_cons_iff.mp hrest
      obtain ⟨all, rest, rfl, hall, hrest⟩ := List.map_eq_append_iff.mp hrest
      obtain ⟨z, rfl, hz⟩ := List.map_eq_singleton_iff.mp hrest
      exact .function ho hy hcount (fun e he ts hts => ih e he (h e he) hts) hall hz
  | inList _ _ ih ihs =>
    cases hc with
    | inList h hitems hcompiled =>
      obtain ⟨os, rest, rfl, hos, hrest⟩ := List.map_eq_append_iff.mp hts
      obtain ⟨p, ws, rest, rfl, hw, hrest⟩ := Token.exists_opens hrest
      obtain ⟨es, rest, rfl, he, hrest⟩ := Token.exists_optionally hrest
      obtain ⟨y, rest, rfl, hy, hrest⟩ := List.map_eq_cons_iff.mp hrest
      obtain ⟨all, rest, rfl, hall, hrest⟩ := List.map_eq_append_iff.mp hrest
      obtain ⟨z, rfl, hz⟩ := List.map_eq_singleton_iff.mp hrest
      exact .inList (ih h hos) hw he hy hitems (fun e he ts hts => ihs e he (hcompiled e he) hts)
        hall hz
  | isNull _ ih =>
    cases hc with
    | isNull h =>
      obtain ⟨os, rest, rfl, hos, hrest⟩ := List.map_eq_append_iff.mp hts
      obtain ⟨o, rest, rfl, ho, hrest⟩ := List.map_eq_cons_iff.mp hrest
      obtain ⟨ns, rest, rfl, hn, hrest⟩ := Token.exists_optionally hrest
      obtain ⟨z, rfl, hz⟩ := List.map_eq_singleton_iff.mp hrest
      exact .isNull (ih h hos) ho hn hz

end RowFilter
