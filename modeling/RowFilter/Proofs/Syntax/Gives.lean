import RowFilter.Proofs.Syntax.Completeness

/-!
Readers that can fail in one way only: they read what is there and leave what follows, or they
report that the levels of nesting are used up. Nothing is said of how many levels are left, so what
the readers give is put together without counting them.
-/

namespace RowFilter

/-- The report that a text is nested too deeply. -/
def Error.IsTooDeep : Error → Prop
  | .grammar .nestedTooDeeply _ => True
  | _ => False

namespace Syntax

open Text (Position)

/-- Something with the property is read and `rest` is left, or the levels are used up. -/
def Gives {α : Type} {bound : Nat} (x : Except Error (Parsed α bound)) (P : α → Prop)
    (rest : List Token) : Prop :=
  match x with
  | .ok p => P p.value ∧ p.rest = rest
  | .error e => e.IsTooDeep

namespace Gives

variable {α β : Type} {a b : Nat} {P : α → Prop} {Q : β → Prop} {rest rest' : List Token}

theorem ok {v : α} {hlt : rest.length < a} (h : P v) :
    Gives (.ok (⟨v, rest, hlt⟩ : Parsed α a)) P rest :=
  ⟨h, rfl⟩

theorem imp {x : Except Error (Parsed α a)} {R : α → Prop} (h : Gives x P rest)
    (hP : ∀ v, P v → R v) : Gives x R rest := by
  cases x with
  | error e => exact h
  | ok p => exact ⟨hP p.value h.1, h.2⟩

theorem bind {x : Except Error (Parsed α a)} {f : Parsed α a → Except Error (Parsed β b)}
    (h : Gives x P rest) (hf : ∀ v, P v → ∀ hlt, Gives (f ⟨v, rest, hlt⟩) Q rest') :
    Gives (x >>= f) Q rest' := by
  cases x with
  | error e => exact h
  | ok p =>
    obtain ⟨v, _, hlt⟩ := p
    obtain ⟨hv, rfl⟩ := h
    exact hf v hv hlt

theorem weaken {x : Except Error (Parsed α a)} {f : Parsed α a → a ≤ b} (h : Gives x P rest) :
    Gives (x >>= fun p => .ok (p.weaken (f p))) P rest :=
  h.bind fun _ hv _ => ok hv

theorem of_outcome {x : Except Error (Parsed α a)} {v : α} (h : outcome x = .ok (v, rest))
    (hv : P v) : Gives x P rest := by
  obtain ⟨hlt, rfl⟩ := exists_of_outcome h
  exact ok hv

/-- Going down a level leaves two possibilities: there is one, or there is none. -/
theorem descend {finish : Position} {d : Nat} {ts : List Token} {x : Except Error (Parsed α a)}
    (h : Gives x P rest) : Gives (Syntax.descend finish d ts >>= fun _ => x) P rest := by
  unfold Syntax.descend
  split
  · trivial
  · exact h

end Gives

section Terms

variable {finish : Position} {c : Chain} {d : Nat} {o : Token} {ts rest rest' : List Token}
  {left : Term} {P Q : Term → Prop}

/-! ## Chains -/

theorem gives_chain (h : Gives (operand finish c d ts) P rest)
    (htail : ∀ left, P left → Gives (chainTail finish c d left rest) Q rest') :
    Gives (chain finish c d ts) Q rest' := by
  rw [chain]
  exact h.bind fun left hleft _ => (htail left hleft).weaken

theorem gives_chainTail_stop (h : Stops c.height rest) (hleft : P left) :
    Gives (chainTail finish c d left rest) P rest :=
  .of_outcome (outcome_chainTail_stop h) hleft

theorem gives_chainTail_link {op : Operator} (ho : c.operator? o.kind = some op)
    (h : Gives (operand finish c (d + 1) ts) P rest)
    (htail : ∀ right, P right →
      Gives (chainTail finish c (d + 1) (c.join o.position op left right) rest) Q rest') :
    Gives (chainTail finish c d left (o :: ts)) Q rest' := by
  rw [chainTail]
  split
  · next hnone => rw [ho] at hnone; cases hnone
  · next op' hsome =>
    rw [ho] at hsome
    cases hsome
    exact .descend (h.bind fun right hright _ => (htail right hright).weaken)

/-- A single operand is a chain. -/
theorem gives_chain_alone (h : Gives (operand finish c d ts) P rest) (hs : Stops c.height rest) :
    Gives (chain finish c d ts) P rest :=
  gives_chain h fun _ hleft => gives_chainTail_stop hs hleft

/-- Two operands with an operator between them are a chain. -/
theorem gives_chain_pair {op : Operator} {us : List Token}
    (h : Gives (operand finish c d ts) P (o :: us)) (ho : c.operator? o.kind = some op)
    (h' : Gives (operand finish c (d + 1) us) Q rest) (hs : Stops c.height rest)
    {R : Term → Prop}
    (hR : ∀ left, P left → ∀ right, Q right → R (c.join o.position op left right)) :
    Gives (chain finish c d ts) R rest :=
  gives_chain h fun left hleft =>
    gives_chainTail_link ho h' fun right hright =>
      gives_chainTail_stop hs (hR left hleft right hright)

/-! ## Conditions -/

theorem gives_negation (ho : isNegation o.kind = false)
    (h : Gives (predicate finish d (o :: ts)) P rest) :
    Gives (negation finish d (o :: ts)) P rest := by
  rw [negation, if_neg (Bool.eq_false_iff.mp ho)]
  exact h

theorem gives_predicate (h : Gives (chain finish .bitwise d ts) P rest)
    (htail : ∀ left, P left → Gives (predicateTail finish d left rest) Q rest') :
    Gives (predicate finish d ts) Q rest' := by
  rw [predicate]
  exact h.bind fun left hleft _ => (htail left hleft).weaken

theorem gives_predicateTail_stop (h : Stops 4 rest) (hleft : P left) :
    Gives (predicateTail finish d left rest) P rest :=
  .of_outcome (outcome_predicateTail_stop h) hleft

theorem gives_predicateTail_comparison {op : Operator} (ho : comparison? o.kind = some op)
    (h : Gives (chain finish .bitwise (d + 1) ts) P rest)
    (htail : ∀ right, P right →
      Gives (predicateTail finish (d + 1) (.predicate o.position op left right) rest) Q rest') :
    Gives (predicateTail finish d left (o :: ts)) Q rest' := by
  rw [predicateTail]
  split
  · next op' hsome =>
    rw [ho] at hsome
    cases hsome
    exact .descend (h.bind fun right hright _ => (htail right hright).weaken)
  · next hnone => rw [ho] at hnone; cases hnone

theorem gives_predicateTail_head {head : PredicateHead} {p : Position} {hs : List Token}
    (hh : head.Opens p hs)
    (h : Gives (completePredicate finish p (d + 1) left head ts) P rest)
    (htail : ∀ whole, P whole → Gives (predicateTail finish (d + 1) whole rest) Q rest') :
    Gives (predicateTail finish d left (hs ++ ts)) Q rest' := by
  obtain ⟨o, us, hus, rfl, hc, hlt, hp⟩ := hh.beginsWith ts
  rw [hus, predicateTail]
  split
  · next ho => rw [hc] at ho; cases ho
  · split
    · next hn => rw [hp] at hn; cases hn
    · next head' hs =>
      rw [hp] at hs
      cases hs
      exact .descend (h.bind fun whole hwhole _ => (htail whole hwhole).weaken)

theorem gives_expect {kind : Token.Kind} {what : String} (ho : o.kind = kind) :
    Gives (expect finish kind what (o :: ts)) (fun _ => True) ts :=
  .of_outcome (outcome_expect finish what ts ho) trivial

theorem gives_like {negated exact : Bool} {p : Position} {es : List Token}
    (he : ExactMark exact es) (hb : startsWith (.keyword .BINARY) ts = false)
    (ht : startsWith (.symbol .tripleEqual) ts = false)
    (h : Gives (chain finish .bitwise d ts) P rest) :
    Gives (completePredicate finish p d left (.like negated) (es ++ ts))
      (fun whole => ∃ right, P right ∧
        whole = .predicate p (.ofLike negated exact) left right) rest := by
  have hskip := skipExact_append he hb ht
  have hpattern : Gives (chain finish .bitwise d (skipExact (es ++ ts)).2) P rest := by
    rw [hskip]
    exact h
  have hexact : (skipExact (es ++ ts)).1 = exact := congrArg Prod.fst hskip
  rw [completePredicate]
  exact hpattern.bind fun right hright _ => .ok ⟨right, hright, by rw [hexact]⟩

theorem gives_inList {negated exact : Bool} {p : Position} {es : List Token} {y z : Token}
    {R : List Term → Prop} (he : ExactMark exact es) (hy : y.kind = .symbol .leftParen)
    (h : Gives (items finish d ts) R (z :: rest)) (hz : z.kind = .symbol .rightParen) :
    Gives (completePredicate finish p d left (.inList negated) (es ++ y :: ts))
      (fun whole => ∃ list, R list ∧ whole = .inList p left list negated exact) rest := by
  -- the parenthesis is no mark of an exact match
  have hskip : skipExact (es ++ y :: ts) = (exact, y :: ts) :=
    skipExact_append he (startsWith_cons_of_ne (by rw [hy]; exact nofun))
      (startsWith_cons_of_ne (by rw [hy]; exact nofun))
  have hopen : Gives (expect finish (.symbol .leftParen) "'('" (skipExact (es ++ y :: ts)).2)
      (fun _ => True) ts := by
    rw [hskip]
    exact gives_expect hy
  have hexact : (skipExact (es ++ y :: ts)).1 = exact := congrArg Prod.fst hskip
  rw [completePredicate]
  refine hopen.bind fun _ _ _ => h.bind fun list hlist _ => (gives_expect hz).bind fun _ _ _ => ?_
  exact .ok ⟨list, hlist, by rw [hexact]⟩

theorem gives_isNull {negated : Bool} {p : Position} {ns : List Token} {z : Token}
    (hn : NegationMark negated ns) (hz : z.kind = .keyword .NULL) :
    Gives (completePredicate finish p d left .isNull (ns ++ z :: rest))
      (· = .isNull p left negated) rest :=
  .of_outcome (outcome_completePredicate_isNull rest hn hz) rfl

/-! ## Values -/

theorem gives_signed (ho : unaryOperator? o.kind = none)
    (h : Gives (primary finish d (o :: ts)) P rest) :
    Gives (signed finish d (o :: ts)) P rest := by
  rw [signed]
  split
  · exact h
  · next hs => rw [ho] at hs; cases hs

theorem gives_parentheses {z : Token} (ho : o.kind = .symbol .leftParen)
    (h : Gives (chain finish .or (d + 1) ts) P (z :: rest)) (hz : z.kind = .symbol .rightParen) :
    Gives (primary finish d (o :: ts)) P rest := by
  rw [primary]
  split
  · next hl => rw [ho] at hl; cases hl
  · split
    · exact .descend (h.bind fun _ hv _ => (gives_expect hz).bind fun _ _ _ => .ok hv)
    · next hn => rw [ho] at hn; cases hn
    · next hn _ => exact absurd ho hn

theorem gives_call {name : String} {y z : Token} {R : List Term → Prop}
    (ho : o.kind = .identifier name) (hy : y.kind = .symbol .leftParen)
    (h : Gives (callItems finish d ts) R (z :: rest)) (hz : z.kind = .symbol .rightParen) :
    Gives (primary finish d (o :: y :: ts))
      (fun whole => ∃ list, R list ∧ whole = .call o.position name list) rest := by
  have hstart : startsWith (.symbol .leftParen) (y :: ts) = true := by
    rw [startsWith, decide_eq_true_iff]
    exact hy
  rw [primary]
  split
  · next hl => rw [ho] at hl; cases hl
  · split
    · next hl => rw [ho] at hl; cases hl
    · next name' hname =>
      rw [ho] at hname
      cases hname
      rw [if_pos hstart]
      exact Gives.bind h fun list hlist _ => (gives_expect hz).bind fun _ _ _ =>
        .ok ⟨list, hlist, rfl⟩
    · next hn => exact absurd ho (hn name)

/-! ## Lists -/

variable {R S : List Term → Prop}

theorem gives_items (h : Gives (chain finish .or d ts) P rest)
    (hmore : Gives (moreItems finish d rest) R rest')
    (hS : ∀ first, P first → ∀ more, R more → S (first :: more)) :
    Gives (items finish d ts) S rest' := by
  rw [items]
  exact h.bind fun first hfirst _ => hmore.bind fun more hmore _ => .ok (hS first hfirst more hmore)

theorem gives_moreItems_comma (ho : o.kind = .symbol .comma)
    (h : Gives (items finish d ts) R rest) : Gives (moreItems finish d (o :: ts)) R rest := by
  rw [moreItems, if_pos ho]
  exact h.weaken

theorem gives_moreItems_stop {z : Token} (hz : z.kind = .symbol .rightParen) (hR : R []) :
    Gives (moreItems finish d (z :: rest)) R (z :: rest) :=
  .of_outcome (outcome_moreItems_stop rest hz) hR

theorem gives_callItems (hstart : startsWith (.symbol .rightParen) ts = false)
    (h : Gives (items finish d ts) R rest) : Gives (callItems finish d ts) R rest := by
  rw [callItems, if_neg (Bool.eq_false_iff.mp hstart)]
  exact h.weaken

theorem gives_callItems_empty {z : Token} (hz : z.kind = .symbol .rightParen) (hR : R []) :
    Gives (callItems finish d (z :: rest)) R (z :: rest) :=
  .of_outcome (outcome_callItems_empty rest hz) hR

end Terms

end Syntax

end RowFilter
