import Mathlib.Data.List.Forall2
import RowFilter.Proofs.Syntax.Grammar
import RowFilter.Proofs.Token.Stream

/-!
The grammar sees neither positions nor the spelling of names. Tokens that are the same but for
these are phrases of the same grammar, and what is derived from them is the same but for these.
-/

namespace RowFilter

variable {f : String → String}

/-! ## Kinds of tokens -/

namespace Token.Kind

/-- The same kind, but for what `f` does not tell apart in a name. -/
def Agrees (f : String → String) (k k' : Kind) : Prop := k.rename f = k'.rename f

variable {k k' : Kind}

/-- What does not look at names is the same for both. -/
theorem Agrees.apply {α : Type} {g : Kind → α} (h : k.Agrees f k')
    (hg : ∀ k, g (k.rename f) = g k) : g k = g k' := by
  rw [← hg, h, hg]

/-- Only names can be spelled in more ways than one. -/
theorem Agrees.eq_of_ne (h : k.Agrees f k') (hk : ∀ name, k' ≠ .identifier name) : k = k' := by
  cases k' with
  | identifier name => exact absurd rfl (hk name)
  | _ =>
    cases k <;> cases h
    rfl

theorem Agrees.keyword {w : Keyword} (h : k.Agrees f k') (hk : k' = .keyword w) :
    k = .keyword w := by
  subst hk
  exact h.eq_of_ne fun _ hname => by cases hname

theorem Agrees.symbol {s : Symbol} (h : k.Agrees f k') (hk : k' = .symbol s) : k = .symbol s := by
  subst hk
  exact h.eq_of_ne fun _ hname => by cases hname

theorem Agrees.integer {text : String} (h : k.Agrees f k') (hk : k' = .integer text) :
    k = .integer text := by
  subst hk
  exact h.eq_of_ne fun _ hname => by cases hname

theorem Agrees.identifier {name : String} (h : k.Agrees f k') (hk : k' = .identifier name) :
    ∃ other, k = .identifier other ∧ f other = f name := by
  subst hk
  cases k with
  | identifier other => exact ⟨other, rfl, Kind.identifier.inj h⟩
  | _ => cases h

end Token.Kind

namespace Syntax

open Token (Kind)

/-! ## Lists of tokens -/

/-- The same kinds of tokens, but for what `f` does not tell apart in names. -/
def MatchesUpTo (f : String → String) (ts us : List Token) : Prop :=
  ts.map (·.kind.rename f) = us.map (·.kind.rename f)

namespace MatchesUpTo

variable {ts us vs : List Token} {o : Token}

theorem cons_inv (h : MatchesUpTo f ts (o :: us)) :
    ∃ p ps, ts = p :: ps ∧ p.kind.Agrees f o.kind ∧ MatchesUpTo f ps us := by
  obtain ⟨p, ps, rfl, hp, hps⟩ := List.map_eq_cons_iff.mp h
  exact ⟨p, ps, rfl, hp, hps⟩

theorem append_inv (h : MatchesUpTo f ts (us ++ vs)) :
    ∃ as bs, ts = as ++ bs ∧ MatchesUpTo f as us ∧ MatchesUpTo f bs vs := by
  rw [MatchesUpTo, List.map_append] at h
  obtain ⟨as, bs, rfl, has, hbs⟩ := List.map_eq_append_iff.mp h
  exact ⟨as, bs, rfl, has, hbs⟩

theorem nil_inv (h : MatchesUpTo f ts []) : ts = [] :=
  List.map_eq_nil_iff.mp h

theorem singleton_inv (h : MatchesUpTo f ts [o]) : ∃ p, ts = [p] ∧ p.kind.Agrees f o.kind := by
  obtain ⟨p, ps, rfl, hp, hps⟩ := h.cons_inv
  rw [hps.nil_inv]
  exact ⟨p, rfl, hp⟩

end MatchesUpTo

section

variable {ts us : List Token}

theorem Optionally.of_matchesUpTo {a b : Kind} {present : Bool} (h : Optionally a b present us)
    (hm : MatchesUpTo f ts us) (ha : ∀ k, k.Agrees f a → k = a) (hb : ∀ k, k.Agrees f b → k = b) :
    Optionally a b present ts := by
  cases h with
  | absent =>
    rw [hm.nil_inv]
    exact .absent
  | present ho =>
    obtain ⟨p, rfl, hp⟩ := hm.singleton_inv
    rcases ho with ho | ho
    · exact .present (.inl (ha p.kind (ho ▸ hp)))
    · exact .present (.inr (hb p.kind (ho ▸ hp)))

theorem exactMark_of_matchesUpTo {exact : Bool} (h : ExactMark exact us)
    (hm : MatchesUpTo f ts us) : ExactMark exact ts :=
  h.of_matchesUpTo hm (fun _ hk => hk.keyword rfl) (fun _ hk => hk.symbol rfl)

theorem negationMark_of_matchesUpTo {negated : Bool} (h : NegationMark negated us)
    (hm : MatchesUpTo f ts us) : NegationMark negated ts :=
  h.of_matchesUpTo hm (fun _ hk => hk.keyword rfl) (fun _ hk => hk.symbol rfl)

theorem isNegation_of_agrees {k k' : Kind} (h : k.Agrees f k') : isNegation k = isNegation k' :=
  h.apply fun k => by cases k <;> rfl

theorem Opens.of_matchesUpTo {word : Keyword} {negated : Bool} {q : Text.Position}
    (h : Opens word negated q us) (hm : MatchesUpTo f ts us) : ∃ q', Opens word negated q' ts := by
  cases h with
  | plain ho =>
    obtain ⟨p, rfl, hp⟩ := hm.singleton_inv
    exact ⟨_, .plain (hp.keyword ho)⟩
  | negated hn ho =>
    obtain ⟨n, ps, rfl, hn', hps⟩ := hm.cons_inv
    obtain ⟨p, rfl, hp⟩ := hps.singleton_inv
    exact ⟨_, .negated ((isNegation_of_agrees hn').trans hn) (hp.keyword ho)⟩

/-- Lists of phrases of the same kinds, with separators between them: what is derived from the
phrases one by one is related one by one. -/
theorem Separated.of_matchesUpTo {α : Type} {P : List Token → α → Prop} {R : α → α → Prop}
    {symbol : Symbol} {all : List Token} {items : List (List Token × α)}
    (h : Separated (.symbol symbol) (items.map (·.1)) all)
    (hi : ∀ i ∈ items, ∀ us, MatchesUpTo f us i.1 → ∃ x, P us x ∧ R x i.2)
    (hm : MatchesUpTo f ts all) :
    ∃ items' : List (List Token × α), Separated (.symbol symbol) (items'.map (·.1)) ts ∧
      (∀ i ∈ items', P i.1 i.2) ∧ List.Forall₂ R (items'.map (·.2)) (items.map (·.2)) := by
  generalize hparts : items.map (·.1) = parts at h
  induction h generalizing items ts with
  | last us =>
    obtain ⟨i, rfl, rfl⟩ := List.map_eq_singleton_iff.mp hparts
    obtain ⟨x, hx, hrelated⟩ := hi i List.mem_cons_self ts hm
    refine ⟨[(ts, x)], .last ts, ?_, .cons hrelated .nil⟩
    intro j hj
    rw [List.mem_singleton.mp hj]
    exact hx
  | @more us all parts o ho _ ih =>
    obtain ⟨i, items, rfl, rfl, hitems⟩ := List.map_eq_cons_iff.mp hparts
    obtain ⟨as, bs, rfl, has, hbs⟩ := hm.append_inv
    obtain ⟨p, ps, rfl, hp, hps⟩ := hbs.cons_inv
    obtain ⟨x, hx, hrelated⟩ := hi i List.mem_cons_self as has
    obtain ⟨items', hsep, hderives, hall⟩ :=
      ih (fun j hj => hi j (List.mem_cons_of_mem i hj)) hps hitems
    refine ⟨(as, x) :: items', .more (hp.symbol ho) hsep, ?_, .cons hrelated hall⟩
    rw [List.forall_mem_cons]
    exact ⟨hx, hderives⟩

end

/-! ## Terms -/

mutual

/-- A term at no place in particular, its names changed. -/
def Term.spelled (f : String → String) : Term → Term
  | .literal _ l => .literal .start l
  | .column _ name => .column .start (f name)
  | .call _ name arguments => .call .start (f name) (Term.spelledAll f arguments)
  | .unary _ op operand => .unary .start op (operand.spelled f)
  | .binary _ op left right => .binary .start op (left.spelled f) (right.spelled f)
  | .predicate _ op left right => .predicate .start op (left.spelled f) (right.spelled f)
  | .inList _ operand items negated exact =>
    .inList .start (operand.spelled f) (Term.spelledAll f items) negated exact
  | .isNull _ operand negated => .isNull .start (operand.spelled f) negated
  | .not _ operand => .not .start (operand.spelled f)
  | .logical _ op left right => .logical .start op (left.spelled f) (right.spelled f)

def Term.spelledAll (f : String → String) : List Term → List Term
  | [] => []
  | e :: rest => e.spelled f :: Term.spelledAll f rest

end

theorem Term.spelledAll_of_forall₂ {ts us : List Term}
    (h : List.Forall₂ (fun t u => t.spelled f = u.spelled f) ts us) :
    Term.spelledAll f ts = Term.spelledAll f us := by
  induction h with
  | nil => rfl
  | cons h _ ih => rw [Term.spelledAll, Term.spelledAll, h, ih]

theorem Term.spelled_join {c : Chain} {p q : Text.Position} {op : Operator} {l l' r r' : Term}
    (hl : l.spelled f = l'.spelled f) (hr : r.spelled f = r'.spelled f) :
    (c.join p op l r).spelled f = (c.join q op l' r').spelled f := by
  cases c <;> simp only [Chain.join, Term.spelled, hl, hr]

/-- Tokens that match a phrase are a phrase, of a term that is spelled alike. -/
theorem Derives.of_matchesUpTo {r : Rank} {d : Nat} {us : List Token} {t : Term}
    (h : Derives r d us t) {ts : List Token} (hm : MatchesUpTo f ts us) :
    ∃ u, Derives r d ts u ∧ u.spelled f = t.spelled f := by
  -- a derivation looks at kinds only; each case cuts the tokens where the phrase is cut
  induction h generalizing ts with
  | first _ ih =>
    obtain ⟨u, hu, hsame⟩ := ih hm
    exact ⟨u, .first hu, hsame⟩
  | level _ ih =>
    obtain ⟨u, hu, hsame⟩ := ih hm
    exact ⟨u, .level hu, hsame⟩
  | value _ ih =>
    obtain ⟨u, hu, hsame⟩ := ih hm
    exact ⟨u, .value hu, hsame⟩
  | predicate _ ih =>
    obtain ⟨u, hu, hsame⟩ := ih hm
    exact ⟨u, .predicate hu, hsame⟩
  | unsigned _ ih =>
    obtain ⟨u, hu, hsame⟩ := ih hm
    exact ⟨u, .unsigned hu, hsame⟩
  | @link c _ _ _ _ _ _ _ _ _ ho hd _ ihl ihr =>
    obtain ⟨as, bs, rfl, has, hbs⟩ := hm.append_inv
    obtain ⟨p, ps, rfl, hp, hps⟩ := hbs.cons_inv
    obtain ⟨l, hl, hleft⟩ := ihl has
    obtain ⟨r, hr, hright⟩ := ihr hps
    have hoperator : c.operator? p.kind = c.operator? _ :=
      hp.apply fun k => by cases c <;> cases k <;> rfl
    exact ⟨_, .link hl (hoperator.trans ho) hd hr, Term.spelled_join hleft hright⟩
  | not ho hd _ ih =>
    obtain ⟨p, ps, rfl, hp, hps⟩ := hm.cons_inv
    obtain ⟨u, hu, hsame⟩ := ih hps
    refine ⟨_, .not ((isNegation_of_agrees hp).trans ho) hd hu, ?_⟩
    rw [Term.spelled, Term.spelled, hsame]
  | condition ho _ ih =>
    obtain ⟨p, ps, rfl, hp, hps⟩ := hm.cons_inv
    obtain ⟨u, hu, hsame⟩ := ih hm
    exact ⟨u, .condition ((isNegation_of_agrees hp).trans ho) hu, hsame⟩
  | comparison _ ho hd _ ihl ihr =>
    obtain ⟨as, bs, rfl, has, hbs⟩ := hm.append_inv
    obtain ⟨p, ps, rfl, hp, hps⟩ := hbs.cons_inv
    obtain ⟨l, hl, hleft⟩ := ihl has
    obtain ⟨r, hr, hright⟩ := ihr hps
    have hoperator : comparison? p.kind = comparison? _ := hp.apply fun k => by cases k <;> rfl
    refine ⟨_, .comparison hl (hoperator.trans ho) hd hr, ?_⟩
    rw [Term.spelled, Term.spelled, hleft, hright]
  | like _ hh hd he _ ihl ihr =>
    obtain ⟨as, bs, rfl, has, hbs⟩ := hm.append_inv
    obtain ⟨hs, cs, rfl, hhs, hcs⟩ := hbs.append_inv
    obtain ⟨es, ds, rfl, hes, hds⟩ := hcs.append_inv
    obtain ⟨q, hopens⟩ := hh.of_matchesUpTo hhs
    obtain ⟨l, hl, hleft⟩ := ihl has
    obtain ⟨r, hr, hright⟩ := ihr hds
    refine ⟨_, .like hl hopens hd (exactMark_of_matchesUpTo he hes) hr, ?_⟩
    rw [Term.spelled, Term.spelled, hleft, hright]
  | inList _ hh hd he ha hall _ hz ihl ihi =>
    obtain ⟨as, bs, rfl, has, hbs⟩ := hm.append_inv
    obtain ⟨hs, cs, rfl, hhs, hcs⟩ := hbs.append_inv
    obtain ⟨es, ds, rfl, hes, hds⟩ := hcs.append_inv
    obtain ⟨p, ps, rfl, hp, hps⟩ := hds.cons_inv
    obtain ⟨list, zs, rfl, hlist, hzs⟩ := hps.append_inv
    obtain ⟨z, rfl, hz'⟩ := hzs.singleton_inv
    obtain ⟨q, hopens⟩ := hh.of_matchesUpTo hhs
    obtain ⟨l, hl, hleft⟩ := ihl has
    -- the separators stand in the same places, so the items match one by one
    obtain ⟨items, hsep, hitems, hrelated⟩ :=
      hall.of_matchesUpTo (R := fun t u => t.spelled f = u.spelled f)
        (fun i hi us => ihi i hi) hlist
    refine ⟨_, .inList hl hopens hd (exactMark_of_matchesUpTo he hes) (hp.symbol ha) hsep hitems
      (hz'.symbol hz), ?_⟩
    rw [Term.spelled, Term.spelled, hleft, Term.spelledAll_of_forall₂ hrelated]
  | isNull _ ho hd hn hz ihl =>
    obtain ⟨as, bs, rfl, has, hbs⟩ := hm.append_inv
    obtain ⟨p, ps, rfl, hp, hps⟩ := hbs.cons_inv
    obtain ⟨ns, zs, rfl, hns, hzs⟩ := hps.append_inv
    obtain ⟨z, rfl, hz'⟩ := hzs.singleton_inv
    obtain ⟨l, hl, hleft⟩ := ihl has
    refine ⟨_, .isNull hl (hp.keyword ho) hd (negationMark_of_matchesUpTo hn hns)
      (hz'.keyword hz), ?_⟩
    rw [Term.spelled, Term.spelled, hleft]
  | sign ho hd _ ih =>
    obtain ⟨p, ps, rfl, hp, hps⟩ := hm.cons_inv
    obtain ⟨u, hu, hsame⟩ := ih hps
    have hoperator : unaryOperator? p.kind = unaryOperator? _ :=
      hp.apply fun k => by cases k <;> rfl
    refine ⟨_, .sign (hoperator.trans ho) hd hu, ?_⟩
    rw [Term.spelled, Term.spelled, hsame]
  | literal ho =>
    obtain ⟨p, rfl, hp⟩ := hm.singleton_inv
    have hliteral : literal? p.kind = literal? _ := hp.apply fun k => by cases k <;> rfl
    refine ⟨_, .literal (hliteral.trans ho), ?_⟩
    rw [Term.spelled, Term.spelled]
  | column ho =>
    obtain ⟨p, rfl, hp⟩ := hm.singleton_inv
    obtain ⟨other, hother, hname⟩ := hp.identifier ho
    refine ⟨_, .column hother, ?_⟩
    rw [Term.spelled, Term.spelled, hname]
  | parentheses ha hd _ hz ih =>
    obtain ⟨p, ps, rfl, hp, hps⟩ := hm.cons_inv
    obtain ⟨inner, zs, rfl, hinner, hzs⟩ := hps.append_inv
    obtain ⟨z, rfl, hz'⟩ := hzs.singleton_inv
    obtain ⟨u, hu, hsame⟩ := ih hinner
    exact ⟨u, .parentheses (hp.symbol ha) hd hu (hz'.symbol hz), hsame⟩
  | callEmpty ho ha hz =>
    obtain ⟨p, ps, rfl, hp, hps⟩ := hm.cons_inv
    obtain ⟨q, qs, rfl, hq, hqs⟩ := hps.cons_inv
    obtain ⟨z, rfl, hz'⟩ := hqs.singleton_inv
    obtain ⟨other, hother, hname⟩ := hp.identifier ho
    refine ⟨_, .callEmpty hother (hq.symbol ha) (hz'.symbol hz), ?_⟩
    rw [Term.spelled, Term.spelled, hname]
  | call ho ha hall _ hz ih =>
    obtain ⟨p, ps, rfl, hp, hps⟩ := hm.cons_inv
    obtain ⟨q, qs, rfl, hq, hqs⟩ := hps.cons_inv
    obtain ⟨list, zs, rfl, hlist, hzs⟩ := hqs.append_inv
    obtain ⟨z, rfl, hz'⟩ := hzs.singleton_inv
    obtain ⟨other, hother, hname⟩ := hp.identifier ho
    obtain ⟨items, hsep, hitems, hrelated⟩ :=
      hall.of_matchesUpTo (R := fun t u => t.spelled f = u.spelled f)
        (fun i hi us => ih i hi) hlist
    refine ⟨_, .call hother (hq.symbol ha) hsep hitems (hz'.symbol hz), ?_⟩
    rw [Term.spelled, Term.spelled, hname, Term.spelledAll_of_forall₂ hrelated]

/-! ## Statements -/

section

variable {ts us : List Token}

theorem Signed.of_matchesUpTo {negative : Bool} (h : Signed negative us)
    (hm : MatchesUpTo f ts us) : Signed negative ts := by
  cases h with
  | absent =>
    rw [hm.nil_inv]
    exact .absent
  | plus ho =>
    obtain ⟨p, rfl, hp⟩ := hm.singleton_inv
    exact .plus (hp.symbol ho)
  | minus ho =>
    obtain ⟨p, rfl, hp⟩ := hm.singleton_inv
    exact .minus (hp.symbol ho)

theorem DerivesLimit.of_matchesUpTo {limit : Option Int} (h : DerivesLimit us limit)
    (hm : MatchesUpTo f ts us) : DerivesLimit ts limit := by
  cases h with
  | absent =>
    rw [hm.nil_inv]
    exact .absent
  | present ho hs hn hk hf =>
    obtain ⟨p, ps, rfl, hp, hps⟩ := hm.cons_inv
    obtain ⟨ss, ns, rfl, hss, hns⟩ := hps.append_inv
    obtain ⟨n, rfl, hn'⟩ := hns.singleton_inv
    exact .present (hp.keyword ho) (hs.of_matchesUpTo hss) (hn'.integer hn) hk hf

theorem Direction.of_matchesUpTo {ascending : Bool} (h : Direction ascending us)
    (hm : MatchesUpTo f ts us) : Direction ascending ts := by
  cases h with
  | absent =>
    rw [hm.nil_inv]
    exact .absent
  | ascending ho =>
    obtain ⟨p, rfl, hp⟩ := hm.singleton_inv
    exact .ascending (hp.keyword ho)
  | descending ho =>
    obtain ⟨p, rfl, hp⟩ := hm.singleton_inv
    exact .descending (hp.keyword ho)

/-- A term of an order, its column's name changed. -/
def OrderingTerm.spelled (f : String → String) (term : OrderingTerm) : OrderingTerm :=
  { term with column := f term.column }

theorem DerivesOrdering.of_matchesUpTo {term : OrderingTerm} (h : DerivesOrdering us term)
    (hm : MatchesUpTo f ts us) :
    ∃ other, DerivesOrdering ts other ∧ other.spelled f = term.spelled f := by
  cases h with
  | mk he ho hd =>
    obtain ⟨es, ps, rfl, hes, hps⟩ := hm.append_inv
    obtain ⟨p, ds, rfl, hp, hds⟩ := hps.cons_inv
    obtain ⟨other, hother, hname⟩ := hp.identifier ho
    refine ⟨_, .mk (exactMark_of_matchesUpTo he hes) hother (hd.of_matchesUpTo hds), ?_⟩
    rw [OrderingTerm.spelled, OrderingTerm.spelled, hname]

theorem DerivesOrder.of_matchesUpTo {order : List OrderingTerm} (h : DerivesOrder us order)
    (hm : MatchesUpTo f ts us) : ∃ order', DerivesOrder ts order' ∧
      order'.map (OrderingTerm.spelled f) = order.map (OrderingTerm.spelled f) := by
  cases h with
  | absent =>
    rw [hm.nil_inv]
    exact ⟨[], .absent, rfl⟩
  | present ho hb hall hi =>
    obtain ⟨p, ps, rfl, hp, hps⟩ := hm.cons_inv
    obtain ⟨q, qs, rfl, hq, hqs⟩ := hps.cons_inv
    obtain ⟨items, hsep, hitems, hsame⟩ :=
      hall.of_matchesUpTo (R := fun t u => t.spelled f = u.spelled f)
        (fun i hmem us hus => (hi i hmem).of_matchesUpTo hus) hqs
    refine ⟨_, .present (hp.keyword ho) (hq.keyword hb) hsep hitems, ?_⟩
    rwa [← List.forall₂_eq_eq_eq, List.forall₂_map_left_iff, List.forall₂_map_right_iff]

/-- A statement at no place in particular, its names changed. -/
def Statement.spelled (f : String → String) : Statement → Statement
  | .identifier _ i => .identifier .start i
  | .filter _ clause condition =>
    .filter .start ⟨f clause.table, clause.topLimit, clause.orderBy.map (OrderingTerm.spelled f)⟩
      (condition.spelled f)
  | .expression _ e => .expression .start (e.spelled f)

theorem DerivesStatement.of_matchesUpTo {s : Statement} (h : DerivesStatement us s)
    (hm : MatchesUpTo f ts us) : ∃ s', DerivesStatement ts s' ∧ s'.spelled f = s.spelled f := by
  have hidentifier {k k' : Kind} (hk : k.Agrees f k') : identifier? k = identifier? k' :=
    hk.apply fun k => by cases k <;> rfl
  cases h with
  | identifier ho =>
    obtain ⟨p, rfl, hp⟩ := hm.singleton_inv
    exact ⟨_, .identifier ((hidentifier hp).trans ho), rfl⟩
  | filter ho hl ht hw hc hos =>
    obtain ⟨p, ps, rfl, hp, hps⟩ := hm.cons_inv
    obtain ⟨ls, as, rfl, hls, has⟩ := hps.append_inv
    obtain ⟨t, bs, rfl, ht', hbs⟩ := has.cons_inv
    obtain ⟨w, ds, rfl, hw', hds⟩ := hbs.cons_inv
    obtain ⟨cs, os, rfl, hcs, hos'⟩ := hds.append_inv
    obtain ⟨other, hother, hname⟩ := ht'.identifier ht
    obtain ⟨condition, hderives, hsame⟩ := hc.of_matchesUpTo hcs
    obtain ⟨order, horder, horders⟩ := hos.of_matchesUpTo hos'
    refine ⟨_, .filter (hp.keyword ho) (hl.of_matchesUpTo hls) hother (hw'.keyword hw) hderives
      horder, ?_⟩
    simp only [Statement.spelled, hname, horders, hsame]
  | expression hi hterm =>
    obtain ⟨e, hderives, hsame⟩ := hterm.of_matchesUpTo hm
    obtain ⟨p, ps, rfl, hp, hps⟩ := hm.cons_inv
    refine ⟨_, .expression (fun hnil => ?_) hderives, ?_⟩
    · subst hnil
      rw [hidentifier hp]
      exact hi (List.map_eq_nil_iff.mp hps.symm)
    · rw [Statement.spelled, Statement.spelled, hsame]

theorem isSemicolon_of_agrees {o p : Token} (h : p.kind.Agrees f o.kind) :
    isSemicolon p = isSemicolon o :=
  h.apply (g := fun k => decide (k = .symbol .semicolon)) fun k => by cases k <;> rfl

theorem atBoundary_of_matchesUpTo (h : atBoundary us = true) (hm : MatchesUpTo f ts us) :
    atBoundary ts = true := by
  cases us with
  | nil => rw [hm.nil_inv]; rfl
  | cons o us =>
    obtain ⟨p, ps, rfl, hp, -⟩ := hm.cons_inv
    rw [atBoundary, isSemicolon_of_agrees hp]
    exact h

/-- Tokens that match statements are statements that are spelled alike. -/
theorem DerivesStatements.of_matchesUpTo {list : List Statement} (h : DerivesStatements us list)
    (hm : MatchesUpTo f ts us) : ∃ list', DerivesStatements ts list' ∧
      list'.map (Statement.spelled f) = list.map (Statement.spelled f) := by
  induction h generalizing ts with
  | nil =>
    rw [hm.nil_inv]
    exact ⟨[], .nil, rfl⟩
  | semicolon ho _ ih =>
    obtain ⟨p, ps, rfl, hp, hps⟩ := hm.cons_inv
    obtain ⟨list', hderives, hsame⟩ := ih hps
    exact ⟨list', .semicolon ((isSemicolon_of_agrees hp).trans ho) hderives, hsame⟩
  | statement hs hb _ ih =>
    obtain ⟨as, bs, rfl, has, hbs⟩ := hm.append_inv
    obtain ⟨s', hstatement, hsame⟩ := hs.of_matchesUpTo has
    obtain ⟨list', hderives, hall⟩ := ih hbs
    refine ⟨s' :: list', .statement hstatement (atBoundary_of_matchesUpTo hb hbs) hderives, ?_⟩
    rw [List.map_cons, List.map_cons, hsame, hall]

end

end Syntax

end RowFilter
