import RowFilter.Proofs.Binding.Spelling

/-!
Positions carry no meaning: tokens of the same kinds are phrases of the same grammar, and what is
derived from them, terms and statements, compiles alike.
-/

namespace RowFilter.Syntax

/-- Terms that differ in positions at most compile alike. -/
def Term.Same (t u : Term) : Prop := ∀ table, t.compile table = u.compile table

theorem Term.same_of_spelled_eq {t u : Term} (h : t.spelled id = u.spelled id) : t.Same u :=
  fun table => (compile_of_spelled_eq (blind_id id) h table).eq_of_id

/-- Statements that differ in positions at most compile alike. -/
def Statement.Same (s s' : Statement) : Prop :=
  ∀ scope options, s.compile scope options = s'.compile scope options

theorem Statement.same_of_spelled_eq {s s' : Statement} (h : s.spelled id = s'.spelled id) :
    s.Same s' :=
  fun scope options => (statement_of_spelled_eq (blind_id id) h scope options).eq_of_id

/-- Statements that compile alike one by one do so together. -/
theorem Statement.compileAll_of_same {list list' : List Statement}
    (h : List.Forall₂ Statement.Same list list') (scope : Scope) (options : Options) :
    Statement.compileAll scope options list = Statement.compileAll scope options list' := by
  induction h with
  | nil => rfl
  | cons h _ ih => rw [Statement.compileAll, Statement.compileAll, h scope options, ih]

/-! ## Tokens of the same kinds -/

/-- Two token lists have the same kinds of tokens. -/
def Matches (ts us : List Token) : Prop := ts.map Token.kind = us.map Token.kind

theorem Matches.cons_inv {ts us : List Token} {o : Token} (h : Matches ts (o :: us)) :
    ∃ p ps, ts = p :: ps ∧ p.kind = o.kind ∧ Matches ps us := by
  obtain ⟨p, ps, rfl, hp, hps⟩ := List.map_eq_cons_iff.mp h
  exact ⟨p, ps, rfl, hp, hps⟩

theorem Matches.append_inv {ts us vs : List Token} (h : Matches ts (us ++ vs)) :
    ∃ as bs, ts = as ++ bs ∧ Matches as us ∧ Matches bs vs := by
  rw [Matches, List.map_append] at h
  obtain ⟨as, bs, rfl, has, hbs⟩ := List.map_eq_append_iff.mp h
  exact ⟨as, bs, rfl, has, hbs⟩

theorem Matches.nil_inv {ts : List Token} (h : Matches ts []) : ts = [] :=
  List.map_eq_nil_iff.mp h

theorem Matches.singleton_inv {ts : List Token} {o : Token} (h : Matches ts [o]) :
    ∃ p, ts = [p] ∧ p.kind = o.kind := by
  obtain ⟨p, ps, rfl, hp, hps⟩ := h.cons_inv
  rw [hps.nil_inv]
  exact ⟨p, rfl, hp⟩

/-- No name is told apart from another one. -/
theorem Matches.upTo {ts us : List Token} (h : Matches ts us) (f : String → String) :
    MatchesUpTo f ts us := by
  have hkinds := congrArg (List.map (Token.Kind.rename f)) h
  rwa [List.map_map, List.map_map] at hkinds

theorem Derives.of_matches {r : Rank} {d : Nat} {us : List Token} {t : Term}
    (h : Derives r d us t) {ts : List Token} (hm : Matches ts us) :
    ∃ u, Derives r d ts u ∧ u.Same t := by
  obtain ⟨u, hu, hspelled⟩ := h.of_matchesUpTo (hm.upTo id)
  exact ⟨u, hu, Term.same_of_spelled_eq hspelled⟩

theorem atBoundary_of_matches {ts us : List Token} (h : atBoundary us = true)
    (hm : Matches ts us) : atBoundary ts = true :=
  atBoundary_of_matchesUpTo h (hm.upTo id)

theorem DerivesStatements.of_matches {list : List Statement} {ts us : List Token}
    (h : DerivesStatements us list) (hm : Matches ts us) :
    ∃ list', DerivesStatements ts list' ∧ List.Forall₂ Statement.Same list' list := by
  obtain ⟨list', hderives, hspelled⟩ := h.of_matchesUpTo (hm.upTo id)
  rw [← List.forall₂_eq_eq_eq, List.forall₂_map_left_iff, List.forall₂_map_right_iff] at hspelled
  exact ⟨list', hderives, hspelled.imp fun _ _ hs => Statement.same_of_spelled_eq hs⟩

end RowFilter.Syntax
