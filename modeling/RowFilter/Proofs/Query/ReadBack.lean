import RowFilter.Proofs.Binding.Bound
import RowFilter.Proofs.Expression.Reading
import RowFilter.Proofs.Query.Layout

/-!
The text of an expression that a text is bound to reads back: it is a single statement, and the
statement is bound to the expression again.
-/

namespace RowFilter

open Syntax Text

namespace Expression

/-! ## Kinds of tokens that are not there -/

theorem forall_mem_kindsList {P : Token.Kind → Prop} (hcomma : P (.symbol .comma))
    {es : List Expression} (h : ∀ e ∈ es, ∀ k ∈ e.kinds, P k) : ∀ k ∈ kindsList es, P k := by
  induction es with
  | nil => exact nofun
  | cons e es ih =>
    obtain ⟨he, hes⟩ := List.forall_mem_cons.mp h
    cases es with
    | nil => exact he
    | cons e' es =>
      exact List.forall_mem_append.mpr ⟨he, List.forall_mem_cons.mpr ⟨hcomma, ih hes⟩⟩

/-- No token of an expression ends the statement that it is in. -/
theorem ne_semicolon_of_mem_kinds {e : Expression} (h : e.Legible) :
    ∀ k ∈ e.kinds, k ≠ .symbol .semicolon := by
  have hoptional {word : Keyword} (present : Bool) :
      ∀ k ∈ (if present then [Token.Kind.keyword word] else []), k ≠ .symbol .semicolon := by
    cases present with
    | false => exact nofun
    | true => exact List.forall_mem_singleton.mpr nofun
  induction h with
  | @value v _ => cases v <;> exact List.forall_mem_singleton.mpr nofun
  | column c => exact List.forall_mem_singleton.mpr nofun
  | @operator op _ _ _ _ _ _ ihl ihr =>
    have hop : ∀ k ∈ op.kinds, k ≠ .symbol .semicolon := by cases op <;> decide
    rw [kinds]
    simp only [List.forall_mem_cons, List.forall_mem_append]
    exact ⟨nofun, ihl, hop, ihr, nofun, nofun⟩
  | function _ ih =>
    rw [kinds]
    simp only [List.forall_mem_cons, List.forall_mem_append]
    exact ⟨nofun, nofun, forall_mem_kindsList nofun ih, nofun, nofun⟩
  | inList _ _ ih ihs =>
    rw [kinds]
    simp only [List.forall_mem_cons, List.forall_mem_append]
    exact ⟨ih, hoptional _, nofun, hoptional _, nofun, forall_mem_kindsList nofun ihs, nofun,
      nofun⟩
  | isNull _ ih =>
    rw [kinds]
    simp only [List.forall_mem_cons, List.forall_mem_append]
    exact ⟨ih, nofun, hoptional _, nofun, nofun⟩

theorem kinds_ne_nil (e : Expression) : e.kinds ≠ [] := by
  cases e <;> simp [kinds]

/-- A single token that names a row is a literal GUID. -/
theorem identifier?_eq_none {e : Expression} (he : ∀ g, e ≠ .value (.guid g)) {k : Token.Kind}
    (hk : e.kinds = [k]) : identifier? k = none := by
  cases e with
  | value v =>
    cases hk
    cases v with
    | guid g => exact absurd rfl (he g)
    | _ => rfl
  | column c => cases hk; rfl
  | unary op operand => exact absurd (List.cons.inj hk).2 operand.kinds_ne_nil
  | operator => simp [kinds] at hk
  | function => simp [kinds] at hk
  | inList operand | isNull operand =>
    have hoperand := operand.kinds_ne_nil
    simp [kinds, List.append_eq_singleton_iff, hoperand] at hk

/-! ## The statement -/

section Statements

variable {t : Table} {e : Expression}

theorem gives_statement (finish : Position) (hl : e.Legible) (he : ∀ g, e ≠ .value (.guid g))
    {o : Token} {us : List Token} (hkinds : (o :: us).map Token.kind = e.kinds)
    (hread : e.ReadsFrom t (o :: us)) :
    Gives (statement finish o us)
      (fun s => ∃ p term, s = .expression p term ∧ term.compile t = .ok e) [] := by
  have hbegins : beginsTerm o.kind = true := by
    obtain ⟨o, us, heq, ho, -⟩ := hread.head
    cases heq
    exact ho
  have hfilter : ¬ o.kind = .keyword .FILTER := by
    intro ho
    rw [ho] at hbegins
    cases hbegins
  -- only a token alone would be an identifier, as no semicolon follows it
  have hidentifier : (identifier? o.kind).filter (fun _ => atBoundary us) = none := by
    cases us with
    | nil =>
      rw [identifier?_eq_none he hkinds.symm]
      rfl
    | cons v us =>
      have hv : v.kind ≠ .symbol .semicolon := by
        apply ne_semicolon_of_mem_kinds hl
        rw [← hkinds]
        exact List.mem_cons_of_mem _ List.mem_cons_self
      have hboundary : atBoundary (v :: us) = false := isSemicolon_of_ne hv
      rw [Option.filter_eq_none_iff]
      intro i _
      rw [hboundary]
      exact Bool.false_ne_true
  have hterm : Gives (Syntax.term finish (o :: us)) (·.compile t = .ok e) [] := by
    have hchain : Gives (chain finish .or 0 (o :: us ++ [])) (·.compile t = .ok e) [] :=
      hread.chain (fun _ => by decide) finish 0 trivial
    rwa [List.append_nil] at hchain
  rw [statement, if_neg hfilter, hidentifier]
  exact hterm.bind fun term hcompile _ => .ok ⟨o.position, term, rfl, hcompile⟩

/-- The text of an expression is a single statement, of a term of the expression, if it is not
nested too deeply. -/
theorem parse_text (ht : t.WellFormed) (hl : e.Legible) (hc : e.Compiled t)
    (he : ∀ g, e ≠ .value (.guid g)) :
    (∃ p, Document.parse e.text = .error (.grammar .nestedTooDeeply p)) ∨
      ∃ d p term, Document.parse e.text = .ok d ∧ d.statements = [.expression p term] ∧
        term.compile t = .ok e := by
  obtain ⟨tokens, finish, htokens, hkinds⟩ := (adds_text hl hc).tokenize
  have hread := readsFrom_of_kinds ht hl hc hkinds
  obtain ⟨o, us, rfl, ho, -⟩ := hread.head
  have hstatement := gives_statement finish hl he hkinds hread
  have hsemicolon : isSemicolon o = false := by
    apply isSemicolon_of_ne
    intro hk
    rw [hk] at ho
    cases ho
  rw [parse_of_tokenize htokens, Document.ofTokens, statements, hsemicolon]
  cases hs : statement finish o us with
  | error fault =>
    rw [hs] at hstatement
    cases fault with
    | grammar fault p =>
      cases fault with
      | nestedTooDeeply => exact .inl ⟨p, rfl⟩
      | _ => exact hstatement.elim
    | _ => exact hstatement.elim
  | ok s =>
    rw [hs] at hstatement
    obtain ⟨s, rest, hlt⟩ := s
    obtain ⟨⟨p, term, rfl, hcompile⟩, rfl⟩ := hstatement
    refine .inr ⟨⟨here finish (o :: us), [.expression p term]⟩, p, term, ?_, rfl, hcompile⟩
    have hnone : statements finish [] = .ok [] := by rw [statements]
    rw [if_neg Bool.false_ne_true, ok_bind, hnone]
    rfl

end Statements

end Expression

/-! ## The tree -/

/-- The text of a legible expression that a text was bound to, unless it is nested too deeply, is a
single statement, and where its table is the primary one that statement is bound to the expression
again. -/
theorem bindText_text {t : Table} (ht : t.Built) {scope : Scope} {options : Options}
    {text : String} {b : Bound} (hb : (bindText text scope options).1 = .ok b)
    {tree : ExpressionTree} (htree : tree ∈ b.trees) (htable : scope.table? tree.table = some t)
    {e : Expression} (hroot : tree.root = some e) (hl : e.Legible)
    (hguid : ∀ g, e ≠ .value (.guid g)) :
    (∃ p, Document.parse e.text = .error (.grammar .nestedTooDeeply p)) ∨
      (∃ d p term, Document.parse e.text = .ok d ∧ d.statements = [.expression p term]) ∧
        ∀ scope' options', scope'.primaryTable options'.primaryTable = .ok t →
          (bindText e.text scope' options').1 =
            .ok ⟨[{ ExpressionTree.ofTable t.name with root := some e }], []⟩ := by
  obtain ⟨u, hholds, hu⟩ := compiled_bindText hb tree htree
  -- the tree belongs to the table that goes by the name it bears
  have htu : t = u := by
    have hfound := hholds.2
    rw [hu.name, htable] at hfound
    exact Option.some.inj hfound
  subst htu
  obtain ⟨e', hroot', hc⟩ := hu.root
  obtain rfl : e = e' := Option.some.inj (hroot.symm.trans hroot')
  rcases Expression.parse_text ht.wellFormed hl hc hguid with hdeep | ⟨d, p, term, hd, hs, hterm⟩
  · exact .inl hdeep
  · refine .inr ⟨⟨d, p, term, hd, hs⟩, fun scope' options' hprimary => ?_⟩
    rw [bindText_single scope' options' hd hs]
    show (Statement.ofTree (Statement.expressionTree scope' options' term)).1 = _
    rw [Statement.expressionTree, hprimary, ok_bind, hterm]
    rfl

/-- Open valves by any other name. -/
def otherValves : Expression :=
  .operator .and (.column ⟨"Open", 0⟩) (.inList (.column ⟨"Name", 1⟩) [.value (.string "it's")] true
    false)

theorem parse_otherValves : Document.parse "Open AND Name NOT IN ('it''s')" =
    .ok ⟨⟨1, 1⟩, [.expression ⟨1, 1⟩ (.logical ⟨1, 6⟩ .and (.column ⟨1, 1⟩ "Open")
      (.inList ⟨1, 15⟩ (.column ⟨1, 10⟩ "Name") [.literal ⟨1, 23⟩ (.string "it's")] true
        false))]⟩ := by
  have htokens : Token.tokenize "Open AND Name NOT IN ('it''s')" =
      .ok ([⟨.identifier "Open", "Open", ⟨1, 1⟩⟩, ⟨.keyword .AND, "AND", ⟨1, 6⟩⟩,
        ⟨.identifier "Name", "Name", ⟨1, 10⟩⟩, ⟨.keyword .NOT, "NOT", ⟨1, 15⟩⟩,
        ⟨.keyword .IN, "IN", ⟨1, 19⟩⟩, ⟨.symbol .leftParen, "(", ⟨1, 22⟩⟩,
        ⟨.string "it's", "'it''s'", ⟨1, 23⟩⟩, ⟨.symbol .rightParen, ")", ⟨1, 30⟩⟩], ⟨1, 31⟩) := by
    decide +kernel
  have hvalue {d : Nat} {ts : List Token} {term : Term} (h : Derives .primary d ts term) :
      Derives (.level .bitwise) d ts term :=
    .level (.first (c := .bitwise) (.level (.first (c := .additive) (.level
      (.first (c := .multiplicative) (.unsigned h))))))
  have hor {d : Nat} {ts : List Token} {term : Term} (h : Derives (.level .and) d ts term) :
      Derives (.level .or) d ts term := .level (.first (c := .or) h)
  have hopen : Derives .negation 0 [⟨.identifier "Open", "Open", ⟨1, 1⟩⟩]
      (.column ⟨1, 1⟩ "Open") :=
    .condition rfl (.predicate (.value (hvalue (.column rfl))))
  have hitems : ∀ i ∈ [([(⟨.string "it's", "'it''s'", ⟨1, 23⟩⟩ : Token)],
      Term.literal ⟨1, 23⟩ (.string "it's"))], Derives (.level .or) (1 + (0 + 1)) i.1 i.2 :=
    List.forall_mem_singleton.mpr (hor (.level (.first (c := .and)
      (.condition rfl (.predicate (.value (hvalue (.literal rfl))))))))
  have hname : Derives (.suffixed 0) 1 [⟨.identifier "Name", "Name", ⟨1, 10⟩⟩]
      (.column ⟨1, 10⟩ "Name") := .value (hvalue (.column rfl))
  have hword : Opens .IN true ⟨1, 15⟩ [⟨.keyword .NOT, "NOT", ⟨1, 15⟩⟩,
      ⟨.keyword .IN, "IN", ⟨1, 19⟩⟩] :=
    .negated (n := ⟨.keyword .NOT, "NOT", ⟨1, 15⟩⟩) rfl rfl
  have hlist := Derives.inList hname hword (by decide) .absent
    (a := ⟨.symbol .leftParen, "(", ⟨1, 22⟩⟩) rfl (.last _) hitems
    (z := ⟨.symbol .rightParen, ")", ⟨1, 30⟩⟩) rfl
  have hterm := hor (.level (.link (o := ⟨.keyword .AND, "AND", ⟨1, 6⟩⟩) (.first hopen) rfl
    (by decide) (.condition rfl (.predicate hlist))))
  have hstatement := DerivesStatement.expression (fun _ => rfl) hterm
  exact parse_of_derives htokens (.statement hstatement rfl .nil)

/-- The other open valves are asked for again by "([Open] AND [Name] NOT IN ('it''s'))". -/
theorem bindText_otherValves :
    Table.valves.Built ∧
      (bindText "Open AND Name NOT IN ('it''s')" (.table Table.valves)
        (Table.valves.queryOptions true)).1 =
          .ok ⟨[⟨"Valves", -1, [], some otherValves⟩], []⟩ ∧
      otherValves.Legible ∧
      ((∃ p, Document.parse otherValves.text = .error (.grammar .nestedTooDeeply p)) ∨
        (∃ d p term, Document.parse otherValves.text = .ok d ∧
          d.statements = [.expression p term]) ∧
            ∀ scope' options', scope'.primaryTable options'.primaryTable = .ok Table.valves →
              (bindText otherValves.text scope' options').1 =
                .ok ⟨[{ ExpressionTree.ofTable "Valves" with root := some otherValves }], []⟩) := by
  have hbind : (bindText "Open AND Name NOT IN ('it''s')" (.table Table.valves)
      (Table.valves.queryOptions true)).1 =
        .ok ⟨[⟨"Valves", -1, [], some otherValves⟩], []⟩ := by
    rw [bindText_fst, parse_otherValves]
    rfl
  have hlegible : otherValves.Legible :=
    .operator (.column _) (.inList (.column _) (List.forall_mem_singleton.mpr (.value trivial)))
      nofun (fun _ => rfl)
  exact ⟨Table.built_valves, hbind, hlegible, bindText_text Table.built_valves hbind
    List.mem_cons_self rfl rfl hlegible nofun⟩

end RowFilter
