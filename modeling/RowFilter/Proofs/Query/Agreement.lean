import RowFilter.Proofs.Binding.Bound
import RowFilter.Proofs.Binding.Unplaced
import RowFilter.Proofs.Selection.Scan
import RowFilter.Proofs.Syntax.Reading
import RowFilter.Proofs.Token.Stream

/-!
Three ways to ask the same of a table: selecting by an expression, selecting by a FILTER statement
with that expression as its condition, and evaluating the expression row by row.
-/

namespace RowFilter

open Syntax
open Text (Position)

/-- The FILTER statement for a table with a text as its condition. -/
def filterText (name text : String) : String := "FILTER [" ++ name ++ "] WHERE " ++ text

/-! ## The statement for an expression -/

/-- The tokens behind the head are those of the condition, elsewhere. -/
theorem tokenize_filterText {name text : String} {tokens : List Token} {finish : Position}
    (hname : ']' ∉ name.toList) (h : Token.tokenize text = .ok (tokens, finish)) :
    ∃ tokens' finish', Token.tokenize (filterText name text) = .ok (tokens', finish') ∧
      Matches tokens' (⟨.keyword .FILTER, "FILTER", .start⟩ :: ⟨.identifier name, "", .start⟩ ::
        ⟨.keyword .WHERE, "WHERE", .start⟩ :: tokens) := by
  have hchars : (filterText name text).toList =
      "FILTER [".toList ++ name.toList ++ "] WHERE ".toList ++ text.toList := by
    rw [filterText, String.toList_append, String.toList_append, String.toList_append]
  have halike := Token.alike_filter hname .start text.toList
  rw [← hchars, String.ofList_toList] at halike
  obtain ⟨rfl, hfinish⟩ := Token.tokenize_eq_ok_iff.mp h
  exact Token.tokenize_of_alike halike hfinish

/-- The phrase of the only statement of a text is the condition of the FILTER statement: nothing
but semicolons comes after it, and no semicolon before it. -/
theorem derives_filter {ts us : List Token} {f i w : Token} {p : Position} {e : Term}
    {name : String} (h : DerivesStatements us [.expression p e])
    (hfirst : startsWith (.symbol .semicolon) us = false)
    (hm : Matches ts (f :: i :: w :: us)) (hf : f.kind = .keyword .FILTER)
    (hi : i.kind = .identifier name) (hw : w.kind = .keyword .WHERE) :
    ∃ q e', DerivesStatements ts [.filter q ⟨name, none, []⟩ e'] ∧ e'.Same e := by
  obtain ⟨f', ps, rfl, hf', hps⟩ := hm.cons_inv
  obtain ⟨i', qs, rfl, hi', hqs⟩ := hps.cons_inv
  obtain ⟨w', rs, rfl, hw', hrs⟩ := hqs.cons_inv
  -- No semicolon comes first, so the phrase of the expression does.
  cases h with
  | semicolon ho _ =>
    exact absurd (startsWith_of_kind _ (of_decide_eq_true ho)) (Bool.eq_false_iff.mp hfirst)
  | @statement cs rest _ _ hs hb hrest =>
    obtain ⟨as, bs, rfl, has, hbs⟩ := hrs.append_inv
    cases hs with
    | expression _ hterm =>
      obtain ⟨e', he', hsame⟩ := hterm.of_matches has
      refine ⟨f'.position, e', ?_, hsame⟩
      have hstatement := DerivesStatement.filter (hf'.trans hf) .absent (hi'.trans hi)
        (hw'.trans hw) he' .absent
      rw [List.append_nil] at hstatement
      -- what comes after the phrase are semicolons, there as here
      obtain ⟨_, hnone, ⟨⟩⟩ := hrest.of_matches hbs
      exact .statement hstatement (atBoundary_of_matches hb hbs) hnone

/-- A text whose only statement is an expression makes, behind the head of a FILTER statement, a
text whose only statement is that statement, with the expression as its condition. -/
theorem parse_filterText {name text : String} {d : Document} {p : Position} {e : Term}
    (hname : ']' ∉ name.toList) (hparse : Document.parse text = .ok d)
    (hd : d.statements = [.expression p e])
    (hfirst : startsWith (.symbol .semicolon) (Token.stream text).tokens = false) :
    ∃ d' q e', Document.parse (filterText name text) = .ok d' ∧
      d'.statements = [.filter q ⟨name, none, []⟩ e'] ∧ e'.Same e := by
  obtain ⟨⟨tokens, finish⟩, htokens, hdocument⟩ := bind_eq_ok_iff.mp hparse
  have hderives := (ofTokens_eq_ok_iff.mp hdocument).2
  rw [hd] at hderives
  rw [(Token.tokenize_eq_ok_iff.mp htokens).1] at hfirst
  obtain ⟨tokens', finish', htokens', hmatches⟩ := tokenize_filterText hname htokens
  obtain ⟨q, e', hfilter, hsame⟩ := derives_filter hderives hfirst hmatches rfl rfl rfl
  exact ⟨_, q, e', parse_of_derives htokens' hfilter, rfl, hsame⟩

/-! ## The tree of a single statement -/

namespace Table

variable (t : Table) (quiet : Bool)

/-- What a text is bound to whose only statement has a tree. -/
theorem bindText_fst {text : String} {d : Document} {s : Statement}
    {tree : Except Error ExpressionTree} (hparse : Document.parse text = .ok d)
    (hd : d.statements = [s])
    (hs : s.compile (.table t) (t.queryOptions quiet) = Statement.ofTree tree) :
    (t.bindText text quiet).1 = tree.map fun tree => ⟨[tree], []⟩ := by
  have hbind : RowFilter.bindText text (.table t) (t.queryOptions quiet) =
      Statement.compileAll (.table t) (t.queryOptions quiet) [s] := by
    rw [bindText_eq, hparse, ← hd]
    exact bind_ofDocument d _ _
  rw [Table.bindText, hbind, Statement.compileAll, hs]
  cases tree with
  | ok tree => rfl
  | error e => rfl

/-- The tree of a text is that of its only statement. -/
theorem tree_fst {text : String} {d : Document} {s : Statement}
    {tree : Except Error ExpressionTree} (hparse : Document.parse text = .ok d)
    (hd : d.statements = [s])
    (hs : s.compile (.table t) (t.queryOptions quiet) = Statement.ofTree tree) :
    (t.tree text quiet).1 = tree := by
  rw [Table.tree, Logged.check_fst, trees, Logged.check_fst, t.bindText_fst quiet hparse hd hs]
  cases tree with
  | ok tree => rfl
  | error e => rfl

/-- The tree that selects the rows on which an expression is true. -/
def treeOf (t : Table) (e : Term) : Except Error ExpressionTree :=
  (e.compile t).map fun root => ⟨t.name, -1, [], some root⟩

/-- An expression is bound to the table that is asked, without order or limit. -/
theorem tree_expression {text : String} {d : Document} {p : Position} {e : Term}
    (hparse : Document.parse text = .ok d) (hd : d.statements = [.expression p e]) :
    (t.tree text quiet).1 = t.treeOf e := by
  apply t.tree_fst quiet hparse hd
  have htable : (Scope.table t).primaryTable (t.queryOptions quiet).primaryTable = .ok t := rfl
  rw [Statement.compile, Statement.expressionTree, htable, ok_bind, treeOf]
  cases e.compile t with
  | ok root => rfl
  | error fault => rfl

/-- A FILTER statement that names the table is bound to it. -/
theorem tree_filter {text : String} {d : Document} {p : Position} {e : Term}
    (hparse : Document.parse text = .ok d)
    (hd : d.statements = [.filter p ⟨t.name, none, []⟩ e]) :
    (t.tree text quiet).1 = t.treeOf e := by
  apply t.tree_fst quiet hparse hd
  have htable : (Scope.table t).filterTable t.name = .ok t := by
    rw [Scope.filterTable, Scope.table?, if_pos (Text.sameName_refl t.name)]
  have horder : Binding.orderTerms t [] = .ok [] := rfl
  rw [Statement.compile, Statement.filterTree, htable, ok_bind, horder, ok_bind, treeOf]
  cases e.compile t with
  | ok root => rfl
  | error fault => rfl

/-- The rows that a tree without order or limit selects from its own table. -/
theorem select_fst {clock : Clock} {root : Option Expression} :
    (ExpressionTree.select ⟨t.name, -1, [], root⟩ clock t).1 =
      .ok (t.rowList.filter (ExpressionTree.selects ⟨t.name, -1, [], root⟩ clock)) := by
  rw [ExpressionTree.select, if_pos (Text.sameName_refl t.name)]
  exact congrArg Except.ok (ExpressionTree.scan_fst _ clock t.name none t.rowList)

end Table

/-! ## Agreement -/

/-- Selecting by an expression, selecting by a FILTER statement with it as the condition, and
evaluating it on the rows agree: either all of them fail because of the same fault in binding, or
both select the rows on which it is true, in storage order and each of them once. -/
theorem select_agrees_with_evaluate (t : Table) (clock : Clock) (quiet : Bool) {text : String}
    {d : Document} {p : Position} {e : Term} (hname : ']' ∉ t.name.toList)
    (hparse : Document.parse text = .ok d) (hd : d.statements = [.expression p e])
    (hfirst : startsWith (.symbol .semicolon) (Token.stream text).tokens = false) :
    (∃ fault, (t.select clock text quiet).1 = .error (.bind fault) ∧
      (t.select clock (filterText t.name text) quiet).1 = .error (.bind fault) ∧
      ∀ row ∈ t.rowList, (t.evaluate clock row text quiet).1 = .error (.bind fault)) ∨
    ∃ rows, (t.select clock text quiet).1 = .ok rows ∧
      (t.select clock (filterText t.name text) quiet).1 = .ok rows ∧
      rows = t.rowList.filter
        (fun row => (t.evaluate clock row text quiet).1 = .ok (.boolean true)) ∧
      rows.Pairwise fun a b => a.index < b.index := by
  obtain ⟨d', q, e', hparse', hd', hsame⟩ := parse_filterText hname hparse hd hfirst
  -- Both texts have the same tree, since places do not matter to what a term means.
  have htree : (t.tree text quiet).1 = t.treeOf e := t.tree_expression quiet hparse hd
  have htree' : (t.tree (filterText t.name text) quiet).1 = t.treeOf e := by
    rw [t.tree_filter quiet hparse' hd', Table.treeOf, hsame t, Table.treeOf]
  simp only [Table.select, Table.evaluate, Logged.andThen_fst, Logged.check_fst, htree, htree']
  cases hcompile : e.compile t with
  | error fault =>
    -- An expression fails to compile for faults of binding only.
    obtain ⟨⟨fault, rfl⟩, -⟩ := fails_compile t e _ hcompile
    have hfault : t.treeOf e = .error (.bind fault) := by
      rw [Table.treeOf, hcompile]
      rfl
    rw [hfault]
    exact .inl ⟨fault, rfl, rfl, fun _ _ => rfl⟩
  | ok root =>
    have hok : t.treeOf e = .ok ⟨t.name, -1, [], some root⟩ := by
      rw [Table.treeOf, hcompile]
      rfl
    rw [hok]
    exact .inr ⟨_, t.select_fst, t.select_fst, rfl, t.pairwise_rowList.filter _⟩

/-- What three gauges show; the second of them shows nothing. -/
def gauges : Table :=
  ⟨"Gauges", [⟨"On", .boolean⟩], [[.boolean true], [.undefined], [.boolean false]]⟩

/-- The text `NOT On;` asks the same of the gauges as `FILTER [Gauges] WHERE NOT On;` does. -/
theorem select_agrees_of_negation :
    ']' ∉ gauges.name.toList ∧
      Document.parse "NOT On;" =
        .ok ⟨⟨1, 1⟩, [.expression ⟨1, 1⟩ (.not ⟨1, 1⟩ (.column ⟨1, 5⟩ "On"))]⟩ ∧
      startsWith (.symbol .semicolon) (Token.stream "NOT On;").tokens = false ∧
      ((∃ fault, (gauges.select .millennium "NOT On;" true).1 = .error (.bind fault) ∧
        (gauges.select .millennium "FILTER [Gauges] WHERE NOT On;" true).1 = .error (.bind fault) ∧
        ∀ row ∈ gauges.rowList,
          (gauges.evaluate .millennium row "NOT On;" true).1 = .error (.bind fault)) ∨
      ∃ rows, (gauges.select .millennium "NOT On;" true).1 = .ok rows ∧
        (gauges.select .millennium "FILTER [Gauges] WHERE NOT On;" true).1 = .ok rows ∧
        rows = gauges.rowList.filter
          (fun row => (gauges.evaluate .millennium row "NOT On;" true).1 = .ok (.boolean true)) ∧
        rows.Pairwise fun a b => a.index < b.index) := by
  have htokens : Token.tokenize "NOT On;" =
      .ok ([⟨.keyword .NOT, "NOT", ⟨1, 1⟩⟩, ⟨.identifier "On", "On", ⟨1, 5⟩⟩,
        ⟨.symbol .semicolon, ";", ⟨1, 7⟩⟩], ⟨1, 8⟩) := by
    decide +kernel
  have hcolumn : Derives (.level .bitwise) 1 [⟨.identifier "On", "On", ⟨1, 5⟩⟩]
      (.column ⟨1, 5⟩ "On") :=
    .level (.first (c := .bitwise) (.level (.first (c := .additive) (.level
      (.first (c := .multiplicative) (.unsigned (.column rfl)))))))
  have hterm : DerivesTerm [⟨.keyword .NOT, "NOT", ⟨1, 1⟩⟩, ⟨.identifier "On", "On", ⟨1, 5⟩⟩]
      (.not ⟨1, 1⟩ (.column ⟨1, 5⟩ "On")) :=
    .level (.first (c := .or) (.level (.first (c := .and) (.not rfl (by decide)
      (.condition rfl (.predicate (.value hcolumn)))))))
  have hname : ']' ∉ gauges.name.toList := by decide
  have hparse : Document.parse "NOT On;" =
      .ok ⟨⟨1, 1⟩, [.expression ⟨1, 1⟩ (.not ⟨1, 1⟩ (.column ⟨1, 5⟩ "On"))]⟩ := by
    rw [parse_of_tokenize htokens]
    refine ofTokens_eq_ok_iff.mpr ⟨rfl, ?_⟩
    have hstatement := DerivesStatement.expression (fun h => absurd h (List.cons_ne_nil _ _)) hterm
    exact .statement hstatement rfl (.semicolon rfl .nil)
  have hfirst : startsWith (.symbol .semicolon) (Token.stream "NOT On;").tokens = false := by
    rw [(Token.tokenize_eq_ok_iff.mp htokens).1]
    rfl
  exact ⟨hname, hparse, hfirst,
    select_agrees_with_evaluate gauges .millennium true hname hparse rfl hfirst⟩

end RowFilter
