import RowFilter.Proofs.Binding.Bound
import RowFilter.Proofs.Evaluation.Scoped
import RowFilter.Proofs.Syntax.Height
import RowFilter.Proofs.Token.Guid

/-!
What expressions come from. Every value is that of a literal, every column was resolved by a name
that a text can hold, every call was accepted, and no list is empty. All roots of trees that a text
is bound to are such expressions.
-/

namespace RowFilter

open Syntax

/-! ## Names -/

/-- A name that can stand in brackets. -/
def CanBracket (name : String) : Prop := ']' ∉ name.toList

/-- If the token is a name, it can stand in brackets. -/
def Token.Bracketable (o : Token) : Prop := ∀ name, o.kind = .identifier name → CanBracket name

namespace Token

theorem notMem_of_readDelimited? {closing : Char} {s content : List Char} {n : Nat}
    (h : readDelimited? closing false s = some (content, n)) : closing ∉ content := by
  induction s generalizing content n with
  | nil => cases h
  | cons c s ih =>
    by_cases hc : c = closing
    · subst hc
      have hnil : content = [] := by
        cases s <;> simpa [readDelimited?, eq_comm] using congrArg (Option.map Prod.fst) h
      rw [hnil]
      exact List.not_mem_nil
    · rw [readDelimited?_cons hc] at h
      obtain ⟨⟨inner, m⟩, hinner, heq⟩ := Option.map_eq_some_iff.mp h
      cases heq
      intro hmem
      rcases List.mem_cons.mp hmem with rfl | hmem
      · exact hc rfl
      · exact ih hinner hmem

/-- A word has no bracket in it, and a bracketed name ends with the first one. -/
theorem canBracket_of_readStart {c : Char} {r : List Char} {name : String} {length : Nat}
    (h : readStart c r = .token (.identifier name) length) : CanBracket name := by
  have hquoted {closing : Char} {doubled : Bool} {kind : String → Kind} {what : String}
      (hkind : ∀ content, kind content ≠ .identifier name) :
      readQuoted closing doubled kind what r ≠ .token (.identifier name) length := by
    unfold readQuoted
    split
    · exact fun heq => hkind _ (Reading.token.inj heq).1
    · exact nofun
  unfold readStart at h
  dsimp only at h
  split at h
  · cases h
  · cases h
  · split at h
    · unfold readNumber at h
      dsimp only at h
      split at h
      · cases h
      · split at h <;> cases h
    · split at h
      · unfold readWord at h
        dsimp only at h
        split at h
        · cases h
        · cases h
          -- the word is made of the characters that words are made of
          have hword : (c :: r).take (wordLength (c :: r)) = (c :: r).takeWhile isWordChar :=
            (List.prefix_iff_eq_take.mp (List.takeWhile_prefix isWordChar)).symm
          rw [CanBracket, String.toList_ofList, hword]
          exact fun hmem => absurd (List.all_eq_true.mp List.all_takeWhile _ hmem) (by decide)
      · split at h
        · exact absurd h (hquoted nofun)
        · exact absurd h (hquoted nofun)
        · exact absurd h (hquoted nofun)
        · unfold readQuoted at h
          split at h
          · next content n hread =>
            cases h
            rw [CanBracket, String.toList_ofList]
            exact notMem_of_readDelimited? hread
          · cases h
        · unfold readSymbol at h
          split at h <;> cases h

theorem bracketable_of_mem_tokens {input : String} {o : Token}
    (h : o ∈ (stream input).tokens) : o.Bracketable := by
  intro name ho
  obtain ⟨c, r, length, hread⟩ := exists_readStart_of_mem h
  rw [ho] at hread
  exact canBracket_of_readStart hread

end Token

/-! ## Literals and calls -/

theorem required_eq_ok {text what : String} {v? : Option Value} {v : Value}
    (h : Literal.required text what v? = .ok v) : v? = some v := by
  cases v? with
  | none => cases h
  | some w => exact congrArg some (Except.ok.inj h)

theorem accepts_of_calledFunction {name : String} {count : Nat} {f : Function}
    (h : Binding.calledFunction name count = .ok f) : f.arity.accepts count = true := by
  unfold Binding.calledFunction at h
  split at h
  · cases h
  · split at h
    · next haccepts =>
      cases h
      exact haccepts
    · cases h

/-! ## Columns -/

theorem isIn_of_resolve {t : Table} {name : String} {c : ColumnRef} (h : t.resolve name = .ok c) :
    c.IsIn t := by
  unfold Table.resolve at h
  split at h
  · next index column hcolumn =>
    cases h
    exact ⟨column, (Table.column?_eq_some hcolumn).1, rfl⟩
  · cases h

theorem isIn_of_orderTerms {t : Table} {order : List OrderingTerm} {terms : List OrderTerm}
    (h : Binding.orderTerms t order = .ok terms) : ∀ term ∈ terms, term.column.IsIn t := by
  induction order generalizing terms with
  | nil =>
    cases h
    exact nofun
  | cons term order ih =>
    obtain ⟨c, hc, h⟩ := bind_eq_ok_iff.mp h
    obtain ⟨rest, hrest, h⟩ := bind_eq_ok_iff.mp h
    cases h
    exact List.forall_mem_cons.mpr ⟨isIn_of_resolve hc, ih hrest⟩

/-! ## Terms -/

inductive Expression.Compiled (t : Table) : Expression → Prop where
  | value {l : Literal} {v : Value} (h : l.value = .ok v) : Compiled t (.value v)
  | column {name : String} {c : ColumnRef} (hname : CanBracket name)
      (h : t.resolve name = .ok c) : Compiled t (.column c)
  | unary {op : UnaryOperator} {operand : Expression} (h : Compiled t operand) :
      Compiled t (.unary op operand)
  | operator {op : Operator} {left right : Expression} (hl : Compiled t left)
      (hr : Compiled t right) : Compiled t (.operator op left right)
  | function {f : Function} {arguments : List Expression}
      (hcount : f.arity.accepts arguments.length = true)
      (h : ∀ e ∈ arguments, Compiled t e) : Compiled t (.function f arguments)
  | inList {operand : Expression} {items : List Expression} {negated exact : Bool}
      (h : Compiled t operand) (hsome : items ≠ []) (hitems : ∀ e ∈ items, Compiled t e) :
      Compiled t (.inList operand items negated exact)
  | isNull {operand : Expression} {negated : Bool} (h : Compiled t operand) :
      Compiled t (.isNull operand negated)

theorem Term.compile_join (t : Table) (c : Chain) (p : Text.Position) (op : Operator)
    (left right : Term) :
    (c.join p op left right).compile t =
      left.compile t >>= fun l => right.compile t >>= fun r => .ok (.operator op l r) := by
  cases c <;> rfl

/-- A property that the expressions of all terms have, the expressions compiled together have. -/
theorem forall_mem_of_compileAll {t : Table} {P : Expression → Prop} {terms : List Term}
    (hP : ∀ term ∈ terms, ∀ e, term.compile t = .ok e → P e) {es : List Expression}
    (h : Term.compileAll t terms = .ok es) : (∀ e ∈ es, P e) ∧ es.length = terms.length := by
  induction terms generalizing es with
  | nil =>
    cases h
    exact ⟨nofun, rfl⟩
  | cons term terms ih =>
    obtain ⟨e, he, h⟩ := bind_eq_ok_iff.mp h
    obtain ⟨rest, hrest, h⟩ := bind_eq_ok_iff.mp h
    cases h
    obtain ⟨hterm, hterms⟩ := List.forall_mem_cons.mp hP
    obtain ⟨hall, hlength⟩ := ih hterms hrest
    exact ⟨List.forall_mem_cons.mpr ⟨hterm e he, hall⟩, congrArg (· + 1) hlength⟩

theorem Syntax.Derives.compiled {r : Rank} {d : Nat} {ts : List Token} {term : Term}
    (h : Derives r d ts term) (hts : ∀ o ∈ ts, o.Bracketable) {t : Table} {e : Expression}
    (he : term.compile t = .ok e) : e.Compiled t := by
  induction h generalizing e with
  | first _ ih | level _ ih | condition _ _ ih | value _ ih | predicate _ ih | unsigned _ ih =>
    exact ih hts he
  | parentheses _ _ _ _ ih =>
    simp only [List.forall_mem_cons, List.forall_mem_append] at hts
    exact ih hts.2.1 he
  | link _ _ _ _ ihl ihr =>
    simp only [List.forall_mem_cons, List.forall_mem_append] at hts
    rw [Term.compile_join] at he
    obtain ⟨l, hl, he⟩ := bind_eq_ok_iff.mp he
    obtain ⟨r, hr, he⟩ := bind_eq_ok_iff.mp he
    cases he
    exact .operator (ihl hts.1 hl) (ihr hts.2.2 hr)
  | comparison _ _ _ _ ihl ihr =>
    simp only [List.forall_mem_cons, List.forall_mem_append] at hts
    obtain ⟨l, hl, he⟩ := bind_eq_ok_iff.mp he
    obtain ⟨r, hr, he⟩ := bind_eq_ok_iff.mp he
    cases he
    exact .operator (ihl hts.1 hl) (ihr hts.2.2 hr)
  | like _ _ _ _ _ ihl ihr =>
    simp only [List.forall_mem_append] at hts
    obtain ⟨l, hl, he⟩ := bind_eq_ok_iff.mp he
    obtain ⟨r, hr, he⟩ := bind_eq_ok_iff.mp he
    cases he
    exact .operator (ihl hts.1 hl) (ihr hts.2.2.2 hr)
  | not _ _ _ ih | sign _ _ _ ih =>
    rw [List.forall_mem_cons] at hts
    obtain ⟨operand, hoperand, he⟩ := bind_eq_ok_iff.mp he
    cases he
    exact .unary (ih hts.2 hoperand)
  | isNull _ _ _ _ _ ih =>
    rw [List.forall_mem_append] at hts
    obtain ⟨operand, hoperand, he⟩ := bind_eq_ok_iff.mp he
    cases he
    exact .isNull (ih hts.1 hoperand)
  | @inList _ _ _ _ _ _ _ _ _ _ _ _ items _ _ _ _ _ hall _ _ ih ihs =>
    simp only [List.forall_mem_append, List.forall_mem_cons] at hts
    obtain ⟨operand, hoperand, he⟩ := bind_eq_ok_iff.mp he
    obtain ⟨es, hes, he⟩ := bind_eq_ok_iff.mp he
    cases he
    obtain ⟨hcompiled, hlength⟩ := forall_mem_of_compileAll (P := fun e => e.Compiled t)
      (fun term hterm e he => by
        obtain ⟨i, hi, rfl⟩ := List.mem_map.mp hterm
        have hsub := hall.subset (List.mem_map.mpr ⟨i, hi, rfl⟩)
        exact ihs i hi (fun o ho => hts.2.2.2.2.1 o (hsub ho)) he) hes
    refine .inList (ih hts.1 hoperand) ?_ hcompiled
    -- a list of items has a first one
    rintro rfl
    cases items with
    | nil => cases hall
    | cons => cases hlength
  | literal _ =>
    obtain ⟨v, hv, he⟩ := bind_eq_ok_iff.mp he
    cases he
    exact .value hv
  | column ho =>
    obtain ⟨c, hc, he⟩ := bind_eq_ok_iff.mp he
    cases he
    exact .column (hts _ List.mem_cons_self _ ho) hc
  | callEmpty _ _ _ =>
    obtain ⟨es, hes, he⟩ := bind_eq_ok_iff.mp he
    obtain ⟨f, hf, he⟩ := bind_eq_ok_iff.mp he
    cases hes
    cases he
    exact .function (accepts_of_calledFunction hf) nofun
  | call _ _ hall _ _ ihs =>
    simp only [List.forall_mem_append, List.forall_mem_cons] at hts
    obtain ⟨es, hes, he⟩ := bind_eq_ok_iff.mp he
    obtain ⟨f, hf, he⟩ := bind_eq_ok_iff.mp he
    cases he
    obtain ⟨hcompiled, hlength⟩ := forall_mem_of_compileAll (P := fun e => e.Compiled t)
      (fun term hterm e he => by
        obtain ⟨i, hi, rfl⟩ := List.mem_map.mp hterm
        have hsub := hall.subset (List.mem_map.mpr ⟨i, hi, rfl⟩)
        exact ihs i hi (fun o ho => hts.2.2.1 o (hsub ho)) he) hes
    refine .function ?_ hcompiled
    rw [hlength]
    exact accepts_of_calledFunction hf

/-! ## Tables of a scope -/

namespace Scope

def tables : Scope → List Table
  | dataSet d => d.tables
  | table t => [t]

/-- A table of the scope that goes by its own name there. -/
def Holds (scope : Scope) (t : Table) : Prop :=
  t ∈ scope.tables ∧ scope.table? t.name = some t

theorem holds_of_table? {d : DataSet} {t : Table} (h : d.table? t.name = some t) :
    (dataSet d).Holds t := by
  refine ⟨?_, h⟩
  rw [DataSet.table?] at h
  exact List.mem_of_find?_eq_some h

theorem holds_self (t : Table) : (table t).Holds t :=
  ⟨List.mem_singleton_self t, if_pos (Text.sameName_refl t.name)⟩

theorem holds_of_filterTable {scope : Scope} {name : String} {t : Table}
    (h : scope.filterTable name = .ok t) : scope.Holds t := by
  cases scope with
  | dataSet d => exact holds_of_table? (table?_of_filterTable h)
  | table u =>
    unfold filterTable at h
    split at h
    · next v hv =>
      cases h
      change (if Text.sameName u.name name then some u else none) = some _ at hv
      split at hv
      · cases hv
        exact holds_self _
      · cases hv
    · cases h

theorem holds_of_primaryTable {scope : Scope} {name : Option String} {t : Table}
    (h : scope.primaryTable name = .ok t) : scope.Holds t := by
  cases scope with
  | dataSet d => exact holds_of_table? (table?_of_primaryTable h)
  | table u =>
    cases h
    exact holds_self _

end Scope

/-! ## Trees -/

/-- A tree with an expression, all of which comes from a text and belongs to the table that the tree
names. -/
structure ExpressionTree.Compiled (tree : ExpressionTree) (t : Table) : Prop where
  name : t.name = tree.table
  root : ∃ e, tree.root = some e ∧ e.Compiled t
  orderBy : ∀ term ∈ tree.orderBy, term.column.IsIn t

theorem compiled_statement {scope : Scope} {options : Options} {s : Statement}
    (hs : ∀ e, s.term? = some e → ∃ ts, (∀ o ∈ ts, o.Bracketable) ∧ DerivesTerm ts e) {b : Bound}
    (h : (s.compile scope options).1 = .ok b) :
    ∀ tree ∈ b.trees, ∃ t, scope.Holds t ∧ tree.Compiled t := by
  have hofTree {x : Except Error ExpressionTree}
      (hx : ∀ u, x = .ok u → ∃ t, scope.Holds t ∧ u.Compiled t)
      (hb : (Statement.ofTree x).1 = .ok b) :
      ∀ tree ∈ b.trees, ∃ t, scope.Holds t ∧ tree.Compiled t := by
    cases x with
    | error e => cases hb
    | ok u =>
      cases hb
      exact List.forall_mem_singleton.mpr (hx u rfl)
  cases s with
  | identifier _ i =>
    have hnone : b.trees = [] := trees_of_identifier h
    rw [hnone]
    exact nofun
  | filter _ clause condition =>
    obtain ⟨ts, hbracket, hts⟩ := hs condition rfl
    refine hofTree (fun u hu => ?_) h
    obtain ⟨t, ht, hu⟩ := bind_eq_ok_iff.mp hu
    obtain ⟨order, horder, hu⟩ := bind_eq_ok_iff.mp hu
    obtain ⟨root, hroot, hu⟩ := bind_eq_ok_iff.mp hu
    cases hu
    exact ⟨t, Scope.holds_of_filterTable ht, rfl, ⟨root, rfl, hts.compiled hbracket hroot⟩,
      isIn_of_orderTerms horder⟩
  | expression _ e =>
    obtain ⟨ts, hbracket, hts⟩ := hs e rfl
    refine hofTree (fun u hu => ?_) h
    obtain ⟨t, ht, hu⟩ := bind_eq_ok_iff.mp hu
    obtain ⟨root, hroot, hu⟩ := bind_eq_ok_iff.mp hu
    cases hu
    exact ⟨t, Scope.holds_of_primaryTable ht, rfl, ⟨root, rfl, hts.compiled hbracket hroot⟩, nofun⟩

theorem compiled_bindText {text : String} {scope : Scope} {options : Options} {b : Bound}
    (h : (bindText text scope options).1 = .ok b) :
    ∀ tree ∈ b.trees, ∃ t, scope.Holds t ∧ tree.Compiled t := by
  rw [bindText_fst] at h
  obtain ⟨d, hd, hb⟩ := bind_eq_ok_iff.mp h
  refine compileAll_induction scope options
    (P := fun b => ∀ tree ∈ b.trees, ∃ t, scope.Holds t ∧ tree.Compiled t) nofun
    (fun _ _ hb hc => List.forall_mem_append.mpr ⟨hb, hc⟩) (fun s hs b => ?_) hb
  apply compiled_statement
  intro e he
  obtain ⟨ts, hsub, hts⟩ :=
    Document.exists_derives_tokens hd (List.mem_filterMap.mpr ⟨s, hs, he⟩)
  exact ⟨ts, fun o ho => Token.bracketable_of_mem_tokens (hsub ho), hts⟩

end RowFilter
