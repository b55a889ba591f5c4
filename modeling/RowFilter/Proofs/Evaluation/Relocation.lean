import RowFilter.Proofs.Binding.Compile

/-!
Expressions whose columns are moved. An expression has the same value on a row in which every column
it is moved to holds what the column held before; and what a term is compiled to is moved with the
columns that its names resolve to.
-/

namespace RowFilter

/-- The second row holds in the columns moved to what the first one holds in the columns. -/
def Row.Moves (f : ColumnRef → ColumnRef) (r s : Row) : Prop :=
  ∀ c, s.cell (f c).index = r.cell c.index

/-- Names that resolve in the first table resolve in the second one, to the columns moved to. -/
def Table.Moves (f : ColumnRef → ColumnRef) (t t' : Table) : Prop :=
  ∀ name c, t.resolve name = .ok c → t'.resolve name = .ok (f c)

namespace Expression

variable (f : ColumnRef → ColumnRef)

mutual

/-- The same expression with other columns. -/
def mapColumns : Expression → Expression
  | value v => value v
  | column c => column (f c)
  | unary op operand => unary op operand.mapColumns
  | operator op left right => operator op left.mapColumns right.mapColumns
  | function g arguments => function g (mapColumnsAll arguments)
  | inList operand items negated exact =>
    inList operand.mapColumns (mapColumnsAll items) negated exact
  | isNull operand negated => isNull operand.mapColumns negated

def mapColumnsAll : List Expression → List Expression
  | [] => []
  | e :: rest => e.mapColumns :: mapColumnsAll rest

end

theorem length_mapColumnsAll (es : List Expression) :
    (mapColumnsAll f es).length = es.length := by
  induction es with
  | nil => rfl
  | cons e rest ih => exact congrArg (· + 1) ih

/-! ## Values -/

variable {f} {clock : Clock} {r s : Row}

mutual

theorem evaluate_mapColumns (h : r.Moves f s) (e : Expression) :
    (e.mapColumns f).evaluate clock s = e.evaluate clock r := by
  match e with
  | .value _ => rfl
  | .column c => exact congrArg Except.ok (h c)
  | .unary op operand => simp only [mapColumns, evaluate, evaluate_mapColumns h operand]
  | .operator op left right =>
    simp only [mapColumns, evaluate, evaluate_mapColumns h left, evaluate_mapColumns h right]
  | .function g arguments =>
    simp only [mapColumns, evaluate, length_mapColumnsAll, evaluateChoice_mapColumns h arguments,
      evaluateFirst_mapColumns h arguments, evaluateAll_mapColumns h arguments]
  | .inList operand items negated exact =>
    simp only [mapColumns, evaluate, evaluate_mapColumns h operand, isAmong_mapColumns h items]
  | .isNull operand negated => simp only [mapColumns, evaluate, evaluate_mapColumns h operand]

theorem evaluateAll_mapColumns (h : r.Moves f s) (es : List Expression) :
    evaluateAll clock s (mapColumnsAll f es) = evaluateAll clock r es := by
  match es with
  | [] => rfl
  | e :: rest =>
    simp only [mapColumnsAll, evaluateAll, evaluate_mapColumns h e, evaluateAll_mapColumns h rest]

theorem evaluateFirst_mapColumns (h : r.Moves f s) (es : List Expression) :
    evaluateFirst clock s (mapColumnsAll f es) = evaluateFirst clock r es := by
  match es with
  | [] => rfl
  | e :: rest =>
    simp only [mapColumnsAll, evaluateFirst, evaluate_mapColumns h e,
      evaluateFirst_mapColumns h rest]

theorem evaluateChoice_mapColumns (h : r.Moves f s) (es : List Expression) :
    evaluateChoice clock s (mapColumnsAll f es) = evaluateChoice clock r es := by
  match es with
  | [c, a, b] =>
    simp only [mapColumnsAll, evaluateChoice, evaluate_mapColumns h c, evaluate_mapColumns h a,
      evaluate_mapColumns h b]
  | [] | [_] | [_, _] | _ :: _ :: _ :: _ :: _ => rfl

theorem isAmong_mapColumns (h : r.Moves f s) (es : List Expression) (v : Value) (exact : Bool) :
    isAmong clock s v exact (mapColumnsAll f es) = isAmong clock r v exact es := by
  match es with
  | [] => rfl
  | e :: rest =>
    simp only [mapColumnsAll, isAmong, evaluate_mapColumns h e, isAmong_mapColumns h rest v exact]

end

end Expression

/-! ## Terms -/

namespace Syntax

variable {t t' : Table} {f : ColumnRef → ColumnRef}

mutual

theorem Term.compile_mapColumns (h : t.Moves f t') (e : Term) {x : Expression}
    (hx : e.compile t = .ok x) :
    e.compile t' = .ok (x.mapColumns f) := by
  match e with
  | .literal _ l =>
    obtain ⟨v, hv, hx⟩ := bind_eq_ok_iff.mp hx
    cases hx
    rw [Term.compile, hv]
    rfl
  | .column _ name =>
    obtain ⟨c, hc, hx⟩ := bind_eq_ok_iff.mp hx
    cases hx
    rw [Term.compile, h name c hc]
    rfl
  | .call _ name arguments =>
    obtain ⟨es, hes, hx⟩ := bind_eq_ok_iff.mp hx
    obtain ⟨g, hg, hx⟩ := bind_eq_ok_iff.mp hx
    cases hx
    rw [Term.compile, Term.compileAll_mapColumns h arguments hes, ok_bind, hg]
    rfl
  | .unary _ op operand =>
    obtain ⟨o, ho, hx⟩ := bind_eq_ok_iff.mp hx
    cases hx
    rw [Term.compile, Term.compile_mapColumns h operand ho]
    rfl
  | .not _ operand =>
    obtain ⟨o, ho, hx⟩ := bind_eq_ok_iff.mp hx
    cases hx
    rw [Term.compile, Term.compile_mapColumns h operand ho]
    rfl
  | .binary _ op left right | .predicate _ op left right | .logical _ op left right =>
    obtain ⟨l, hl, hx⟩ := bind_eq_ok_iff.mp hx
    obtain ⟨r, hr, hx⟩ := bind_eq_ok_iff.mp hx
    cases hx
    rw [Term.compile, Term.compile_mapColumns h left hl, ok_bind,
      Term.compile_mapColumns h right hr]
    rfl
  | .inList _ operand items negated exact =>
    obtain ⟨o, ho, hx⟩ := bind_eq_ok_iff.mp hx
    obtain ⟨es, hes, hx⟩ := bind_eq_ok_iff.mp hx
    cases hx
    rw [Term.compile, Term.compile_mapColumns h operand ho, ok_bind,
      Term.compileAll_mapColumns h items hes]
    rfl
  | .isNull _ operand negated =>
    obtain ⟨o, ho, hx⟩ := bind_eq_ok_iff.mp hx
    cases hx
    rw [Term.compile, Term.compile_mapColumns h operand ho]
    rfl

theorem Term.compileAll_mapColumns (h : t.Moves f t') (es : List Term) {xs : List Expression}
    (hxs : Term.compileAll t es = .ok xs) :
    Term.compileAll t' es = .ok (Expression.mapColumnsAll f xs) := by
  match es with
  | [] =>
    cases hxs
    rfl
  | e :: rest =>
    obtain ⟨x, hx, hxs⟩ := bind_eq_ok_iff.mp hxs
    obtain ⟨more, hmore, hxs⟩ := bind_eq_ok_iff.mp hxs
    cases hxs
    rw [Term.compileAll, Term.compile_mapColumns h e hx, ok_bind,
      Term.compileAll_mapColumns h rest hmore]
    rfl

end

/-- The columns of an order are moved as well. -/
theorem orderTerms_mapColumns (h : t.Moves f t') (order : List OrderingTerm)
    {terms : List OrderTerm}
    (hterms : Binding.orderTerms t order = .ok terms) :
    Binding.orderTerms t' order = .ok (terms.map fun o => { o with column := f o.column }) := by
  induction order generalizing terms with
  | nil =>
    cases hterms
    rfl
  | cons term order ih =>
    obtain ⟨c, hc, hterms⟩ := bind_eq_ok_iff.mp hterms
    obtain ⟨more, hmore, hterms⟩ := bind_eq_ok_iff.mp hterms
    cases hterms
    rw [Binding.orderTerms, h term.column c hc, ok_bind, ih hmore]
    rfl

end Syntax

end RowFilter
