import RowFilter.Proofs.Binding.Compile
import RowFilter.Proofs.Syntax.Spelling

/-!
Binding and the spelling of names. Where tables, columns and functions are found under one spelling
as under another, terms and statements that differ in spelling compile alike.
-/

namespace RowFilter

variable {κ : Type}

/-- Names are found as they are found in another spelling, or not found for a reason that `g` does
not tell apart. -/
structure Blind (f : String → String) (g : Error → κ) : Prop where
  column (t : Table) (name : String) : SameUpTo g (t.resolve (f name)) (t.resolve name)
  function (name : String) (received : Nat) :
    SameUpTo g (Binding.calledFunction (f name) received) (Binding.calledFunction name received)
  table (scope : Scope) (name : String) :
    SameUpTo g (scope.filterTable (f name)) (scope.filterTable name)

/-- Nothing is told apart from itself. -/
theorem blind_id (g : Error → κ) : Blind id g :=
  ⟨fun _ _ => .refl _, fun _ _ => .refl _, fun _ _ => .refl _⟩

namespace Syntax

variable {f : String → String} {g : Error → κ}

theorem Term.length_spelledAll (es : List Term) : (Term.spelledAll f es).length = es.length := by
  induction es with
  | nil => rfl
  | cons e es ih => rw [Term.spelledAll, List.length_cons, ih, List.length_cons]

mutual

theorem compile_spelled (h : Blind f g) (t : Table) (e : Term) :
    SameUpTo g ((e.spelled f).compile t) (e.compile t) := by
  cases e with
  | literal _ l => exact .refl _
  | column _ name =>
    rw [Term.spelled, Term.compile, Term.compile]
    exact (h.column t name).bind fun _ => .refl _
  | call _ name arguments =>
    rw [Term.spelled, Term.compile, Term.compile, Term.length_spelledAll]
    refine (compileAll_spelled h t arguments).bind fun es => ?_
    exact (h.function name arguments.length).bind fun _ => .refl _
  | unary _ op operand =>
    rw [Term.spelled, Term.compile, Term.compile]
    exact (compile_spelled h t operand).bind fun _ => .refl _
  | not _ operand =>
    rw [Term.spelled, Term.compile, Term.compile]
    exact (compile_spelled h t operand).bind fun _ => .refl _
  | binary _ op left right | predicate _ op left right | logical _ op left right =>
    rw [Term.spelled, Term.compile, Term.compile]
    exact (compile_spelled h t left).bind fun _ =>
      (compile_spelled h t right).bind fun _ => .refl _
  | inList _ operand items negated exact =>
    rw [Term.spelled, Term.compile, Term.compile]
    exact (compile_spelled h t operand).bind fun _ =>
      (compileAll_spelled h t items).bind fun _ => .refl _
  | isNull _ operand negated =>
    rw [Term.spelled, Term.compile, Term.compile]
    exact (compile_spelled h t operand).bind fun _ => .refl _

theorem compileAll_spelled (h : Blind f g) (t : Table) (es : List Term) :
    SameUpTo g (Term.compileAll t (Term.spelledAll f es)) (Term.compileAll t es) := by
  cases es with
  | nil => exact .refl _
  | cons e rest =>
    rw [Term.spelledAll, Term.compileAll, Term.compileAll]
    exact (compile_spelled h t e).bind fun _ =>
      (compileAll_spelled h t rest).bind fun _ => .refl _

end

theorem orderTerms_spelled (h : Blind f g) (t : Table) (order : List OrderingTerm) :
    SameUpTo g (Binding.orderTerms t (order.map (OrderingTerm.spelled f)))
      (Binding.orderTerms t order) := by
  induction order with
  | nil => exact .refl _
  | cons term order ih =>
    rw [List.map_cons, Binding.orderTerms, Binding.orderTerms]
    exact (h.column t term.column).bind fun _ => ih.bind fun _ => .refl _

theorem sameUpTo_ofTree {x y : Except Error ExpressionTree} (h : SameUpTo g x y) :
    (Statement.ofTree x).SameUpTo g (Statement.ofTree y) := by
  cases h with
  | ok tree => exact ⟨.refl _, rfl⟩
  | error h => exact ⟨.error h, rfl⟩

section

variable (h : Blind f g) (scope : Scope) (options : Options)

include h

theorem statement_spelled (s : Statement) :
    ((s.spelled f).compile scope options).SameUpTo g (s.compile scope options) := by
  cases s with
  | identifier _ i => exact ⟨.refl _, rfl⟩
  | filter _ clause condition =>
    refine sameUpTo_ofTree ((h.table scope clause.table).bind fun t => ?_)
    refine (orderTerms_spelled h t clause.orderBy).bind fun _ => ?_
    exact (compile_spelled h t condition).bind fun _ => .refl _
  | expression _ e =>
    refine sameUpTo_ofTree ((SameUpTo.refl (scope.primaryTable options.primaryTable)).bind
      fun t => ?_)
    exact (compile_spelled h t e).bind fun _ => .refl _

/-- Statements compile as they do in another spelling. -/
theorem statements_spelled (list : List Statement) :
    (Statement.compileAll scope options (list.map (Statement.spelled f))).SameUpTo g
      (Statement.compileAll scope options list) := by
  induction list with
  | nil => exact ⟨.refl _, rfl⟩
  | cons s list ih =>
    rw [List.map_cons, Statement.compileAll, Statement.compileAll]
    exact (statement_spelled h scope options s).andThen fun _ =>
      ih.andThen fun _ => ⟨.refl _, rfl⟩

end

/-! ## Two spellings -/

section

variable (h : Blind f g)

include h

theorem compile_of_spelled_eq {e e' : Term} (he : e.spelled f = e'.spelled f) (t : Table) :
    SameUpTo g (e.compile t) (e'.compile t) := by
  have hown := compile_spelled h t e
  rw [he] at hown
  exact hown.symm.trans (compile_spelled h t e')

theorem statement_of_spelled_eq {s s' : Statement} (hs : s.spelled f = s'.spelled f)
    (scope : Scope) (options : Options) :
    (s.compile scope options).SameUpTo g (s'.compile scope options) := by
  have hown := statement_spelled h scope options s
  rw [hs] at hown
  exact hown.symm.trans (statement_spelled h scope options s')

theorem statements_of_spelled_eq {list list' : List Statement}
    (hlist : list.map (Statement.spelled f) = list'.map (Statement.spelled f))
    (scope : Scope) (options : Options) :
    (Statement.compileAll scope options list).SameUpTo g
      (Statement.compileAll scope options list') := by
  have hown := statements_spelled h scope options list
  rw [hlist] at hown
  exact hown.symm.trans (statements_spelled h scope options list')

end

end Syntax

end RowFilter
