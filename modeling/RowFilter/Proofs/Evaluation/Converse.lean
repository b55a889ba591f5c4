import RowFilter.Proofs.Outcome
import RowFilter.Proofs.Selection.Scan
import RowFilter.Proofs.Value.Reversal

/-!
Comparisons with their operands in the other order. Each comparison operator has a converse, which
says of the operands what the operator says of them in the order that they are written in.
-/

namespace RowFilter

/-- The same value, or a failure in both cases. -/
def SameResult {α : Type} (x y : Except Error α) : Prop := SameUpTo (fun _ => ()) x y

theorem SameResult.ok {α : Type} (a : α) : SameResult (.ok a) (.ok a) := SameUpTo.ok a

theorem SameResult.error {α : Type} (e e' : Error) :
    SameResult (.error e : Except Error α) (.error e') := SameUpTo.error rfl

namespace Operator

/-- The comparison of the operands in the other order. -/
def converse : Operator → Operator
  | less => greater
  | lessOrEqual => greaterOrEqual
  | greater => less
  | greaterOrEqual => lessOrEqual
  | op => op

theorem isComparison_converse (op : Operator) : op.converse.isComparison = op.isComparison := by
  cases op <;> rfl

theorem isExact_converse (op : Operator) : op.converse.isExact = op.isExact := by
  cases op <;> rfl

theorem isLogical_of_isComparison {op : Operator} (h : op.isComparison = true) :
    op.isLogical = false := by
  cases op with
  | and | or => cases h
  | _ => rfl

/-- The converse holds of the reversed order just when the operator holds of the order. -/
theorem holds_converse {op : Operator} (h : op.isComparison = true) (order : Option Ordering) :
    op.converse.holds (order.map Ordering.swap) = op.holds order := by
  cases order with
  | none => cases op <;> rfl
  | some o =>
    cases op with
    | less | lessOrEqual | greater | greaterOrEqual => cases o <;> rfl
    | equal | equalExact | notEqual | notEqualExact => cases o <;> rfl
    | _ => cases h

theorem comparison_converse {op : Operator} (h : op.isComparison = true) (a b : Value) :
    SameResult (op.comparison a b) (op.converse.comparison b a) := by
  have hreversed := Value.reversed_compare a b op.isExact
  rw [comparison, comparison, isExact_converse]
  -- either the comparison fails both ways, or the orders are opposite
  generalize a.compare b op.isExact = x at hreversed ⊢
  generalize b.compare a op.isExact = y at hreversed ⊢
  cases hreversed with
  | ok order =>
    show SameResult (.ok (Value.boolean (op.holds order)))
      (.ok (Value.boolean (op.converse.holds (order.map Ordering.swap))))
    rw [holds_converse h]
    exact .ok _
  | error e e' => exact .error e e'

theorem apply_converse {op : Operator} (h : op.isComparison = true) (a b : Value) :
    SameResult (op.apply a b) (op.converse.apply b a) := by
  rw [apply, apply, isComparison_converse, Bool.or_comm b.isUndefined]
  by_cases hundefined : (a.isUndefined || b.isUndefined) = true
  · rw [if_pos hundefined, if_pos hundefined]
    exact .ok Value.undefined
  · rw [if_neg hundefined, if_neg hundefined, if_pos h, if_pos h]
    exact comparison_converse h a b

end Operator

namespace Expression

/-- A comparison evaluates both of its sides, the left one first. -/
theorem evaluate_comparison {op : Operator} (h : op.isComparison = true) (clock : Clock)
    (row : Row) (x y : Expression) :
    (operator op x y).evaluate clock row =
      x.evaluate clock row >>= fun a => y.evaluate clock row >>= fun b => op.apply a b := by
  rw [evaluate, Operator.isLogical_of_isComparison h]
  rfl

/-- Two values compared in the one order and in the other fail both times or have opposite orders.
So every comparison of two expressions has the value of its converse with the sides exchanged, or
both fail, on every row and whatever the sides evaluate to. -/
theorem comparison_symmetric (clock : Clock) (row : Row) :
    (∀ (a b : Value) (exact : Bool), Value.Reversed (a.compare b exact) (b.compare a exact)) ∧
    ∀ (op : Operator) (x y : Expression), op.isComparison = true →
      SameResult ((operator op x y).evaluate clock row)
        ((operator op.converse y x).evaluate clock row) := by
  refine ⟨Value.reversed_compare, ?_⟩
  intro op x y hop
  have hop' : op.converse.isComparison = true := by rw [Operator.isComparison_converse, hop]
  rw [evaluate_comparison hop, evaluate_comparison hop']
  cases x.evaluate clock row with
  | error e =>
    -- with the sides exchanged the other side may be the one that fails first
    cases y.evaluate clock row with
    | error e' => exact .error e e'
    | ok b => exact .error e e
  | ok a =>
    cases y.evaluate clock row with
    | error e' => exact .error e' e'
    | ok b => exact Operator.apply_converse hop a b

/-- A text is read as a number on either side of one: `' 9' < 10.5` and `10.5 > ' 9'` are true. -/
theorem comparison_symmetric_text_decimal :
    Operator.less.isComparison = true ∧
      SameResult
        ((operator .less (.value (.string " 9")) (.value (.decimal ⟨105, 1⟩))).evaluate
          .millennium ⟨0, []⟩)
        ((operator .greater (.value (.decimal ⟨105, 1⟩)) (.value (.string " 9"))).evaluate
          .millennium ⟨0, []⟩) ∧
      (operator .greater (.value (.decimal ⟨105, 1⟩)) (.value (.string " 9"))).evaluate
        .millennium ⟨0, []⟩ = .ok (.boolean true) := by
  have hless : Operator.less.isComparison = true := rfl
  exact ⟨hless, (comparison_symmetric _ _).2 .less _ _ hless, by decide +kernel⟩

end Expression

end RowFilter
