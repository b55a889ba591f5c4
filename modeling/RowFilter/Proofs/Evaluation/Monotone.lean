import RowFilter.Proofs.Outcome
import RowFilter.Proofs.Selection.Scan

/-!
Evaluation is monotone in what is known of a row. A value lies below another one if it is undefined
or the same; operators keep this order, so that a result which is not undefined stays what it is
when undefined cells are filled in.
-/

namespace RowFilter

/-! ## The order of information -/

/-- Undefined lies below every value, any other value only below itself. -/
def Value.Below (v w : Value) : Prop := v = .undefined ∨ v = w

/-- Every cell of the first row that is not undefined is the same in the second one. -/
def Row.Below (r s : Row) : Prop := ∀ column, (r.cell column).Below (s.cell column)

/-- A truth value that is not known lies below both others. -/
def Truth.Below (p q : Truth) : Prop := p = none ∨ p = q

theorem Value.Below.refl (v : Value) : v.Below v := .inr rfl

theorem Truth.Below.refl (p : Truth) : p.Below p := .inr rfl

theorem Value.Below.eq_of_ne {v w : Value} (h : v.Below w) (hv : v ≠ .undefined) : w = v := by
  rcases h with h | h
  · exact absurd h hv
  · exact h.symm

theorem Truth.Below.toValue {p q : Truth} (h : p.Below q) : p.toValue.Below q.toValue := by
  rcases h with rfl | rfl
  · exact .inl rfl
  · exact .refl _

/-! ## Operators -/

theorem UnaryOperator.apply_below {op : UnaryOperator} {a b v w : Value} (h : a.Below b)
    (hv : op.apply a = .ok v) (hw : op.apply b = .ok w) : v.Below w := by
  rcases h with rfl | rfl
  · have hundefined : op.apply .undefined = .ok .undefined := by cases op <;> rfl
    rw [hundefined] at hv
    exact .inl (Except.ok.inj hv).symm
  · rw [hv] at hw
    exact .inr (Except.ok.inj hw)

namespace Operator

theorem apply_of_isUndefined (op : Operator) {a b : Value}
    (h : a.isUndefined = true ∨ b.isUndefined = true) : op.apply a b = .ok .undefined := by
  rw [apply, if_pos (Bool.or_eq_true_iff.mpr h)]

theorem apply_below {op : Operator} {a a' b b' v w : Value} (ha : a.Below a') (hb : b.Below b')
    (hv : op.apply a b = .ok v) (hw : op.apply a' b' = .ok w) : v.Below w := by
  by_cases hundefined : a.isUndefined = true ∨ b.isUndefined = true
  · rw [op.apply_of_isUndefined hundefined] at hv
    exact .inl (Except.ok.inj hv).symm
  · rw [not_or] at hundefined
    have ha' : a' = a := ha.eq_of_ne (fun h => hundefined.1 (by rw [h]; rfl))
    have hb' : b' = b := hb.eq_of_ne (fun h => hundefined.2 (by rw [h]; rfl))
    rw [ha', hb', hv] at hw
    exact .inr (Except.ok.inj hw)

theorem truth_below {op : Operator} {a b : Value} {p q : Truth} (h : a.Below b)
    (hp : op.truth a = .ok p) (hq : op.truth b = .ok q) : p.Below q := by
  rcases h with rfl | rfl
  · exact .inl (Except.ok.inj hp).symm
  · rw [hp] at hq
    exact .inr (Except.ok.inj hq)

/-- Either side may settle the result whatever is not known of the other one. -/
theorem connect_below (op : Operator) {p p' q q' : Truth} (hp : p.Below p') (hq : q.Below q') :
    (op.connect p q).Below (op.connect p' q') := by
  rcases hp with rfl | rfl
  · rcases hq with rfl | rfl
    · exact .inl (by cases op <;> rfl)
    · rcases q with _ | _ | _
      · exact .inl (by cases op <;> rfl)
      · cases op with
        | and => exact .inr (by rcases p' with _ | _ | _ <;> rfl)
        | _ => exact .inl rfl
      · cases op with
        | or => exact .inr (by rcases p' with _ | _ | _ <;> rfl)
        | _ => exact .inl rfl
  · rcases hq with rfl | rfl
    · rcases p with _ | _ | _
      · exact .inl (by cases op <;> rfl)
      · cases op with
        | and => exact .inr (by rcases q' with _ | _ | _ <;> rfl)
        | _ => exact .inl rfl
      · cases op with
        | or => exact .inr (by rcases q' with _ | _ | _ <;> rfl)
        | _ => exact .inl rfl
    · exact .refl _

/-- What settles the result alone does so whatever stands on the right. -/
theorem connect_of_isSettledBy {op : Operator} {p : Truth} (h : op.isSettledBy p = true)
    (q : Truth) : op.connect p q = p := by
  cases op with
  | and =>
    have hp : p = some false := eq_of_beq h
    rw [hp]
    rfl
  | or =>
    have hp : p = some true := eq_of_beq h
    rw [hp]
    rfl
  | _ => cases h

end Operator

namespace Expression

/-! ## Evaluation -/

/-- A logical operator has the value of connecting the truth of its left side with some truth,
which is that of its right side unless the left side settles the result. -/
theorem evaluate_logical_eq_ok {clock : Clock} {r : Row} {op : Operator} {left right : Expression}
    {v : Value} (hop : op.isLogical = true)
    (h : (operator op left right).evaluate clock r = .ok v) :
    ∃ a p, left.evaluate clock r = .ok a ∧ op.truth a = .ok p ∧
      ((op.isSettledBy p = true ∧ v = p.toValue) ∨
        ∃ b q, right.evaluate clock r = .ok b ∧ op.truth b = .ok q ∧
          v = (op.connect p q).toValue) := by
  rw [evaluate, if_pos hop] at h
  obtain ⟨a, ha, h⟩ := bind_eq_ok_iff.mp h
  obtain ⟨p, hp, h⟩ := bind_eq_ok_iff.mp h
  refine ⟨a, p, ha, hp, ?_⟩
  split at h
  · next hsettled => exact .inl ⟨hsettled, (Except.ok.inj h).symm⟩
  · obtain ⟨b, hb, h⟩ := bind_eq_ok_iff.mp h
    obtain ⟨q, hq, h⟩ := bind_eq_ok_iff.mp h
    exact .inr ⟨b, q, hb, hq, (Except.ok.inj h).symm⟩

/-- Any other operator has the value of its two sides. -/
theorem evaluate_operator_eq_ok {clock : Clock} {r : Row} {op : Operator}
    {left right : Expression} {v : Value} (hop : ¬ op.isLogical = true)
    (h : (operator op left right).evaluate clock r = .ok v) :
    ∃ a b, left.evaluate clock r = .ok a ∧ right.evaluate clock r = .ok b ∧
      op.apply a b = .ok v := by
  rw [evaluate, if_neg hop] at h
  obtain ⟨a, ha, h⟩ := bind_eq_ok_iff.mp h
  obtain ⟨b, hb, h⟩ := bind_eq_ok_iff.mp h
  exact ⟨a, b, ha, hb, h⟩

/-- Built from values, columns and operators only. -/
inductive Elementary : Expression → Prop where
  | value (v : Value) : Elementary (.value v)
  | column (c : ColumnRef) : Elementary (.column c)
  | unary (op : UnaryOperator) {operand : Expression} (h : Elementary operand) :
      Elementary (.unary op operand)
  | operator (op : Operator) {left right : Expression} (hl : Elementary left)
      (hr : Elementary right) : Elementary (.operator op left right)

theorem Elementary.evaluate_below {e : Expression} (he : e.Elementary) {clock : Clock}
    {r s : Row} (h : r.Below s) {v w : Value} (hv : e.evaluate clock r = .ok v)
    (hw : e.evaluate clock s = .ok w) : v.Below w := by
  induction he generalizing v w with
  | value u =>
    have hvw : v = w := (Except.ok.inj hv).symm.trans (Except.ok.inj hw)
    exact .inr hvw
  | column c =>
    have hcell := h c.index
    rw [Except.ok.inj hv, Except.ok.inj hw] at hcell
    exact hcell
  | unary op _ ih =>
    obtain ⟨a, ha, hv⟩ := bind_eq_ok_iff.mp hv
    obtain ⟨b, hb, hw⟩ := bind_eq_ok_iff.mp hw
    exact UnaryOperator.apply_below (ih ha hb) hv hw
  | @operator op left right _ _ ihl ihr =>
    by_cases hop : op.isLogical = true
    · obtain ⟨a, p, ha, hp, hv⟩ := evaluate_logical_eq_ok hop hv
      obtain ⟨a', p', ha', hp', hw⟩ := evaluate_logical_eq_ok hop hw
      have hleft : p.Below p' := Operator.truth_below (ihl ha ha') hp hp'
      -- a run that stops at the left side connects it with whatever the other run found
      rcases hv with ⟨hsettled, rfl⟩ | ⟨b, q, hb, hq, rfl⟩
      · rcases hw with ⟨-, rfl⟩ | ⟨b', q', -, -, rfl⟩
        · exact hleft.toValue
        · rw [← Operator.connect_of_isSettledBy hsettled q']
          exact (op.connect_below hleft (.refl q')).toValue
      · rcases hw with ⟨hsettled, rfl⟩ | ⟨b', q', hb', hq', rfl⟩
        · rw [← Operator.connect_of_isSettledBy hsettled q]
          exact (op.connect_below hleft (.refl q)).toValue
        · have hright : q.Below q' := Operator.truth_below (ihr hb hb') hq hq'
          exact (op.connect_below hleft hright).toValue
    · obtain ⟨a, b, ha, hb, hv⟩ := evaluate_operator_eq_ok hop hv
      obtain ⟨a', b', ha', hb', hw⟩ := evaluate_operator_eq_ok hop hw
      exact Operator.apply_below (ihl ha ha') (ihr hb hb') hv hw

end Expression

/-! ## Filling in cells -/

/-- Where a cell was undefined, another value may be put: all rows lie below what becomes of them. -/
theorem Table.below_of_setCell {t t' : Table} {row k j : Nat} {column : String} {c : Column}
    {x : Value} {r s : Row} (hset : t.setCell row column x = .ok t')
    (hcolumn : t.column? column = some (k, c))
    (hnull : ∀ cells, t.rows[row]? = some cells → Row.cell ⟨row, cells⟩ k = .undefined)
    (hr : t.row? j = some r) (hs : t'.row? j = some s) : r.Below s := by
  rw [setCell, hcolumn] at hset
  obtain ⟨-, -, hset⟩ := bind_eq_ok_iff.mp hset
  split at hset
  · cases hset
  · next cells hcells =>
    cases hset
    obtain ⟨old, hold, rfl⟩ := Option.map_eq_some_iff.mp hr
    obtain ⟨new, hnew, rfl⟩ := Option.map_eq_some_iff.mp hs
    intro i
    by_cases hj : row = j
    · subst hj
      obtain rfl : cells = old := Option.some.inj (hcells.symm.trans hold)
      have hlength : row < t.rows.length := (List.getElem?_eq_some_iff.mp hcells).1
      rw [List.getElem?_set_self hlength] at hnew
      obtain rfl := Option.some.inj hnew
      by_cases hi : k = i
      · rw [← hi]
        exact .inl (hnull cells hcells)
      · refine .inr ?_
        rw [Row.cell, Row.cell, List.getD_eq_getElem?_getD, List.getD_eq_getElem?_getD,
          List.getElem?_set_ne hi]
    · rw [List.getElem?_set_ne hj, hold] at hnew
      obtain rfl := Option.some.inj hnew
      exact .refl _

namespace Expression

/-- A result that is not undefined does not depend on what is not known: on a row that agrees with
all that the first one says, evaluation fails or has the same value. In particular no result of that
kind changes to another value when an undefined cell of a table is set. -/
theorem evaluate_eq_of_below {e : Expression} (he : e.Elementary) (clock : Clock) :
    (∀ (r s : Row) (v w : Value),
      (∀ column, r.cell column ≠ .undefined → s.cell column = r.cell column) →
        e.evaluate clock r = .ok v → v ≠ .undefined → e.evaluate clock s = .ok w → w = v) ∧
      ∀ (t t' : Table) (row k j : Nat) (column : String) (c : Column) (x : Value) (r s : Row)
        (v w : Value), t.setCell row column x = .ok t' → t.column? column = some (k, c) →
        (∀ cells, t.rows[row]? = some cells → Row.cell ⟨row, cells⟩ k = .undefined) →
        t.row? j = some r → t'.row? j = some s →
        e.evaluate clock r = .ok v → v ≠ .undefined → e.evaluate clock s = .ok w → w = v := by
  constructor
  · intro r s v w hagree hr hv hs
    have hbelow : r.Below s := by
      intro column
      by_cases hcell : r.cell column = .undefined
      · exact .inl hcell
      · exact .inr (hagree column hcell).symm
    exact (he.evaluate_below hbelow hr hs).eq_of_ne hv
  · intro t t' row k j column c x r s v w hset hcolumn hnull hr' hs' hr hv hs
    have hbelow : r.Below s := Table.below_of_setCell hset hcolumn hnull hr' hs'
    exact (he.evaluate_below hbelow hr hs).eq_of_ne hv

/-- Two switches; nothing is known of the first one, and the second one is off. -/
def switches : Table :=
  ⟨"Switches", [⟨"A", .boolean⟩, ⟨"B", .boolean⟩], [[.undefined, .boolean false]]⟩

/-- The expression `A AND B` over the switches. -/
def bothOn : Expression := .operator .and (.column ⟨"A", 0⟩) (.column ⟨"B", 1⟩)

/-- With the second switch off, nothing that the first one turns out to be makes `A AND B` true. -/
theorem evaluate_and_of_below :
    bothOn.Elementary ∧ bothOn.evaluate .millennium ⟨0, [.undefined, .boolean false]⟩ =
        .ok (.boolean false) ∧
      bothOn.evaluate .millennium ⟨0, [.boolean true, .boolean false]⟩ ≠ .ok (.boolean true) ∧
      (switches.setCell 0 "a" (.boolean true)).isOk = true ∧
      ∀ x t s, switches.setCell 0 "a" x = .ok t → t.row? 0 = some s →
        bothOn.evaluate .millennium s ≠ .ok (.boolean true) := by
  have helementary : bothOn.Elementary := .operator .and (.column _) (.column _)
  have hvalue : bothOn.evaluate .millennium ⟨0, [.undefined, .boolean false]⟩ =
      .ok (.boolean false) := rfl
  have hagree : ∀ column, Row.cell ⟨0, [.undefined, .boolean false]⟩ column ≠ .undefined →
      Row.cell ⟨0, [.boolean true, .boolean false]⟩ column =
        Row.cell ⟨0, [.undefined, .boolean false]⟩ column := by
    rintro (_ | column) h
    · exact absurd rfl h
    · rfl
  have hcolumn : switches.column? "a" = some (0, ⟨"A", .boolean⟩) := by decide +kernel
  have hnull : ∀ cells, switches.rows[0]? = some cells → Row.cell ⟨0, cells⟩ 0 = .undefined := by
    rintro cells ⟨⟩
    rfl
  refine ⟨helementary, hvalue, fun htrue => ?_, by decide +kernel, fun x t s hset hs htrue => ?_⟩
  · cases (evaluate_eq_of_below helementary .millennium).1 _ _ _ _ hagree hvalue nofun htrue
  · cases (evaluate_eq_of_below helementary .millennium).2 switches t 0 0 0 "a" _ x _ s _ _ hset
      hcolumn hnull rfl hs hvalue nofun htrue

end Expression

end RowFilter
