import RowFilter.Proofs.Outcome
import RowFilter.Selection.Select

/-!
The rows that a scan collects: those on which the tree is true, in the order in which they are
gone through, and no more of them than are wanted. What the tree is on the other rows makes no
difference to them; the rows on which it fails are reported.
-/

namespace RowFilter

/-- Rows are listed in storage order, each of them once. -/
theorem Table.pairwise_rowList (t : Table) :
    t.rowList.Pairwise fun a b => a.index < b.index := by
  rw [rowList, List.pairwise_map]
  refine List.pairwise_iff_getElem.mpr fun i j hi hj hij => ?_
  rw [List.getElem_zipIdx, List.getElem_zipIdx]
  exact Nat.add_lt_add_left hij 0

/-- A clock that stands still. -/
def Clock.millennium : Clock :=
  ⟨.midnight ⟨2000, 1, 1, by decide⟩, .midnight ⟨2000, 1, 1, by decide⟩⟩

namespace ExpressionTree

/-- The tree is true on a row. -/
def selects (t : ExpressionTree) (clock : Clock) (row : Row) : Bool :=
  decide (t.evaluate clock row = .ok (.boolean true))

/-- What is reported of a row: that it is left out, if the tree cannot be evaluated on it. -/
def exclusion? (t : ExpressionTree) (clock : Clock) (table : String) (row : Row) :
    Option LogEvent :=
  match t.evaluate clock row with
  | .ok _ => none
  | .error e => some (.rowExcluded table row.index e)

/-- A row on which the tree is true is collected, and one row less is wanted. -/
theorem scan_cons_of_selects {t : ExpressionTree} {clock : Clock} {row : Row}
    (h : t.selects clock row = true) (table : String) {wanted : Option Nat}
    (hw : wanted ≠ some 0) (rest : List Row) :
    t.scan clock table wanted (row :: rest) =
      (row :: (t.scan clock table (wanted.map (· - 1)) rest).1,
        (t.scan clock table (wanted.map (· - 1)) rest).2) := by
  have htrue : t.evaluate clock row = .ok (.boolean true) := decide_eq_true_iff.mp h
  rw [scan.eq_def]
  split
  · exact absurd rfl hw
  · next heq => cases heq
  · next heq =>
    obtain ⟨rfl, rfl⟩ := List.cons_eq_cons.mp heq
    rw [htrue]

/-- Any other row is passed over, with a report if the tree fails on it. -/
theorem scan_cons_of_not_selects {t : ExpressionTree} {clock : Clock} {row : Row}
    (h : t.selects clock row = false) (table : String) {wanted : Option Nat}
    (hw : wanted ≠ some 0) (rest : List Row) :
    t.scan clock table wanted (row :: rest) =
      ((t.scan clock table wanted rest).1,
        (t.exclusion? clock table row).toList ++ (t.scan clock table wanted rest).2) := by
  have hfalse : t.evaluate clock row ≠ .ok (.boolean true) := decide_eq_false_iff_not.mp h
  rw [scan.eq_def, exclusion?]
  split
  · exact absurd rfl hw
  · next heq => cases heq
  · next heq =>
    obtain ⟨rfl, rfl⟩ := List.cons_eq_cons.mp heq
    -- The tree is another value on the row, or it fails there; neither ends the scan.
    split
    · next htrue => exact absurd htrue hfalse
    · next hvalue =>
      rw [hvalue]
      rfl
    · next herror =>
      rw [herror]
      rfl

theorem upTo_cons {wanted : Option Nat} (hw : wanted ≠ some 0) (row : Row) (rows : List Row) :
    upTo wanted (row :: rows) = row :: upTo (wanted.map (· - 1)) rows := by
  rcases wanted with _ | _ | n
  · rfl
  · exact absurd rfl hw
  · rfl

/-- A scan collects the first rows on which the tree is true, up to the number wanted. -/
theorem scan_fst (t : ExpressionTree) (clock : Clock) (table : String) (wanted : Option Nat)
    (rows : List Row) :
    (t.scan clock table wanted rows).1 = upTo wanted (rows.filter (t.selects clock)) := by
  induction rows generalizing wanted with
  | nil => rcases wanted with _ | _ | n <;> rfl
  | cons row rows ih =>
    by_cases hw : wanted = some 0
    · rw [hw]
      rfl
    · cases hrow : t.selects clock row with
      | true =>
        rw [scan_cons_of_selects hrow table hw, List.filter_cons_of_pos hrow, upTo_cons hw, ih]
      | false =>
        rw [scan_cons_of_not_selects hrow table hw,
          List.filter_cons_of_neg (Bool.eq_false_iff.mp hrow), ih]

end ExpressionTree

end RowFilter
