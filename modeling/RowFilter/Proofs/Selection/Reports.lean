import RowFilter.Proofs.Selection.Scan
import RowFilter.Proofs.Selection.Specification

/-!
What a selection goes through and reports. Without an order it may end with the row that makes the
number of wanted rows complete, and if no row is wanted it does not begin. Every row that it goes
through is evaluated once, and it reports those on which the tree fails; the others make no
difference to it.
-/

namespace RowFilter

namespace ExpressionTree

variable {t : ExpressionTree} {clock : Clock}

theorem countP_concat_of_selects {row : Row} (h : t.selects clock row = true) (front : List Row) :
    (front ++ [row]).countP (t.selects clock) = front.countP (t.selects clock) + 1 := by
  rw [List.countP_append, List.countP_cons_of_pos h, List.countP_nil]

variable (t clock)

/-! ## Scans -/

/-- The rows that a scan of `rows` goes through: none if none is wanted, all of them if too few
match, and else those up to the one that completes the number wanted. -/
inductive GoesThrough (rows : List Row) (wanted : Option ℕ) : List Row → Prop where
  | nothing (h : wanted = some 0) : GoesThrough rows wanted []
  | everything (h : ∀ n, wanted = some n → rows.countP (t.selects clock) < n) :
      GoesThrough rows wanted rows
  | upToLast (before : List Row) {behind : List Row} {row : Row}
      (hrows : rows = before ++ row :: behind) (hrow : t.selects clock row = true)
      (hcount : wanted = some ((before ++ [row]).countP (t.selects clock))) :
      GoesThrough rows wanted (before ++ [row])

variable {t clock}

/-- After a row that matches, the scan goes on for one row less. -/
theorem GoesThrough.cons_of_selects {row : Row} {rest scanned : List Row} {wanted : Option ℕ}
    (hrow : t.selects clock row = true) (hw : wanted ≠ some 0)
    (h : t.GoesThrough clock rest (wanted.map (· - 1)) scanned) :
    t.GoesThrough clock (row :: rest) wanted (row :: scanned) := by
  -- a number wanted is one more than that wanted of the rest
  have hmore {n : ℕ} (hn : wanted.map (· - 1) = some n) : wanted = some (n + 1) := by
    obtain ⟨m, rfl, rfl⟩ := Option.map_eq_some_iff.mp hn
    have hpos : 0 < m := Nat.pos_of_ne_zero fun hzero => hw (congrArg some hzero)
    rw [Nat.sub_add_cancel hpos]
  cases h with
  | nothing hnone =>
    refine .upToLast [] rfl hrow ?_
    rw [hmore hnone, countP_concat_of_selects hrow, List.countP_nil]
  | everything hfew =>
    refine .everything fun n hn => ?_
    have hlt := hfew (n - 1) (by rw [hn, Option.map_some])
    rw [List.countP_cons_of_pos hrow]
    omega
  | @upToLast before behind last hrows hlast hcount =>
    refine .upToLast (row :: before) (congrArg (row :: ·) hrows) hlast ?_
    rw [hmore hcount, List.cons_append, List.countP_cons_of_pos hrow]

/-- After any other row it goes on as before. -/
theorem GoesThrough.cons_of_not_selects {row : Row} {rest scanned : List Row}
    {wanted : Option ℕ} (hrow : t.selects clock row = false) (hw : wanted ≠ some 0)
    (h : t.GoesThrough clock rest wanted scanned) :
    t.GoesThrough clock (row :: rest) wanted (row :: scanned) := by
  have hneg : ¬ t.selects clock row = true := Bool.eq_false_iff.mp hrow
  cases h with
  | nothing hnone => exact absurd hnone hw
  | everything hfew =>
    refine .everything fun n hn => ?_
    rw [List.countP_cons_of_neg hneg]
    exact hfew n hn
  | @upToLast before behind last hrows hlast hcount =>
    refine .upToLast (row :: before) (congrArg (row :: ·) hrows) hlast ?_
    rw [hcount, List.cons_append, List.countP_cons_of_neg hneg]

theorem exclusion?_of_selects {row : Row} (h : t.selects clock row = true) (table : String) :
    t.exclusion? clock table row = none := by
  rw [exclusion?, show t.evaluate clock row = .ok (.boolean true) from decide_eq_true_iff.mp h]

theorem selects_congr {t' : ExpressionTree} {row : Row}
    (h : t'.evaluate clock row = t.evaluate clock row) :
    t'.selects clock row = t.selects clock row := by
  rw [selects, selects, h]

theorem exclusion?_congr {t' : ExpressionTree} {row : Row}
    (h : t'.evaluate clock row = t.evaluate clock row) (table : String) :
    t'.exclusion? clock table row = t.exclusion? clock table row := by
  rw [exclusion?, exclusion?, h]

theorem scan_zero (table : String) (rows : List Row) :
    t.scan clock table (some 0) rows = ([], []) := by
  cases rows <;> rfl

/-- A scan reports the rows that it goes through and on which the tree fails, in their order. A tree
with the same values on the rows gone through gives the same scan. -/
theorem exists_goesThrough (t : ExpressionTree) (clock : Clock) (table : String)
    (wanted : Option ℕ) (rows : List Row) :
    ∃ scanned, t.GoesThrough clock rows wanted scanned ∧
      (t.scan clock table wanted rows).2 = scanned.filterMap (t.exclusion? clock table) ∧
      ∀ t' : ExpressionTree, (∀ row ∈ scanned, t'.evaluate clock row = t.evaluate clock row) →
        t'.scan clock table wanted rows = t.scan clock table wanted rows := by
  induction rows generalizing wanted with
  | nil =>
    rcases wanted with _ | _ | n
    · exact ⟨[], .everything nofun, rfl, fun _ _ => rfl⟩
    · exact ⟨[], .nothing rfl, rfl, fun _ _ => rfl⟩
    · refine ⟨[], .everything fun m hm => ?_, rfl, fun _ _ => rfl⟩
      obtain rfl := Option.some.inj hm
      exact Nat.succ_pos n
  | cons row rest ih =>
    by_cases hw : wanted = some 0
    · subst hw
      refine ⟨[], .nothing rfl, ?_, fun t' _ => ?_⟩
      · rw [scan_zero]
        rfl
      · rw [scan_zero, scan_zero]
    · cases hrow : t.selects clock row with
      | true =>
        obtain ⟨scanned, hthrough, hlog, hsame⟩ := ih (wanted.map (· - 1))
        refine ⟨row :: scanned, hthrough.cons_of_selects hrow hw, ?_, fun t' ht' => ?_⟩
        · rw [scan_cons_of_selects hrow table hw, hlog,
            List.filterMap_cons_none (exclusion?_of_selects hrow table)]
        · obtain ⟨hhead, htail⟩ := List.forall_mem_cons.mp ht'
          have hrow' : t'.selects clock row = true := (selects_congr hhead).trans hrow
          rw [scan_cons_of_selects hrow table hw, scan_cons_of_selects hrow' table hw,
            hsame t' htail]
      | false =>
        obtain ⟨scanned, hthrough, hlog, hsame⟩ := ih wanted
        refine ⟨row :: scanned, hthrough.cons_of_not_selects hrow hw, ?_, fun t' ht' => ?_⟩
        · rw [scan_cons_of_not_selects hrow table hw, hlog, List.filterMap_cons]
          cases t.exclusion? clock table row <;> rfl
        · obtain ⟨hhead, htail⟩ := List.forall_mem_cons.mp ht'
          have hrow' : t'.selects clock row = false := (selects_congr hhead).trans hrow
          rw [scan_cons_of_not_selects hrow table hw, scan_cons_of_not_selects hrow' table hw,
            hsame t' htail, exclusion?_congr hhead]

/-! ## Selections -/

variable (t clock)

/-- The rows of a table that a selection from it goes through. -/
inductive Scans (table : Table) : List Row → Prop where
  /-- No row is wanted. -/
  | nothing (h : t.topLimit = 0) : Scans table []
  /-- All matching rows are needed, or all of them are wanted. -/
  | everything (hwanted : t.topLimit ≠ 0)
      (h : t.orderBy ≠ [] ∨ t.topLimit < 0 ∨
        (table.rowList.countP (t.selects clock) : ℤ) < t.topLimit) : Scans table table.rowList
  /-- The rows up to the one that completes the number wanted. -/
  | upToLast {before behind : List Row} {row : Row} (horder : t.orderBy = [])
      (hrows : table.rowList = before ++ row :: behind) (hrow : t.selects clock row = true)
      (hcount : ((before ++ [row]).countP (t.selects clock) : ℤ) = t.topLimit) :
      Scans table (before ++ [row])

variable {t clock} {table : Table}

theorem isPrefix_of_eq {rows before behind : List Row} {row : Row}
    (h : rows = before ++ row :: behind) : before ++ [row] <+: rows :=
  ⟨behind, by rw [h, List.append_assoc, List.singleton_append]⟩

/-- Of two beginnings of a table that end with a matching row, the longer one has more matches. -/
theorem length_le_of_countP_le {rows before behind before' behind' : List Row} {row row' : Row}
    (hrows : rows = before ++ row :: behind) (hrow : t.selects clock row = true)
    (hrows' : rows = before' ++ row' :: behind')
    (hcount : (before ++ [row]).countP (t.selects clock) ≤
      (before' ++ [row']).countP (t.selects clock)) :
    (before ++ [row]).length ≤ (before' ++ [row']).length := by
  have hbefore : before <+: rows := ⟨row :: behind, hrows.symm⟩
  by_contra hlt
  -- otherwise the other beginning ends before the last row of this one, which is a match more
  have hshort : (before' ++ [row']).length ≤ before.length := by
    simp only [List.length_append, List.length_singleton] at hlt ⊢
    omega
  have hprefix := List.prefix_of_prefix_length_le (isPrefix_of_eq hrows') hbefore hshort
  have hle := hprefix.sublist.countP_le (p := t.selects clock)
  rw [countP_concat_of_selects hrow] at hcount
  omega

theorem Scans.unique {scanned scanned' : List Row} (h : t.Scans clock table scanned)
    (h' : t.Scans clock table scanned') : scanned = scanned' := by
  have hnone {rows : List Row} {row : Row} (hrow : t.selects clock row = true)
      (hcount : ((rows ++ [row]).countP (t.selects clock) : ℤ) = t.topLimit) : 0 < t.topLimit := by
    rw [countP_concat_of_selects hrow] at hcount
    omega
  -- a table with too few matches for the limit has no beginning with enough of them
  have hfew {before behind : List Row} {row : Row} (horder : t.orderBy = [])
      (hrows : table.rowList = before ++ row :: behind) (hrow : t.selects clock row = true)
      (hcount : ((before ++ [row]).countP (t.selects clock) : ℤ) = t.topLimit)
      (h : t.orderBy ≠ [] ∨ t.topLimit < 0 ∨
        (table.rowList.countP (t.selects clock) : ℤ) < t.topLimit) : False := by
    have hpos := hnone hrow hcount
    have hle := (isPrefix_of_eq hrows).sublist.countP_le (p := t.selects clock)
    rcases h with h | h | h
    · exact h horder
    · omega
    · omega
  cases h with
  | nothing h =>
    cases h' with
    | nothing => rfl
    | everything hwanted => exact absurd h hwanted
    | upToLast _ _ hrow hcount => exact absurd h (hnone hrow hcount).ne'
  | everything hwanted h =>
    cases h' with
    | nothing h' => exact absurd h' hwanted
    | everything => rfl
    | upToLast horder hrows hrow hcount => exact (hfew horder hrows hrow hcount h).elim
  | @upToLast before behind row horder hrows hrow hcount =>
    cases h' with
    | nothing h' => exact absurd h' (hnone hrow hcount).ne'
    | everything hwanted h' => exact (hfew horder hrows hrow hcount h').elim
    | @upToLast before' behind' row' horder' hrows' hrow' hcount' =>
      have hle := length_le_of_countP_le hrows hrow hrows' (by omega)
      have hle' := length_le_of_countP_le hrows' hrow' hrows (by omega)
      have hprefix :=
        List.prefix_of_prefix_length_le (isPrefix_of_eq hrows) (isPrefix_of_eq hrows') hle
      exact hprefix.eq_of_length (by omega)

theorem limit?_eq_some_iff {n : ℕ} : t.limit? = some n ↔ t.topLimit = n := by
  rw [limit?]
  split
  · simp only [reduceCtorEq, false_iff]
    omega
  · rw [Option.some.injEq]
    omega

/-- What is gone through up to the limit, where no order is asked for. -/
theorem GoesThrough.scans {scanned : List Row} (horder : t.orderBy = [])
    (hwanted : t.topLimit ≠ 0) (h : t.GoesThrough clock table.rowList t.limit? scanned) :
    t.Scans clock table scanned := by
  cases h with
  | nothing hnone => exact .nothing (limit?_eq_some_iff.mp hnone)
  | everything hfew =>
    refine .everything hwanted (.inr ?_)
    by_cases hnegative : t.topLimit < 0
    · exact .inl hnegative
    · have hlimit := limit?_eq_some_iff.mpr (Int.toNat_of_nonneg (not_lt.mp hnegative)).symm
      have hlt := hfew _ hlimit
      omega
  | upToLast before hrows hrow hcount =>
    exact .upToLast horder hrows hrow (limit?_eq_some_iff.mp hcount).symm

variable (t clock table)

theorem exists_scans :
    ∃ scanned, t.Scans clock table scanned ∧
      (t.rowsOf clock table).2 = scanned.filterMap (t.exclusion? clock table.name) ∧
      ∀ root : Option Expression,
        (∀ row ∈ scanned, { t with root }.evaluate clock row = t.evaluate clock row) →
          { t with root }.rowsOf clock table = t.rowsOf clock table := by
  by_cases hwanted : t.topLimit = 0
  · have hlimit := limit?_eq_some_iff.mpr hwanted
    refine ⟨[], .nothing hwanted, ?_, fun root _ => ?_⟩
    · rw [rowsOf, if_pos hlimit]
      rfl
    · rw [rowsOf, rowsOf, if_pos hlimit, if_pos]
      exact hlimit
  · have hlimit : ¬ t.limit? = some 0 := fun h => hwanted (limit?_eq_some_iff.mp h)
    by_cases horder : t.orderBy = []
    · obtain ⟨scanned, hthrough, hlog, hsame⟩ :=
        exists_goesThrough t clock table.name t.limit? table.rowList
      have hempty : t.orderBy.isEmpty = true := List.isEmpty_iff.mpr horder
      refine ⟨scanned, hthrough.scans horder hwanted, ?_, fun root hroot => ?_⟩
      · rw [rowsOf, if_neg hlimit, if_pos hempty, hlog]
      · rw [rowsOf, rowsOf, if_neg hlimit, if_pos hempty, if_neg, if_pos]
        · exact hsame { t with root } hroot
        · exact hempty
        · exact hlimit
    · -- the scan is a whole one, and the limit is applied to the sorted rows
      obtain ⟨scanned, hthrough, hlog, hsame⟩ :=
        exists_goesThrough t clock table.name none table.rowList
      have hempty : ¬ t.orderBy.isEmpty = true := fun h => horder (List.isEmpty_iff.mp h)
      cases hthrough with
      | nothing hnone => cases hnone
      | upToLast _ _ _ hcount => cases hcount
      | everything =>
        refine ⟨table.rowList, .everything hwanted (.inl horder), ?_, fun root hroot => ?_⟩
        · rw [rowsOf, if_neg hlimit, if_neg hempty, ← hlog]
        · have hscan := hsame { t with root } hroot
          rw [rowsOf, rowsOf, if_neg hlimit, if_neg hempty, if_neg, if_neg, hscan]
          · rfl
          · exact hempty
          · exact hlimit

/-- A selection goes through definite rows of its table and reports those of them on which the tree
fails, each once and in storage order, by the name of the table, the index of the row and the error.
The tree might be any other on the rows that are not gone through. From a table that the tree is not
bound to nothing is selected and no row is looked at. -/
theorem select_reports_scanned :
    (Text.sameName table.name t.table = true →
      ∃ scanned, (∀ rows, t.Scans clock table rows ↔ rows = scanned) ∧
        (t.select clock table).2 = scanned.filterMap (t.exclusion? clock table.name) ∧
        ∀ root : Option Expression,
          (∀ row ∈ scanned, { t with root }.evaluate clock row = t.evaluate clock row) →
            { t with root }.select clock table = t.select clock table) ∧
    (Text.sameName table.name t.table = false →
      t.select clock table = (.error (.use (.boundElsewhere t.table table.name)), [])) := by
  constructor
  · intro hname
    obtain ⟨scanned, hscans, hlog, hsame⟩ := t.exists_scans clock table
    refine ⟨scanned, fun rows => ⟨fun h => h.unique hscans, ?_⟩, ?_, fun root hroot => ?_⟩
    · rintro rfl
      exact hscans
    · rw [select, if_pos hname]
      exact hlog
    · rw [select, select, if_pos hname, if_pos, hsame root hroot]
      exact hname
  · intro hname
    rw [select, if_neg (Bool.eq_false_iff.mp hname)]

/-- Four switches, the first and the last of which are neither on nor off. -/
def switches : Table :=
  ⟨"Switches", [⟨"On", .boolean⟩],
    [[.string "?"], [.boolean true], [.boolean false], [.string "?"]]⟩

/-- The search for one switch that is off ends with it and does not come to the last one. -/
example :
    (ExpressionTree.select ⟨"switches", 1, [], some (.unary .not (.column ⟨"On", 0⟩))⟩ .millennium
      switches).2 =
        [.rowExcluded "Switches" 0
          (.evaluation UnaryOperator.not.name (.notApplicable .string))] := by
  decide +kernel

end ExpressionTree

end RowFilter
