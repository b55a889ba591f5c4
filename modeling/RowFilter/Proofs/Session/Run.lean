import RowFilter.Proofs.Binding.Compiled
import RowFilter.Session.Basic

/-!
How a run goes. What an expression is prepared to, its bound statements over tables that all have a
column of signal IDs, depends on the expression, the data set and the options alone, and so does
what is found then. A run that begins either reports why nothing could be prepared, or tracks what
was found; it fails in no other way.
-/

namespace RowFilter

/-! ## What is found -/

namespace Options

/-- The signal ID of a row of a table. -/
def signalIdOf (o : Options) (t : Table) (row : Row) : Option Guid :=
  (t.cellByName? row (o.idFieldsOf t.name).signalId).bind Value.signalId?

/-- The match that a row of a table is. -/
def matchOf (o : Options) (t : Table) (row : Row) : Match :=
  ⟨o.signalIdOf t row, some ⟨t.name, row⟩⟩

end Options

/-- The matches of a tree: the rows that it selects from its table, in the order of selection. -/
def ExpressionTree.matchesIn (tree : ExpressionTree) (clock : Clock) (d : DataSet) (o : Options) :
    List Match :=
  match d.table? tree.table with
  | none => []
  | some t =>
    match (tree.select clock t).1 with
    | .ok rows => rows.map (o.matchOf t)
    | .error _ => []

/-- All matches: those that identifier statements name, then those of the trees one by one. -/
def Bound.matchesIn (b : Bound) (clock : Clock) (d : DataSet) (o : Options) : List Match :=
  b.named ++ b.trees.flatMap fun tree => tree.matchesIn clock d o

/-- The bound statements of an expression, provided that the table of every tree has a column of
signal IDs. -/
def prepare (d : DataSet) (o : Options) (expression : String) : Except Error Bound := do
  let bound ← (bindText expression (.dataSet d) o).1
  let _ ← Session.sources o d bound.trees
  return bound

/-! ## Options that find alike -/

section

variable {o o' : Options} (h : o.BindsLike o') (d : DataSet)

include h

theorem Options.BindsLike.source (tree : ExpressionTree) :
    Session.source o d tree = Session.source o' d tree := by
  simp only [Session.source, h.idFieldsOf]

theorem Options.BindsLike.sources (trees : List ExpressionTree) :
    Session.sources o d trees = Session.sources o' d trees := by
  induction trees with
  | nil => rfl
  | cons tree rest ih => rw [Session.sources, Session.sources, h.source d tree, ih]

theorem Options.BindsLike.prepare (expression : String) :
    prepare d o expression = prepare d o' expression := by
  simp only [RowFilter.prepare, h.bindText, h.sources]

theorem Options.BindsLike.matchesIn (b : Bound) (clock : Clock) :
    b.matchesIn clock d o = b.matchesIn clock d o' := by
  have hmatch : o.matchOf = o'.matchOf := by
    funext t row
    simp only [matchOf, signalIdOf, h.idFieldsOf]
  simp only [Bound.matchesIn, ExpressionTree.matchesIn, hmatch]

end

/-! ## Trees and their sources -/

namespace ExpressionTree

theorem noDuplicates_scan (t : ExpressionTree) (clock : Clock) (table : String)
    (wanted : Option Nat) (rows : List Row) :
    Log.NoDuplicates (t.scan clock table wanted rows).2 := by
  induction rows generalizing wanted with
  | nil =>
    have hnil : (t.scan clock table wanted []).2 = [] := by
      rcases wanted with _ | _ | n <;> rfl
    rw [hnil]
    exact Log.noDuplicates_nil
  | cons row rows ih =>
    rw [scan.eq_def]
    split
    · exact Log.noDuplicates_nil
    · exact Log.noDuplicates_nil
    · next heq =>
      cases heq
      split
      · exact ih _
      · exact ih _
      -- the row is reported in front of those after it
      · exact (Log.noDuplicates_singleton rfl).append (ih _)

theorem noDuplicates_select (t : ExpressionTree) (clock : Clock) (table : Table) :
    Log.NoDuplicates (t.select clock table).2 := by
  have hrows : Log.NoDuplicates (t.rowsOf clock table).2 := by
    unfold rowsOf
    split
    · exact Log.noDuplicates_nil
    · split
      · exact t.noDuplicates_scan clock table.name _ _
      · exact t.noDuplicates_scan clock table.name _ _
  unfold select
  split
  · exact hrows
  · exact Log.noDuplicates_nil

/-- A tree of the data set selects rows from its table, and they are its matches: the table goes by
the name in the tree, so it is not refused. -/
theorem InDataSet.matchesIn {tree : ExpressionTree} {d : DataSet} (h : tree.InDataSet d)
    (clock : Clock) (o : Options) :
    ∃ t rows, d.table? tree.table = some t ∧ (tree.select clock t).1 = .ok rows ∧
      tree.matchesIn clock d o = rows.map (o.matchOf t) := by
  obtain ⟨t, htable, hname⟩ := h
  have hselect : (tree.select clock t).1 = .ok (tree.rowsOf clock t).1 := by
    rw [ExpressionTree.select, hname, if_pos (Text.sameName_refl _)]
  refine ⟨t, _, htable, hselect, ?_⟩
  rw [ExpressionTree.matchesIn, htable]
  simp only [hselect]

end ExpressionTree

namespace Session

variable {o : Options} {d : DataSet}

theorem source_eq_ok {tree : ExpressionTree} {s : Source} (h : source o d tree = .ok s) :
    s.tree = tree ∧ d.table? tree.table = some s.table ∧
      ∃ column, s.table.column? (o.idFieldsOf s.table.name).signalId =
        some (s.signalIds, column) := by
  unfold source at h
  split at h
  · cases h
  · next t ht =>
    dsimp only at h
    split at h
    · next index column hcolumn =>
      cases h
      exact ⟨rfl, ht, column, hcolumn⟩
    · cases h

/-- A tree whose table is in the data set lacks a source only for the column of signal IDs. -/
theorem source_eq_error {tree : ExpressionTree} {e : Error} (hin : tree.InDataSet d)
    (h : source o d tree = .error e) : ∃ fault, e = .configuration fault := by
  obtain ⟨t, htable, -⟩ := hin
  rw [source, htable] at h
  dsimp only at h
  split at h
  · cases h
  · cases h
    exact ⟨_, rfl⟩

theorem select_of_source (clock : Clock) {tree : ExpressionTree} {s : Source}
    (hin : tree.InDataSet d) (h : source o d tree = .ok s) :
    (s.select clock).1 = .ok (tree.matchesIn clock d o) ∧
      Log.NoDuplicates (s.select clock).2 := by
  obtain ⟨rfl, hs, column, hcolumn⟩ := source_eq_ok h
  obtain ⟨t, rows, htable, hrows, hfound⟩ := hin.matchesIn clock o
  rw [hs] at htable
  cases htable
  have hmatch : s.matchOf = o.matchOf s.table := by
    funext row
    simp only [Source.matchOf, Options.matchOf, Options.signalIdOf, Table.cellByName?, hcolumn,
      Option.map_some, Option.bind_some]
  constructor
  · rw [Source.select, Logged.andThen_fst, hrows, ok_bind, hfound, hmatch]
  · exact noDuplicates_andThen (s.tree.noDuplicates_select clock s.table) fun _ =>
      Log.noDuplicates_singleton rfl

theorem selectAll_of_sources (clock : Clock) {trees : List ExpressionTree} {list : List Source}
    (hin : ∀ tree ∈ trees, tree.InDataSet d) (h : sources o d trees = .ok list) :
    (selectAll clock list).1 = .ok (trees.flatMap fun tree => tree.matchesIn clock d o) ∧
      Log.NoDuplicates (selectAll clock list).2 := by
  induction trees generalizing list with
  | nil =>
    cases h
    exact ⟨rfl, Log.noDuplicates_nil⟩
  | cons tree rest ih =>
    obtain ⟨first, hfirst, h⟩ := bind_eq_ok_iff.mp h
    obtain ⟨others, hothers, h⟩ := bind_eq_ok_iff.mp h
    cases h
    obtain ⟨hselect, hlog⟩ :=
      select_of_source clock (hin tree List.mem_cons_self) hfirst
    obtain ⟨hall, hlogs⟩ := ih (fun u hu => hin u (List.mem_cons_of_mem tree hu)) hothers
    constructor
    · rw [selectAll, Logged.andThen_fst, hselect, ok_bind, Logged.check_fst, hall]
      rfl
    · exact noDuplicates_andThen hlog fun _ =>
        noDuplicates_andThen hlogs fun _ => Log.noDuplicates_nil

theorem sources_eq_error {trees : List ExpressionTree} {e : Error}
    (hin : ∀ tree ∈ trees, tree.InDataSet d) (h : sources o d trees = .error e) :
    ∃ fault, e = .configuration fault := by
  induction trees with
  | nil => cases h
  | cons tree rest ih =>
    rw [sources] at h
    cases hfirst : source o d tree with
    | error f =>
      rw [hfirst] at h
      cases h
      exact source_eq_error (hin tree List.mem_cons_self) hfirst
    | ok first =>
      rw [hfirst, ok_bind] at h
      cases hothers : sources o d rest with
      | error f =>
        rw [hothers] at h
        cases h
        exact ih (fun u hu => hin u (List.mem_cons_of_mem tree hu)) hothers
      | ok others =>
        rw [hothers] at h
        cases h

end Session

/-- Every tree that a text is bound to belongs to a table of the data set. -/
theorem inDataSet_bindText {d : DataSet} {o : Options} {expression : String} {b : Bound}
    (h : (bindText expression (.dataSet d) o).1 = .ok b) : ∀ tree ∈ b.trees, tree.InDataSet d := by
  intro tree htree
  obtain ⟨t, hholds, htree⟩ := compiled_bindText h tree htree
  have hname : (Scope.dataSet d).table? tree.table = some t := by
    rw [← htree.name]
    exact hholds.2
  exact ⟨t, hname, htree.name⟩

theorem fails_prepare (d : DataSet) (o : Options) (expression : String) :
    Fails Error.IsReported (prepare d o expression) := by
  intro e h
  unfold prepare at h
  cases hbound : (bindText expression (.dataSet d) o).1 with
  | error f =>
    rw [hbound] at h
    cases h
    exact fails_bindText expression (.dataSet d) o e hbound
  | ok b =>
    rw [hbound, ok_bind] at h
    cases hsources : Session.sources o d b.trees with
    | error f =>
      rw [hsources] at h
      cases h
      obtain ⟨fault, rfl⟩ := Session.sources_eq_error (inDataSet_bindText hbound) hsources
      exact trivial
    | ok list =>
      rw [hsources] at h
      cases h

/-! ## Runs -/

namespace Session

variable {s : Session} {d : DataSet}

theorem run_of_noDataSet (clock : Clock) (h : s.dataSet = none) :
    s.run clock = s.refuse .noDataSet := by
  rw [run, h]

theorem run_of_nothingTracked (clock : Clock) (h : s.dataSet = some d)
    (hoff : s.options.tracksNothing = true) : s.run clock = s.refuse .nothingTracked := by
  rw [run, h]
  exact if_pos hoff

theorem run_of_begun (clock : Clock) (h : s.dataSet = some d)
    (hon : s.options.tracksNothing = false) :
    s.run clock =
      match bindText s.expression (.dataSet d) s.options with
      | (.error e, log) => s.report log e
      | (.ok bound, log) => s.runBound clock d bound log := by
  rw [run, h]
  exact if_neg (Bool.eq_false_iff.mp hon)

/-- A run that begins and cannot be prepared reports the error. -/
theorem run_of_prepare_error (clock : Clock) (h : s.dataSet = some d)
    (hon : s.options.tracksNothing = false) {e : Error}
    (he : prepare d s.options s.expression = .error e) : ∃ log, s.run clock = s.report log e := by
  have hrun := run_of_begun clock h hon
  unfold prepare at he
  cases hbind : bindText s.expression (.dataSet d) s.options with
  | mk result log =>
    rw [hbind] at hrun he
    cases result with
    | error f =>
      cases he
      exact ⟨log, hrun⟩
    | ok b =>
      rw [ok_bind] at he
      cases hsources : sources s.options d b.trees with
      | ok list =>
        rw [hsources] at he
        cases he
      | error f =>
        rw [hsources] at he
        cases he
        -- an error about the data set would not be reported, but every tree has its table there
        have hin := inDataSet_bindText (congrArg Prod.fst hbind)
        obtain ⟨fault, rfl⟩ := sources_eq_error hin hsources
        refine ⟨log, hrun.trans ?_⟩
        simp only [runBound, hsources]

/-- A run that begins and can be prepared tracks what is found. -/
theorem run_of_prepare_ok (clock : Clock) (h : s.dataSet = some d)
    (hon : s.options.tracksNothing = false) {b : Bound}
    (hb : prepare d s.options s.expression = .ok b) :
    ∃ log, Log.NoDuplicates log ∧ s.run clock =
      ⟨{ s with
          tracked := (Tracking.run s.options (b.matchesIn clock d s.options)).tracked
          trees := b.trees },
        .ok (), log ++ (Tracking.run s.options (b.matchesIn clock d s.options)).log, []⟩ := by
  obtain ⟨c, hbind, hb⟩ := bind_eq_ok_iff.mp hb
  obtain ⟨list, hsources, hb⟩ := bind_eq_ok_iff.mp hb
  cases hb
  obtain ⟨hselect, hlog⟩ :=
    selectAll_of_sources clock (inDataSet_bindText hbind) hsources
  have hlogs := noDuplicates_bindText s.expression (.dataSet d) s.options
  refine ⟨_, hlogs.append hlog, ?_⟩
  have hpair : bindText s.expression (.dataSet d) s.options =
      (.ok b, (bindText s.expression (.dataSet d) s.options).2) := by
    rw [← hbind]
  have hfound : selectAll clock list =
      (.ok (b.trees.flatMap fun tree => tree.matchesIn clock d s.options),
        (selectAll clock list).2) := by
    rw [← hselect]
  -- no source refuses its table, so nothing stops the run from here on
  rw [run_of_begun clock h hon, hpair]
  simp only [runBound, hsources]
  rw [hfound]
  rfl

/-- All that a run may do. -/
inductive Ran (s : Session) (clock : Clock) : Run → Prop where
  | noDataSet (h : s.dataSet = none) : Ran s clock (s.refuse .noDataSet)
  | nothingTracked {d : DataSet} (h : s.dataSet = some d)
      (hoff : s.options.tracksNothing = true) : Ran s clock (s.refuse .nothingTracked)
  | reported {d : DataSet} {log : Log} {e : Error} (h : s.dataSet = some d)
      (hon : s.options.tracksNothing = false)
      (he : prepare d s.options s.expression = .error e) : Ran s clock (s.report log e)
  | finished {d : DataSet} {log : Log} {b : Bound} (h : s.dataSet = some d)
      (hon : s.options.tracksNothing = false)
      (hb : prepare d s.options s.expression = .ok b) (hlog : log.NoDuplicates) :
      Ran s clock
        ⟨{ s with
            tracked := (Tracking.run s.options (b.matchesIn clock d s.options)).tracked
            trees := b.trees },
          .ok (), log ++ (Tracking.run s.options (b.matchesIn clock d s.options)).log, []⟩

theorem ran (s : Session) (clock : Clock) : Ran s clock (s.run clock) := by
  cases h : s.dataSet with
  | none =>
    rw [run_of_noDataSet clock h]
    exact .noDataSet h
  | some d =>
    cases hon : s.options.tracksNothing with
    | true =>
      rw [run_of_nothingTracked clock h hon]
      exact .nothingTracked h hon
    | false =>
      cases hb : prepare d s.options s.expression with
      | error e =>
        obtain ⟨log, hrun⟩ := run_of_prepare_error clock h hon hb
        rw [hrun]
        exact .reported h hon hb
      | ok b =>
        obtain ⟨log, hlog, hrun⟩ := run_of_prepare_ok clock h hon hb
        rw [hrun]
        exact .finished h hon hb hlog

/-- A run succeeds if it begins and can be prepared. -/
theorem run_eq_ok_iff (clock : Clock) : (s.run clock).outcome = .ok () ↔
    ∃ d b, s.dataSet = some d ∧ s.options.tracksNothing = false ∧
      prepare d s.options s.expression = .ok b := by
  constructor
  · intro hok
    have hran := s.ran clock
    generalize s.run clock = r at hok hran
    cases hran with
    | finished h hon hb => exact ⟨_, _, h, hon, hb⟩
    | _ => cases hok
  · rintro ⟨d, b, h, hon, hb⟩
    obtain ⟨log, -, hrun⟩ := run_of_prepare_ok clock h hon hb
    rw [hrun]

end Session

end RowFilter
