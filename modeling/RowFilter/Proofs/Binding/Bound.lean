import RowFilter.Proofs.Binding.Simulation
import RowFilter.Proofs.Options
import RowFilter.Proofs.Syntax.Faults
import RowFilter.Proofs.Syntax.Pushing
import RowFilter.Query

/-!
Binding a whole text. What it is bound to is what its statements contribute one by one; it depends
on few of the options; every tree over a data set belongs to one of its tables, which goes by the
name that the tree carries; and only the text or the configuration is to blame for an error.
-/

namespace RowFilter

open Syntax

/-! ## Statement by statement -/

section

variable (scope : Scope) (options : Options)

/-- Binding a text binds the nodes of its document. -/
theorem bindText_eq (text : String) :
    bindText text scope options =
      match Document.parse text with
      | .ok d => (Arena.ofDocument d).bind scope options
      | .error e => (.error e, []) := by
  rw [bindText, Arena.parse_eq_map_ofDocument]
  cases Document.parse text with
  | error e => rfl
  | ok d => rfl

theorem bindText_fst (text : String) :
    (bindText text scope options).1 =
      Document.parse text >>= fun d =>
        (Statement.compileAll scope options d.statements).1 := by
  rw [bindText_eq]
  cases Document.parse text with
  | error e => rfl
  | ok d =>
    rw [ok_bind]
    exact congrArg Prod.fst (bind_ofDocument d scope options)

theorem compileAll_cons_fst (s : Statement) (rest : List Statement) :
    (Statement.compileAll scope options (s :: rest)).1 =
      (s.compile scope options).1 >>= fun own =>
        (Statement.compileAll scope options rest).1 >>= fun more => .ok (own.append more) := by
  rw [Statement.compileAll, Logged.andThen_fst]
  refine congrArg _ (funext fun own => ?_)
  rw [Logged.check_fst]

/-- What more statements contribute comes behind. -/
theorem compileAll_append_fst (list list' : List Statement) :
    (Statement.compileAll scope options (list ++ list')).1 =
      (Statement.compileAll scope options list).1 >>= fun own =>
        (Statement.compileAll scope options list').1 >>= fun more => .ok (own.append more) := by
  induction list with
  | nil =>
    show (Statement.compileAll scope options list').1 = _
    cases (Statement.compileAll scope options list').1 with
    | error e => rfl
    | ok more => exact congrArg Except.ok more.empty_append.symm
  | cons s rest ih =>
    rw [List.cons_append, compileAll_cons_fst, compileAll_cons_fst, ih]
    simp only [bind_assoc, ok_bind, Bound.append_assoc]

/-- A text with one statement is bound to what the statement contributes. -/
theorem bindText_single {text : String} {d : Document} {s : Statement}
    (hparse : Document.parse text = .ok d) (hd : d.statements = [s]) :
    (bindText text scope options).1 = (s.compile scope options).1 := by
  rw [bindText_fst, hparse, ok_bind, hd, compileAll_cons_fst]
  cases (s.compile scope options).1 with
  | error e => rfl
  | ok own => exact congrArg Except.ok own.append_empty

/-- A property of what single statements contribute that holds of nothing and of two contributions
together holds of what all statements contribute. -/
theorem compileAll_induction {P : Bound → Prop} (hnil : P ⟨[], []⟩)
    (happend : ∀ b c, P b → P c → P (b.append c)) {list : List Statement}
    (hs : ∀ s ∈ list, ∀ b, (s.compile scope options).1 = .ok b → P b) {b : Bound}
    (h : (Statement.compileAll scope options list).1 = .ok b) : P b := by
  induction list generalizing b with
  | nil =>
    cases h
    exact hnil
  | cons s rest ih =>
    rw [compileAll_cons_fst] at h
    obtain ⟨own, hown, h⟩ := bind_eq_ok_iff.mp h
    obtain ⟨more, hmore, h⟩ := bind_eq_ok_iff.mp h
    cases h
    exact happend own more (hs s List.mem_cons_self own hown)
      (ih (fun u hu => hs u (List.mem_cons_of_mem s hu)) hmore)

end

/-! ## Options that bind alike -/

/-- Neither rows nor signal IDs are tracked. -/
def Options.tracksNothing (o : Options) : Bool := !o.trackRows && !o.trackSignalIds

/-- Options that agree on the primary table, on the identifying columns, and on whether anything is
tracked. -/
structure Options.BindsLike (o o' : Options) : Prop where
  tracksNothing : o.tracksNothing = o'.tracksNothing
  primaryTable : o.primaryTable = o'.primaryTable
  idFieldsOf : ∀ table, o.idFieldsOf table = o'.idFieldsOf table

theorem Options.Reordered.bindsLike {o o' : Options} (h : o.Reordered o') (hd : o.Distinct) :
    o.BindsLike o' where
  tracksNothing := by rw [tracksNothing, tracksNothing, h.trackRows, h.trackSignalIds]
  primaryTable := h.primaryTable
  idFieldsOf := h.idFieldsOf hd

section

variable {o o' : Options} (h : o.BindsLike o') (scope : Scope)

include h

theorem Options.BindsLike.compile (s : Statement) : s.compile scope o = s.compile scope o' := by
  cases s with
  | filter => rfl
  | expression _ e =>
    rw [Statement.compile, Statement.compile, Statement.expressionTree, h.primaryTable]
    rfl
  | identifier _ i =>
    -- the options give the table, the columns that identify its rows, and whether to look at all
    have hmatched : Statement.matched scope o i = Statement.matched scope o' i := by
      simp only [Statement.matched, h.primaryTable, h.idFieldsOf]
    have htracks := h.tracksNothing
    unfold Options.tracksNothing at htracks
    rw [Statement.compile, Statement.compile, Statement.named, Statement.named, hmatched, htracks]

theorem Options.BindsLike.compileAll (list : List Statement) :
    Statement.compileAll scope o list = Statement.compileAll scope o' list := by
  induction list with
  | nil => rfl
  | cons s rest ih => rw [Statement.compileAll, Statement.compileAll, h.compile scope s, ih]

/-- Options that bind alike bind every text to the same. -/
theorem Options.BindsLike.bindText (text : String) :
    RowFilter.bindText text scope o = RowFilter.bindText text scope o' := by
  rw [bindText_eq, bindText_eq]
  cases Document.parse text with
  | error e => rfl
  | ok d =>
    show (Arena.ofDocument d).bind scope o = (Arena.ofDocument d).bind scope o'
    rw [bind_ofDocument, bind_ofDocument]
    exact h.compileAll scope d.statements

end

/-! ## Tables of a data set -/

/-- A table that goes by a name also goes by its own. -/
theorem DataSet.table?_name {d : DataSet} {name : String} {t : Table}
    (h : d.table? name = some t) : d.table? t.name = some t := by
  have hname : Text.sameName t.name name = true := by
    rw [DataSet.table?] at h
    exact List.find?_some (p := fun u : Table => Text.sameName u.name name) h
  have hsame : (fun u : Table => Text.sameName u.name t.name) =
      fun u => Text.sameName u.name name := by
    funext u
    exact Text.sameName_congr hname u.name
  rw [DataSet.table?, hsame]
  exact h

theorem Scope.table?_of_filterTable {d : DataSet} {name : String} {t : Table}
    (h : (Scope.dataSet d).filterTable name = .ok t) : d.table? t.name = some t := by
  unfold filterTable at h
  split at h
  · next u hu =>
    cases h
    exact DataSet.table?_name hu
  · cases h

theorem Scope.table?_of_primaryTable {d : DataSet} {name : Option String} {t : Table}
    (h : (Scope.dataSet d).primaryTable name = .ok t) : d.table? t.name = some t := by
  have htable : (Scope.dataSet d).primaryTable? name = some t := by
    unfold primaryTable at h
    split at h
    · next u hu =>
      cases h
      exact hu
    · cases h
    · cases h
  unfold primaryTable? at htable
  split at htable
  · next heq => cases heq
  · next heq =>
    cases heq
    exact DataSet.table?_name htable
  -- the only table goes by its own name
  · next only heq =>
    cases heq
    cases htable
    rw [DataSet.table?, List.find?_cons, Text.sameName_refl]
  · cases htable

/-- The tree belongs to a table of the data set, which goes by the name in the tree. -/
def ExpressionTree.InDataSet (d : DataSet) (tree : ExpressionTree) : Prop :=
  ∃ t, d.table? tree.table = some t ∧ t.name = tree.table

/-- An identifier statement contributes no tree. -/
theorem trees_of_identifier {scope : Scope} {options : Options} {p : Text.Position} {i : Identifier}
    {b : Bound} (h : ((Statement.identifier p i).compile scope options).1 = .ok b) :
    b.trees = [] := by
  change (Statement.named _ _ i).1 = .ok b at h
  unfold Statement.named at h
  split at h
  · cases h; rfl
  · split at h
    · cases h; rfl
    · cases h

/-! ## Errors -/

/-- Errors in the expression or its configuration. -/
def Error.IsReported : Error → Prop
  | .lexical .. | .grammar .. | .bind _ | .configuration _ => True
  | _ => False

theorem Error.IsReading.isReported {e : Error} (h : e.IsReading) : e.IsReported := by
  cases e with
  | lexical | grammar => exact trivial
  | _ => exact h.elim

theorem Error.BlamesRequest.isReported {e : Error} (h : e.BlamesRequest) : e.IsReported := by
  rcases h with ⟨⟨fault, rfl⟩, -⟩ | ⟨fault, rfl⟩
  · exact trivial
  · exact trivial

theorem fails_bindText (text : String) (scope : Scope) (options : Options) :
    Fails Error.IsReported (bindText text scope options).1 := by
  rw [bindText_fst]
  refine ((fails_parse text).mono fun _ he => he.isReported).bind fun d => ?_
  exact (fails_statements scope options d.statements).mono fun _ he => he.isReported

/-! ## Events -/

/-- A match was skipped because of its signal ID. -/
def LogEvent.isDuplicate : LogEvent → Bool
  | .duplicateSkipped _ => true
  | _ => false

/-- No match was skipped. -/
def Log.NoDuplicates (log : Log) : Prop := ∀ event ∈ log, event.isDuplicate = false

theorem Log.noDuplicates_nil : Log.NoDuplicates [] := List.forall_mem_nil _

theorem Log.NoDuplicates.append {log more : Log} (h : log.NoDuplicates) (hm : more.NoDuplicates) :
    (log ++ more : Log).NoDuplicates :=
  List.forall_mem_append.mpr ⟨h, hm⟩

theorem Log.noDuplicates_singleton {event : LogEvent} (h : event.isDuplicate = false) :
    Log.NoDuplicates [event] :=
  List.forall_mem_singleton.mpr h

theorem noDuplicates_andThen {α β : Type} {x : Logged α} {f : α → Logged β}
    (hx : Log.NoDuplicates x.2) (hf : ∀ a, Log.NoDuplicates (f a).2) :
    Log.NoDuplicates (x.andThen f).2 := by
  obtain ⟨e | a, log⟩ := x
  · exact hx
  · exact hx.append (hf a)

theorem noDuplicates_statement (scope : Scope) (options : Options) (s : Statement) :
    Log.NoDuplicates (s.compile scope options).2 := by
  have htree (tree : Except Error ExpressionTree) :
      Log.NoDuplicates (Statement.ofTree tree).2 := by
    cases tree with
    | ok tree => exact Log.noDuplicates_singleton rfl
    | error e => exact Log.noDuplicates_nil
  cases s with
  | filter _ clause condition => exact htree _
  | expression _ e => exact htree _
  | identifier _ i =>
    show Log.NoDuplicates (Statement.named scope options i).2
    unfold Statement.named
    split
    · exact Log.noDuplicates_singleton rfl
    · split
      · exact Log.noDuplicates_singleton rfl
      · exact Log.noDuplicates_nil

theorem noDuplicates_compileAll (scope : Scope) (options : Options) (list : List Statement) :
    Log.NoDuplicates (Statement.compileAll scope options list).2 := by
  induction list with
  | nil => exact Log.noDuplicates_nil
  | cons s rest ih =>
    exact noDuplicates_andThen (noDuplicates_statement scope options s) fun _ =>
      noDuplicates_andThen ih fun _ => Log.noDuplicates_nil

theorem noDuplicates_bindText (text : String) (scope : Scope) (options : Options) :
    Log.NoDuplicates (bindText text scope options).2 := by
  rw [bindText_eq]
  split
  · next d _ =>
    rw [bind_ofDocument]
    exact noDuplicates_compileAll scope options d.statements
  · exact Log.noDuplicates_nil

end RowFilter
