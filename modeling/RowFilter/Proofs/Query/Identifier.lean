import RowFilter.Proofs.Query.Agreement
import RowFilter.Proofs.Session.Run
import RowFilter.Proofs.Token.Guid

/-!
Identifier statements say the same as FILTER statements that compare the identifying column with the
identifier: the row that is named is the first one selected, and no row is named if none is
selected.
-/

namespace RowFilter

open Syntax
open Text (Position)

/-! ## What an identifier stands for -/

namespace Syntax.Identifier

/-- The column that identifiers of the kind are looked up in. -/
def field (i : Identifier) (fields : IdFields) : String :=
  match i.kind with
  | .guid => fields.signalId
  | .measurementKey => fields.measurementKey
  | .pointTag => fields.pointTag

/-- The identifier as a literal. -/
def literal (i : Identifier) : Literal :=
  match i.kind with
  | .guid => .guid i.text
  | .measurementKey => .measurementKey i.text
  | .pointTag => .pointTag i.text

/-- The signal ID that the identifier itself is, if it is one. -/
def statedId? (i : Identifier) : Option Guid :=
  match i.kind with
  | .guid => Guid.read? i.text.toList
  | .measurementKey | .pointTag => none

/-- An identifier of the kind of signal IDs reads as one. -/
def Reads (i : Identifier) : Prop := i.kind = .guid → i.statedId?.isSome = true

theorem literal?_eq {k : Token.Kind} {i : Identifier} (h : identifier? k = some i) :
    literal? k = some i.literal := by
  unfold identifier? at h
  split at h <;> cases h <;> rfl

theorem reads_of_mem_tokens {input : String} {o : Token} {i : Identifier}
    (h : o ∈ (Token.stream input).tokens) (ho : identifier? o.kind = some i) : i.Reads := by
  intro hkind
  unfold identifier? at ho
  split at ho
  · next text hguid =>
    cases ho
    exact Token.read?_of_mem_tokens h hguid
  -- the others are no signal IDs
  all_goals cases ho <;> cases hkind

/-- What is looked for is the value of the literal, which is never undefined. -/
theorem target_eq {i : Identifier} (hi : i.Reads) {t : Table} {fields : IdFields}
    {signalIds index : Nat} {column : Column} (hids : fieldColumn t fields.signalId = .ok signalIds)
    (hcolumn : t.column? (i.field fields) = some (index, column)) :
    ∃ v : Value, i.literal.value = .ok v ∧ v.isUndefined = false ∧
      i.target t fields signalIds = .ok ⟨index, v, i.statedId?⟩ := by
  have hindex : fieldColumn t (i.field fields) = .ok index := by rw [fieldColumn, hcolumn]
  obtain ⟨kind, text⟩ := i
  cases kind with
  | guid =>
    obtain ⟨g, hg⟩ := Option.isSome_iff_exists.mp (hi rfl)
    -- a signal ID is looked up in the column of signal IDs itself
    have hsame : signalIds = index := Except.ok.inj (hids.symm.trans hindex)
    have hread : Guid.read? text.toList = some g := hg
    refine ⟨.guid g, ?_, rfl, ?_⟩
    · simp [literal, Literal.value, hread, Literal.required]
    · simp [target, statedId?, hread, hsame]
  | measurementKey =>
    have hkey : fieldColumn t fields.measurementKey = .ok index := hindex
    exact ⟨.string text, rfl, rfl, by simp [target, hkey, statedId?]⟩
  | pointTag =>
    have htag : fieldColumn t fields.pointTag = .ok index := hindex
    exact ⟨.string text, rfl, rfl, by simp [target, htag, statedId?]⟩

end Syntax.Identifier

/-! ## Equality -/

namespace Value

theorem matches?_of_isUndefined {a : Value} (ha : a.isUndefined = true) (b : Value) :
    a.matches? b false = false := by
  cases a <;> cases ha
  cases b <;> rfl

/-- A comparison for equality is true of the values that match; it fails on values that cannot be
compared, and then they do not match. -/
theorem apply_equal_eq_true_iff {a b : Value} (hb : b.isUndefined = false) :
    Operator.equal.apply a b = .ok (.boolean true) ↔ a.matches? b false = true := by
  cases ha : a.isUndefined with
  | true =>
    rw [matches?_of_isUndefined ha b, Operator.apply, ha]
    simp
  | false =>
    have happly : Operator.equal.apply a b = Operator.equal.comparison a b := by
      rw [Operator.apply, ha, hb]
      rfl
    have hexact : Operator.equal.isExact = false := rfl
    rw [happly, Operator.comparison, hexact, matches?]
    cases hcompare : a.compare b false with
    | error e => simp
    | ok order =>
      rcases order with _ | order
      · simp [Operator.holds]
      · cases order <;> simp [Operator.holds]

end Value

/-! ## The FILTER statement -/

/-- A column goes by any name that is the same up to case. -/
theorem Table.column?_congr {t : Table} {a b : String} (h : Text.sameName a b = true) :
    t.column? a = t.column? b := by
  have hfind (index : Nat) (columns : List Column) :
      findColumn? a index columns = findColumn? b index columns := by
    induction columns generalizing index with
    | nil => rfl
    | cons c columns ih =>
      rw [findColumn?, findColumn?, Text.sameName_congr h c.name, ih]
  exact hfind 0 t.columns

/-- The primary table is found by its name in a FILTER clause. -/
theorem Scope.filterTable_of_primaryTable {scope : Scope} {primary : Option String} {t : Table}
    {name : String} (h : scope.primaryTable primary = .ok t)
    (hname : Text.sameName name t.name = true) : scope.filterTable name = .ok t := by
  have htable : scope.table? name = some t := by
    cases scope with
    | table u =>
      cases h
      rw [Scope.table?, if_pos (by rw [Text.sameName_comm]; exact hname)]
    | dataSet d =>
      have hown : d.table? t.name = some t := Scope.table?_of_primaryTable h
      have hsame : (fun u : Table => Text.sameName u.name name) =
          fun u => Text.sameName u.name t.name := by
        funext u
        exact Text.sameName_congr hname u.name
      show d.table? name = some t
      rw [DataSet.table?, hsame]
      exact hown
  rw [Scope.filterTable, htable]

namespace Table

/-- The tree that compares a column with a value. -/
def equalityTree (t : Table) (c : ColumnRef) (v : Value) : ExpressionTree :=
  ⟨t.name, -1, [], some (.operator .equal (.column c) (.value v))⟩

/-- A FILTER statement that compares a column with a literal. -/
theorem compile_equality {t : Table} {scope : Scope} {o : Options} {p q r u : Position}
    {name column : String} {l : Literal} {v : Value} {index : Nat} {c : Column} {e : Term}
    (hprimary : scope.primaryTable o.primaryTable = .ok t)
    (hname : Text.sameName name t.name = true) (hcolumn : t.column? column = some (index, c))
    (hvalue : l.value = .ok v)
    (he : e.Same (.predicate q .equal (.column r column) (.literal u l))) :
    (Statement.compile scope o (.filter p ⟨name, none, []⟩ e)).1 =
      .ok ⟨[t.equalityTree ⟨c.name, index⟩ v], []⟩ := by
  have htable := Scope.filterTable_of_primaryTable hprimary hname
  have hresolve : t.resolve column = .ok ⟨c.name, index⟩ := by rw [Table.resolve, hcolumn]
  have hcompile : e.compile t = .ok (.operator .equal (.column ⟨c.name, index⟩) (.value v)) := by
    rw [he t]
    simp [Term.compile, hresolve, hvalue]
  have horder : Binding.orderTerms t [] = .ok [] := rfl
  have htree : Statement.filterTree scope ⟨name, none, []⟩ e =
      .ok (t.equalityTree ⟨c.name, index⟩ v) := by
    rw [Statement.filterTree, htable, ok_bind, horder, ok_bind, hcompile]
    rfl
  rw [Statement.compile, htree]
  rfl

/-- It selects the rows whose cell matches the value. -/
theorem select_equality {t : Table} {c : ColumnRef} {v : Value} (hv : v.isUndefined = false)
    (clock : Clock) : ((t.equalityTree c v).select clock t).1 =
      .ok (t.rowList.filter fun row => (row.cell c.index).matches? v false) := by
  have hselects : (t.equalityTree c v).selects clock =
      fun row => (row.cell c.index).matches? v false := by
    funext row
    have hevaluate : (t.equalityTree c v).evaluate clock row =
        Operator.equal.apply (row.cell c.index) v := by
      have hlogical : Operator.equal.isLogical = false := rfl
      simp [equalityTree, ExpressionTree.evaluate, Expression.evaluate, hlogical]
    rw [ExpressionTree.selects, hevaluate, Bool.eq_iff_iff, decide_eq_true_iff]
    exact Value.apply_equal_eq_true_iff hv
  rw [equalityTree, t.select_fst, ← equalityTree, hselects]

end Table

/-! ## The identifier statement -/

/-- The match of an identifier is the first of some rows, with its signal ID or else the one that
the identifier states. -/
def Options.firstMatch (o : Options) (t : Table) (i : Identifier) (rows : List Row) : Match :=
  ⟨(rows.head?.bind (o.signalIdOf t)).or i.statedId?, rows.head?.map fun row => ⟨t.name, row⟩⟩

/-- An identifier names the first of the rows that match it. -/
theorem Syntax.Identifier.resolve_eq {i : Identifier} {t : Table} {o : Options}
    {index signalIds : Nat} {idColumn : Column} {v : Value}
    (hids : t.column? (o.idFieldsOf t.name).signalId = some (signalIds, idColumn))
    (htarget : i.target t (o.idFieldsOf t.name) signalIds = .ok ⟨index, v, i.statedId?⟩) :
    ∃ isRow, i.resolve t (o.idFieldsOf t.name) = .ok (o.firstMatch t i
      (t.rowList.filter fun row => (row.cell index).matches? v false), isRow) := by
  have hfield : fieldColumn t (o.idFieldsOf t.name).signalId = .ok signalIds := by
    rw [fieldColumn, hids]
  -- the row that is looked up is the first of those that match
  have hrow : Target.row? ⟨index, v, i.statedId?⟩ t =
      (t.rowList.filter fun row => (row.cell index).matches? v false).head? := by
    rw [List.head?_filter]
    rfl
  have hsignal (row : Row) : (row.cell signalIds).signalId? = o.signalIdOf t row := by
    rw [Options.signalIdOf, Table.cellByName?, hids]
    rfl
  rw [resolve, hfield, ok_bind, htarget, ok_bind, hrow, Options.firstMatch]
  cases (t.rowList.filter fun row => (row.cell index).matches? v false).head? with
  | none => exact ⟨false, rfl⟩
  | some row =>
    refine ⟨true, ?_⟩
    simp [hsignal]

/-! ## Texts -/

/-- The text that compares a column with a literal. -/
def equalityText (column literal : String) : String := "[" ++ column ++ "] = " ++ literal

theorem tokenize_equalityText {column text : String} {tokens : List Token} {finish : Position}
    (hcolumn : ']' ∉ column.toList) (h : Token.tokenize text = .ok (tokens, finish)) :
    ∃ tokens' finish', Token.tokenize (equalityText column text) = .ok (tokens', finish') ∧
      Matches tokens' (⟨.identifier column, "", .start⟩ :: ⟨.symbol .equal, "=", .start⟩ ::
        tokens) := by
  obtain ⟨rfl, hfinish⟩ := Token.tokenize_eq_ok_iff.mp h
  have hchars : (equalityText column text).toList =
      '[' :: (column.toList ++ ']' :: ' ' :: '=' :: ' ' :: text.toList) := by
    simp [equalityText]
  -- behind the name in brackets and the sign stand the tokens of the literal
  have hbracket := Token.alike_bracket (s := '=' :: ' ' :: text.toList) .start .start hcolumn
    ⟨.identifier column, "", .start⟩ (by rw [String.ofList_toList])
  have hequal := Token.alike_equal (s := text.toList) .start .start
    ⟨.symbol .equal, "=", .start⟩ rfl
  have halike := hbracket.trans (hequal.cons rfl)
  rw [← hchars] at halike
  exact Token.tokenize_of_alike halike hfinish

theorem parse_of_identifier {text : String} {o : Token} {finish : Position} {i : Identifier}
    (h : Token.tokenize text = .ok ([o], finish)) (ho : identifier? o.kind = some i) :
    ∃ d, Document.parse text = .ok d ∧ d.statements = [.identifier o.position i] := by
  have hstatements : DerivesStatements ([o] ++ []) [.identifier o.position i] :=
    .statement (.identifier ho) rfl .nil
  exact ⟨_, parse_of_derives h hstatements, rfl⟩

theorem derives_side {d : Nat} {o : Token} {e : Term} (h : Derives .primary d [o] e) :
    Derives (.level .bitwise) d [o] e :=
  .level (.first (c := .bitwise) (.level (.first (c := .additive) (.level
    (.first (c := .multiplicative) (.unsigned h))))))

theorem derives_equality {c s o : Token} {column : String} {l : Literal}
    (hc : c.kind = .identifier column) (hs : s.kind = .symbol .equal)
    (ho : literal? o.kind = some l) :
    DerivesTerm [c, s, o] (.predicate s.position .equal (.column c.position column)
      (.literal o.position l)) := by
  have hoperator : comparison? s.kind = some .equal := by rw [hs]; rfl
  have hnegation : isNegation c.kind = false := by rw [hc]; rfl
  -- the comparison is the first suffix of the predicate, and neither side is nested
  have hcomparison : Derives (.suffixed 1) 0 ([c] ++ s :: [o])
      (.predicate s.position .equal (.column c.position column) (.literal o.position l)) :=
    .comparison (.value (derives_side (.column hc))) hoperator (by decide)
      (derives_side (.literal ho))
  exact .level (.first (c := .or) (.level (.first (c := .and)
    (.condition hnegation (.predicate hcomparison)))))

/-- The text that compares a column with an identifier has a condition as its only statement. -/
theorem parse_equalityText {column text : String} {o : Token} {finish : Position}
    {i : Identifier} (hcolumn : ']' ∉ column.toList)
    (h : Token.tokenize text = .ok ([o], finish)) (ho : identifier? o.kind = some i) :
    ∃ d p q r u, Document.parse (equalityText column text) = .ok d ∧
      d.statements =
        [.expression p (.predicate q .equal (.column r column) (.literal u i.literal))] ∧
      startsWith (.symbol .semicolon) (Token.stream (equalityText column text)).tokens = false := by
  obtain ⟨tokens, finish', htokens, hmatches⟩ := tokenize_equalityText hcolumn h
  obtain ⟨c, ps, rfl, hc, hps⟩ := hmatches.cons_inv
  obtain ⟨s, qs, rfl, hs, hqs⟩ := hps.cons_inv
  obtain ⟨o', rfl, ho'⟩ := hqs.singleton_inv
  have hliteral : literal? o'.kind = some i.literal := by
    rw [ho']
    exact Identifier.literal?_eq ho
  have hstatement := DerivesStatement.expression (fun hnil => absurd hnil (List.cons_ne_nil _ _))
    (derives_equality hc hs hliteral)
  refine ⟨_, c.position, s.position, c.position, o'.position,
    parse_of_derives htokens (.statement hstatement rfl .nil), rfl, ?_⟩
  rw [(Token.tokenize_eq_ok_iff.mp htokens).1, startsWith, hc]
  rfl

/-! ## Agreement -/

theorem isKnown_firstMatch (o : Options) (t : Table) (i : Identifier) (rows : List Row) :
    (o.firstMatch t i rows).isKnown = !(rows.isEmpty && i.statedId?.isNone) := by
  cases rows with
  | nil => cases h : i.statedId? <;> simp [Options.firstMatch, Match.isKnown, h]
  | cons row rows => simp [Options.firstMatch, Match.isKnown]

/-- What an identifier statement names is the first of the rows that are selected by the FILTER
statement which compares the identifying column with the identifier, with the signal ID of that row
or else the one that the identifier is; it names nothing only if there is neither. -/
theorem identifier_agrees_with_filter (scope : Scope) (o : Options) (t : Table) (clock : Clock)
    {text : String} {token : Token} {finish : Position} {i : Identifier}
    (hprimary : scope.primaryTable o.primaryTable = .ok t)
    (hon : o.trackRows = true ∨ o.trackSignalIds = true)
    (hids : (t.column? (o.idFieldsOf t.name).signalId).isSome = true)
    (hfield : (t.column? (i.field (o.idFieldsOf t.name))).isSome = true)
    (htext : Token.tokenize text = .ok ([token], finish))
    (hi : identifier? token.kind = some i) :
    ∃ tree rows,
      -- any FILTER statement that compares the column with the identifier is bound to the tree
      (∀ query d p q r u name column, Document.parse query = .ok d →
        d.statements = [.filter p ⟨name, none, []⟩
          (.predicate q .equal (.column r column) (.literal u i.literal))] →
        Text.sameName name t.name = true →
        Text.sameName column (i.field (o.idFieldsOf t.name)) = true →
        (bindText query scope o).1 = .ok ⟨[tree], []⟩) ∧
      -- and this is one
      (']' ∉ t.name.toList → ']' ∉ (i.field (o.idFieldsOf t.name)).toList →
        (bindText (filterText t.name (equalityText (i.field (o.idFieldsOf t.name)) text))
          scope o).1 = .ok ⟨[tree], []⟩) ∧
      (tree.select clock t).1 = .ok rows ∧
      (bindText text scope o).1 = .ok ⟨[],
        if rows.isEmpty && i.statedId?.isNone then [] else [o.firstMatch t i rows]⟩ ∧
      (i.kind = .guid → i.statedId?.isSome = true) := by
  obtain ⟨⟨signalIds, idColumn⟩, hids⟩ := Option.isSome_iff_exists.mp hids
  obtain ⟨⟨index, c⟩, hfield⟩ := Option.isSome_iff_exists.mp hfield
  have hreads : i.Reads := by
    have hmem : token ∈ (Token.stream text).tokens := by
      rw [(Token.tokenize_eq_ok_iff.mp htext).1]
      exact List.mem_singleton_self token
    exact Identifier.reads_of_mem_tokens hmem hi
  obtain ⟨v, hvalue, hdefined, htarget⟩ :=
    Identifier.target_eq hreads (by rw [Identifier.fieldColumn, hids]) hfield
  obtain ⟨isRow, hresolve⟩ := Identifier.resolve_eq hids htarget
  refine ⟨t.equalityTree ⟨c.name, index⟩ v, _, ?_, ?_, Table.select_equality hdefined clock, ?_,
    hreads⟩
  -- the name of the table and that of the column may be written in any case
  · intro query d p q r u name column hparse hd hname hcolumn
    rw [bindText_single scope o hparse hd]
    exact Table.compile_equality hprimary hname (Table.column?_congr hcolumn ▸ hfield) hvalue
      fun _ => rfl
  · intro hname hcolumn
    obtain ⟨d, p, q, r, u, hparse, hd, hfirst⟩ := parse_equalityText hcolumn htext hi
    obtain ⟨d', p', e', hparse', hd', hsame⟩ := parse_filterText hname hparse hd hfirst
    rw [bindText_single scope o hparse' hd']
    exact Table.compile_equality hprimary (Text.sameName_refl t.name) hfield hvalue hsame
  -- the statement of the identifier looks at the rows that the tree selects
  · obtain ⟨d, hparse, hd⟩ := parse_of_identifier htext hi
    have hmatched : Statement.matched scope o i = i.resolve t (o.idFieldsOf t.name) := by
      rw [Statement.matched, hprimary, ok_bind]
    have htracks : (!o.trackRows && !o.trackSignalIds) = false := by
      rcases hon with hrows | hids
      · simp [hrows]
      · simp [hids]
    rw [bindText_single scope o hparse hd, Statement.compile, Statement.named, htracks, hmatched,
      hresolve]
    generalize t.rowList.filter (fun row => (row.cell index).matches? v false) = rows
    cases hnone : rows.isEmpty && i.statedId?.isNone with
    | true => simp [isKnown_firstMatch, hnone]
    | false => simp [isKnown_firstMatch, hnone]

/-- Meters whose signal IDs are written in different ways. -/
def meters : Table :=
  ⟨"Meters", [⟨"ID", .string⟩, ⟨"SignalID", .string⟩],
    [[.string "M:1", .undefined],
      [.string "M:2", .string "fe5ceb24-4d7d-4b3b-9d3d-0a1b2c3d4e5f"],
      [.string "M:3", .string "\x7bFE5CEB24-4D7D-4B3B-9D3D-0A1B2C3D4E5F\x7d"]]⟩

/-- The signal ID in braces. -/
def meterId : String := "\x7bFe5cEB24-4d7d-4b3b-9d3d-0a1b2c3d4e5f\x7d"

/-- A meter is found by its signal ID as by comparing the column with it. -/
theorem identifier_agrees_with_filter_meters :
    (Scope.dataSet ⟨[meters]⟩).primaryTable Options.standard.primaryTable = .ok meters ∧
      Options.standard.trackRows = true ∧
      (meters.column? "SignalID").isSome = true ∧
      Token.tokenize meterId = .ok ([⟨.guid meterId, meterId, ⟨1, 1⟩⟩], ⟨1, 39⟩) ∧
      ∃ tree rows,
        (bindText (filterText "Meters" (equalityText "SignalID" meterId))
          (.dataSet ⟨[meters]⟩) .standard).1 = .ok ⟨[tree], []⟩ ∧
        (tree.select .millennium meters).1 = .ok rows ∧
        (bindText meterId (.dataSet ⟨[meters]⟩) .standard).1 = .ok ⟨[],
          if rows.isEmpty && (Identifier.statedId? ⟨.guid, meterId⟩).isNone then []
          else [Options.standard.firstMatch meters ⟨.guid, meterId⟩ rows]⟩ := by
  have hprimary : (Scope.dataSet ⟨[meters]⟩).primaryTable Options.standard.primaryTable =
      .ok meters := rfl
  have hcolumn : (meters.column? "SignalID").isSome = true := by decide +kernel
  have htokens : Token.tokenize meterId =
      .ok ([⟨.guid meterId, meterId, ⟨1, 1⟩⟩], ⟨1, 39⟩) := by decide +kernel
  obtain ⟨tree, rows, -, hfilter, hselect, hnamed, -⟩ :=
    identifier_agrees_with_filter (i := ⟨.guid, meterId⟩) (.dataSet ⟨[meters]⟩) .standard meters
      .millennium hprimary (.inl rfl) hcolumn hcolumn htokens rfl
  exact ⟨hprimary, rfl, hcolumn, htokens, tree, rows, hfilter (by decide) (by decide), hselect,
    hnamed⟩

end RowFilter
