import RowFilter.Proofs.Syntax.Completeness

/-!
Statements and documents: a token list is read as a list of statements exactly if the grammar
derives that list from it.
-/

namespace RowFilter.Syntax

open Text (Position)

variable {finish : Position}

/-! ## The head of a FILTER statement is a phrase -/

theorem fits_int32_iff {k : Nat} : IntType.int32.Fits k ↔ k < twoTo 31 := by
  have h : twoTo 31 = 2147483648 := by decide
  rw [h]
  simp only [IntType.Fits, IntType.least, IntType.greatest, IntType.isSigned,
    IntType.modulus_int32, if_true]
  omega

theorem split_of_limitNumber {negative : Bool} {ts : List Token} {p : Parsed Int ts.length}
    (h : limitNumber finish negative ts = .ok p) :
    ∃ o text k, ts = o :: p.rest ∧ o.kind = .integer text ∧
      Integer.readNatural? text.toList = some k ∧ IntType.int32.Fits k ∧
      p.value = if negative then -(k : Int) else k := by
  rw [limitNumber.eq_def] at h
  split at h
  · next text source position rest =>
    split at h
    · next n hn =>
      cases h
      rw [Integer.readUnsigned?, Option.filter_eq_some_iff, decide_eq_true_iff] at hn
      exact ⟨_, text, n, rfl, rfl, hn.1, fits_int32_iff.mpr hn.2, rfl⟩
    · cases h
  · cases h

theorem reads_topLimit {ts : List Token} {p : Parsed (Option Int) (ts.length + 1)}
    (h : topLimit finish ts = .ok p) : ∃ ls, ts = ls ++ p.rest ∧ DerivesLimit ls p.value := by
  rw [topLimit] at h
  split at h
  · next htop =>
    obtain ⟨o, hts, ho⟩ := split_of_startsWith htop
    -- A minus has a branch of its own; a plus is only dropped, together with the case of no sign.
    split at h
    · next hminus =>
      obtain ⟨m, hm, hminus⟩ := split_of_startsWith hminus
      rw [bind_eq_ok_iff] at h
      obtain ⟨limit, hl, h⟩ := h
      cases h
      obtain ⟨n, text, k, hn, htext, hk, hf, hv⟩ := split_of_limitNumber hl
      have hrest : (ts.drop 1).drop 1 = [n] ++ limit.rest := List.drop_drop.trans hn
      refine ⟨o :: [m, n],
        hts.trans (congrArg (o :: ·) (hm.trans (congrArg (m :: ·) hrest))), ?_⟩
      rw [show limit.value = -(k : Int) from hv]
      exact .present ho (.minus hminus) htext hk hf
    · rw [bind_eq_ok_iff] at h
      obtain ⟨limit, hl, h⟩ := h
      cases h
      obtain ⟨n, text, k, hn, htext, hk, hf, hv⟩ := split_of_limitNumber hl
      rw [show limit.value = (k : Int) from hv]
      by_cases hplus : startsWith (.symbol .plus) (ts.drop 1) = true
      · obtain ⟨s, hs, hsign⟩ := split_of_startsWith hplus
        have hdrop : ts.drop (if startsWith (.symbol .plus) (ts.drop 1) then 2 else 1) =
            (ts.drop 1).drop 1 := by
          rw [if_pos hplus, List.drop_drop]
        have hrest : (ts.drop 1).drop 1 = [n] ++ limit.rest := hdrop.symm.trans hn
        exact ⟨o :: [s, n], hts.trans (congrArg (o :: ·) (hs.trans (congrArg (s :: ·) hrest))),
          .present ho (.plus hsign) htext hk hf⟩
      · have hdrop : ts.drop (if startsWith (.symbol .plus) (ts.drop 1) then 2 else 1) =
            ts.drop 1 := by
          rw [if_neg hplus]
        have hrest : ts.drop 1 = [n] ++ limit.rest := hdrop.symm.trans hn
        exact ⟨o :: [n], hts.trans (congrArg (o :: ·) hrest),
          .present ho .absent htext hk hf⟩
  · cases h
    exact ⟨[], rfl, .absent⟩

theorem split_of_expectName {what : String} {ts : List Token} {p : Parsed String ts.length}
    (h : expectName finish what ts = .ok p) :
    ∃ o, ts = o :: p.rest ∧ o.kind = .identifier p.value := by
  rw [expectName.eq_def] at h
  split at h
  · cases h
    exact ⟨_, rfl, rfl⟩
  · cases h

theorem direction_split (ts : List Token) :
    ∃ ds, ts = ds ++ ts.drop (if startsWith (.keyword .DESC) ts || startsWith (.keyword .ASC) ts
      then 1 else 0) ∧ Direction (!startsWith (.keyword .DESC) ts) ds := by
  by_cases hdesc : startsWith (.keyword .DESC) ts = true
  · obtain ⟨x, hx, hk⟩ := split_of_startsWith hdesc
    rw [hdesc, Bool.true_or, if_pos rfl]
    exact ⟨[x], hx, .descending hk⟩
  · rw [Bool.not_eq_true] at hdesc
    rw [hdesc, Bool.false_or]
    by_cases hasc : startsWith (.keyword .ASC) ts = true
    · obtain ⟨x, hx, hk⟩ := split_of_startsWith hasc
      rw [if_pos hasc]
      exact ⟨[x], hx, .ascending hk⟩
    · rw [if_neg hasc]
      exact ⟨[], rfl, .absent⟩

theorem reads_orderingTerm {ts : List Token} {p : Parsed OrderingTerm ts.length}
    (h : orderingTerm finish ts = .ok p) :
    ∃ us, ts = us ++ p.rest ∧ DerivesOrdering us p.value := by
  rw [orderingTerm, bind_eq_ok_iff] at h
  obtain ⟨column, hc, h⟩ := h
  cases h
  obtain ⟨es, hes, hexact⟩ := skipEither_split (.keyword .BINARY) (.symbol .tripleEqual) ts
  obtain ⟨o, hcolumn, ho⟩ := split_of_expectName hc
  obtain ⟨ds, hds, hdirection⟩ := direction_split column.rest
  exact ⟨es ++ o :: ds, split_trans hes (hcolumn.trans (congrArg (o :: ·) hds)),
    .mk hexact ho hdirection⟩

theorem reads_orderingTerms {ts : List Token} {p : Parsed (List OrderingTerm) ts.length}
    (h : orderingTerms finish ts = .ok p) :
    ∃ (all : List Token) (list : List (List Token × OrderingTerm)), ts = all ++ p.rest ∧
      p.value = list.map (·.2) ∧ Separated (.symbol .comma) (list.map (·.1)) all ∧
      ∀ i ∈ list, DerivesOrdering i.1 i.2 := by
  rw [orderingTerms, bind_eq_ok_iff] at h
  obtain ⟨first, hf, h⟩ := h
  obtain ⟨us, hus, hfirst⟩ := reads_orderingTerm hf
  have hfewer := first.fewer
  split at h
  · next hcomma =>
    obtain ⟨o, hcomma, ho⟩ := split_of_startsWith hcomma
    rw [bind_eq_ok_iff] at h
    obtain ⟨more, hm, h⟩ := h
    cases h
    obtain ⟨all, list, hall, hv, hsep, hi⟩ := reads_orderingTerms hm
    have hrest := hcomma.trans (congrArg (o :: ·) hall)
    refine ⟨us ++ o :: all, (us, first.value) :: list, split_trans hus hrest, ?_, .more ho hsep, ?_⟩
    · rw [hv]
      rfl
    · intro i hmem
      rcases List.mem_cons.mp hmem with rfl | hmem
      · exact hfirst
      · exact hi i hmem
  · cases h
    refine ⟨us, [(us, first.value)], hus, rfl, .last us, ?_⟩
    intro i hmem
    rw [List.mem_singleton.mp hmem]
    exact hfirst
termination_by ts.length
decreasing_by
  simp only [List.length_drop]
  omega

theorem reads_orderBy {ts : List Token} {p : Parsed (List OrderingTerm) (ts.length + 1)}
    (h : orderBy finish ts = .ok p) : ∃ os, ts = os ++ p.rest ∧ DerivesOrder os p.value := by
  rw [orderBy] at h
  split at h
  · next horder =>
    obtain ⟨o, hts, ho⟩ := split_of_startsWith horder
    simp only [bind_eq_ok_iff] at h
    obtain ⟨byWord, hb, terms, ht, h⟩ := h
    cases h
    obtain ⟨b, hbrest, hb⟩ := split_of_expect hb
    obtain ⟨all, list, hall, hv, hsep, hi⟩ := reads_orderingTerms ht
    refine ⟨o :: b :: all, ?_, ?_⟩
    · exact hts.trans (congrArg (o :: ·) (hbrest.trans (congrArg (b :: ·) hall)))
    · rw [show terms.value = list.map (·.2) from hv]
      exact .present ho hb hsep hi
  · cases h
    exact ⟨[], rfl, .absent⟩

/-! ## Statements are phrases -/

theorem reads_filterStatement {position : Position} {ts : List Token}
    {p : Parsed Statement ts.length} (h : filterStatement finish position ts = .ok p) {o : Token}
    (ho : o.kind = .keyword .FILTER) (hp : position = o.position) :
    ∃ us, o :: ts = us ++ p.rest ∧ DerivesStatement us p.value := by
  simp only [filterStatement, bind_eq_ok_iff] at h
  obtain ⟨limit, hl, table, ht, whereWord, hw, condition, hc, order, hos, h⟩ := h
  cases h
  obtain ⟨ls, hls, hlimit⟩ := reads_topLimit hl
  obtain ⟨t, htable, ht⟩ := split_of_expectName ht
  obtain ⟨w, hwhere, hw⟩ := split_of_expect hw
  obtain ⟨cs, hcs, hcondition⟩ := reads_chain hc
  obtain ⟨os, hos, horder⟩ := reads_orderBy hos
  have hrest : whereWord.rest = cs ++ os ++ order.rest := split_trans hcs hos
  have htail := htable.trans (congrArg (t :: ·) (hwhere.trans (congrArg (w :: ·) hrest)))
  have hts : ts = ls ++ t :: w :: (cs ++ os) ++ order.rest := split_trans hls htail
  subst hp
  exact ⟨o :: (ls ++ t :: w :: (cs ++ os)), congrArg (o :: ·) hts,
    .filter ho hlimit ht hw hcondition horder⟩

/-- What is read as an expression and ends at a boundary is no lone identifier: that would have
been read as such. -/
theorem reads_statement {t : Token} {rest : List Token} {p : Parsed Statement (rest.length + 1)}
    (h : statement finish t rest = .ok p) (hb : atBoundary p.rest = true) :
    ∃ us, t :: rest = us ++ p.rest ∧ DerivesStatement us p.value := by
  rw [statement] at h
  split at h
  · next ht =>
    rw [bind_eq_ok_iff] at h
    obtain ⟨s, hs, h⟩ := h
    cases h
    exact reads_filterStatement hs ht rfl
  · split at h
    · next i hi =>
      cases h
      exact ⟨[t], rfl, .identifier (Option.filter_eq_some_iff.mp hi).1⟩
    · next hi =>
      rw [bind_eq_ok_iff] at h
      obtain ⟨e, he, h⟩ := h
      cases h
      obtain ⟨us, hus, he⟩ := reads_chain he
      obtain ⟨o, vs, rfl, -⟩ := he.head
      obtain ⟨rfl, hvs⟩ := List.cons_eq_cons.mp hus
      refine ⟨t :: vs, hus, .expression ?_ he⟩
      -- Were nothing behind the first token, the boundary would be behind it, and a token that
      -- names a row would have been read as an identifier.
      rintro rfl
      cases hid : identifier? t.kind with
      | none => rfl
      | some i =>
        have hrest : atBoundary rest = true := by
          rw [hvs]
          exact hb
        rw [hid, hrest] at hi
        cases hi

theorem derives_of_statements {ts : List Token} {list : List Statement}
    (h : statements finish ts = .ok list) : DerivesStatements ts list := by
  match ts with
  | [] =>
    rw [statements] at h
    cases h
    exact .nil
  | t :: rest =>
    rw [statements] at h
    split at h
    · next ht => exact .semicolon ht (derives_of_statements h)
    · rw [bind_eq_ok_iff] at h
      obtain ⟨s, hs, h⟩ := h
      split at h
      · next hb =>
        rw [bind_eq_ok_iff] at h
        obtain ⟨more, hm, h⟩ := h
        cases h
        have hfewer := s.fewer
        obtain ⟨us, hus, hstatement⟩ := reads_statement hs hb
        have hmore := derives_of_statements hm
        rw [hus]
        exact .statement hstatement hb hmore
      · cases h
termination_by ts.length
decreasing_by
  all_goals
    simp only [List.length_cons]
    omega

/-! ## Statements are found -/

theorem outcome_limitNumber {negative : Bool} {n : Token} {text : String} {k : Nat}
    (rest : List Token) (hn : n.kind = .integer text)
    (hk : Integer.readNatural? text.toList = some k) (hf : IntType.int32.Fits k) :
    outcome (limitNumber finish negative (n :: rest)) =
      .ok (if negative then -(k : Int) else k, rest) := by
  have hread : Integer.readUnsigned? 31 text.toList = some k := by
    rw [Integer.readUnsigned?, Option.filter_eq_some_iff, decide_eq_true_iff]
    exact ⟨hk, fits_int32_iff.mp hf⟩
  obtain ⟨kind, source, position⟩ := n
  cases hn
  rw [limitNumber.eq_def]
  simp only [hread]
  rfl

theorem startsWith_of_kind {kind : Token.Kind} {o : Token} (ts : List Token)
    (ho : o.kind = kind) : startsWith kind (o :: ts) = true := by
  rw [startsWith, decide_eq_true_iff]
  exact ho

/-- The number of a limit is found behind `TOP` where no minus comes first. -/
theorem outcome_topLimit_number {o : Token} {ts rest : List Token} {k : Int}
    (ho : o.kind = .keyword .TOP) (hminus : startsWith (.symbol .minus) ts = false)
    (h : outcome (limitNumber finish false
      ((o :: ts).drop (if startsWith (.symbol .plus) ts then 2 else 1))) = .ok (k, rest)) :
    outcome (topLimit finish (o :: ts)) = .ok (some k, rest) := by
  obtain ⟨_, hlimit⟩ := exists_of_outcome h
  rw [topLimit, if_pos (startsWith_of_kind ts ho)]
  show outcome (if startsWith (.symbol .minus) ts = true then _ else _) = _
  rw [if_neg (Bool.eq_false_iff.mp hminus)]
  show outcome (limitNumber finish false
    ((o :: ts).drop (if startsWith (.symbol .plus) ts then 2 else 1)) >>= _) = _
  rw [hlimit]
  rfl

variable (finish) in
theorem outcome_topLimit {ls : List Token} {limit : Option Int} (h : DerivesLimit ls limit)
    {rest : List Token} (hr : startsWith (.keyword .TOP) rest = false) :
    outcome (topLimit finish (ls ++ rest)) = .ok (limit, rest) := by
  cases h with
  | absent =>
    rw [List.nil_append, topLimit, if_neg (Bool.eq_false_iff.mp hr)]
    rfl
  | @present o n ss negative text k ho hs hn hk hf =>
    rw [List.cons_append, List.append_assoc]
    cases hs with
    | absent =>
      have hno (s : Symbol) : startsWith (.symbol s) (n :: rest) = false :=
        startsWith_cons_of_ne (by rw [hn]; exact nofun)
      apply outcome_topLimit_number ho (hno .minus)
      show outcome (limitNumber finish false
        ((o :: n :: rest).drop (if startsWith (.symbol .plus) (n :: rest) then 2 else 1))) = _
      rw [if_neg (Bool.eq_false_iff.mp (hno .plus))]
      exact outcome_limitNumber rest hn hk hf
    | @plus s hp =>
      apply outcome_topLimit_number ho (startsWith_cons_of_ne (by rw [hp]; exact nofun))
      show outcome (limitNumber finish false
        ((o :: s :: n :: rest).drop
          (if startsWith (.symbol .plus) (s :: n :: rest) then 2 else 1))) = _
      rw [if_pos (startsWith_of_kind _ hp)]
      exact outcome_limitNumber rest hn hk hf
    | @minus m hm =>
      have hnumber : outcome (limitNumber finish true ((o :: m :: n :: rest).drop 2)) =
        .ok (-(k : Int), rest) := outcome_limitNumber rest hn hk hf
      obtain ⟨_, hnumber⟩ := exists_of_outcome hnumber
      rw [topLimit, if_pos (startsWith_of_kind _ ho)]
      show outcome (if startsWith (.symbol .minus) (m :: n :: rest) = true then _ else _) = _
      rw [if_pos (startsWith_of_kind _ hm)]
      show outcome (limitNumber finish true ((o :: m :: n :: rest).drop 2) >>= _) = _
      rw [hnumber]
      rfl

variable (finish) in
theorem outcome_expectName (what : String) {o : Token} {name : String} (ts : List Token)
    (ho : o.kind = .identifier name) :
    outcome (expectName finish what (o :: ts)) = .ok (name, ts) := by
  obtain ⟨kind, source, position⟩ := o
  cases ho
  rfl

theorem direction_append {ascending : Bool} {ds : List Token} (h : Direction ascending ds)
    {rest : List Token} (hdesc : startsWith (.keyword .DESC) rest = false)
    (hasc : startsWith (.keyword .ASC) rest = false) :
    (!startsWith (.keyword .DESC) (ds ++ rest)) = ascending ∧
      (ds ++ rest).drop (if startsWith (.keyword .DESC) (ds ++ rest) ||
        startsWith (.keyword .ASC) (ds ++ rest) then 1 else 0) = rest := by
  cases h with
  | absent =>
    rw [List.nil_append, hdesc, hasc]
    exact ⟨rfl, rfl⟩
  | @ascending o ho =>
    have hno : startsWith (.keyword .DESC) (o :: rest) = false :=
      startsWith_cons_of_ne (by rw [ho]; exact nofun)
    rw [List.singleton_append, hno, startsWith_of_kind rest ho]
    exact ⟨rfl, rfl⟩
  | @descending o ho =>
    rw [List.singleton_append, startsWith_of_kind rest ho]
    exact ⟨rfl, rfl⟩

variable (finish) in
theorem outcome_orderingTerm {us : List Token} {t : OrderingTerm} (h : DerivesOrdering us t)
    {rest : List Token} (hdesc : startsWith (.keyword .DESC) rest = false)
    (hasc : startsWith (.keyword .ASC) rest = false) :
    outcome (orderingTerm finish (us ++ rest)) = .ok (t, rest) := by
  cases h with
  | @mk exact ascending es ds o name he ho hd =>
    obtain ⟨hdirection, hdrop⟩ := direction_append hd hdesc hasc
    rw [List.append_assoc, List.cons_append]
    have hskip : skipExact (es ++ o :: (ds ++ rest)) = (exact, o :: (ds ++ rest)) :=
      skipExact_append he (startsWith_cons_of_ne (by rw [ho]; exact nofun))
        (startsWith_cons_of_ne (by rw [ho]; exact nofun))
    have hname : outcome (expectName finish "column name"
        (skipExact (es ++ o :: (ds ++ rest))).2) = .ok (name, ds ++ rest) := by
      rw [hskip]
      exact outcome_expectName finish _ (ds ++ rest) ho
    obtain ⟨_, hname⟩ := exists_of_outcome hname
    rw [orderingTerm, hname, ok_bind]
    show Except.ok (OrderingTerm.mk name (!startsWith (.keyword .DESC) (ds ++ rest))
      (skipExact (es ++ o :: (ds ++ rest))).1, (ds ++ rest).drop
        (if startsWith (.keyword .DESC) (ds ++ rest) ||
          startsWith (.keyword .ASC) (ds ++ rest) then 1 else 0)) = _
    rw [hdirection, hdrop, hskip]

theorem isSemicolon_of_ne {o : Token} (h : o.kind ≠ .symbol .semicolon) :
    isSemicolon o = false := by
  rw [isSemicolon, decide_eq_false_iff_not]
  exact h

/-- At a boundary comes a semicolon or nothing. -/
theorem startsWith_of_atBoundary (kind : Token.Kind) {ts : List Token}
    (h : atBoundary ts = true) (hk : kind ≠ .symbol .semicolon) :
    startsWith kind ts = false := by
  cases ts with
  | nil => rfl
  | cons t us =>
    apply startsWith_cons_of_ne
    rw [show t.kind = .symbol .semicolon from decide_eq_true_iff.mp h]
    exact hk.symm

theorem stops_of_atBoundary {ts : List Token} (h : atBoundary ts = true) : Stops 6 ts := by
  cases ts with
  | nil => trivial
  | cons t us =>
    show 6 < binding t.kind
    rw [show t.kind = .symbol .semicolon from decide_eq_true_iff.mp h]
    decide

variable (finish) in
theorem outcome_orderingTerms {all : List Token} {list : List (List Token × OrderingTerm)}
    (hsep : Separated (.symbol .comma) (list.map (·.1)) all)
    (hi : ∀ i ∈ list, DerivesOrdering i.1 i.2) {rest : List Token} (hb : atBoundary rest = true) :
    outcome (orderingTerms finish (all ++ rest)) = .ok (list.map (·.2), rest) := by
  generalize hparts : list.map (·.1) = parts at hsep
  induction hsep generalizing list with
  | last ts =>
    obtain ⟨i, rfl, rfl⟩ := List.map_eq_singleton_iff.mp hparts
    obtain ⟨_, hfirst⟩ := exists_of_outcome (outcome_orderingTerm finish
      (hi i List.mem_cons_self) (startsWith_of_atBoundary _ hb nofun)
      (startsWith_of_atBoundary _ hb nofun))
    rw [orderingTerms, hfirst, ok_bind]
    -- At the boundary the list ends, since no comma comes there.
    show outcome (if startsWith (.symbol .comma) rest = true then _ else _) = _
    rw [if_neg (Bool.eq_false_iff.mp (startsWith_of_atBoundary (.symbol .comma) hb nofun))]
    rfl
  | @more ts all parts o ho _ ih =>
    obtain ⟨i, list, rfl, rfl, hlist⟩ := List.map_eq_cons_iff.mp hparts
    have hno {kind : Token.Kind} (hk : Token.Kind.symbol .comma ≠ kind) :
        startsWith kind (o :: (all ++ rest)) = false :=
      startsWith_cons_of_ne (by rw [ho]; exact hk)
    obtain ⟨_, hfirst⟩ := exists_of_outcome (outcome_orderingTerm finish
      (hi i List.mem_cons_self) (hno nofun) (hno nofun))
    obtain ⟨_, hmore⟩ := exists_of_outcome
      (ih (fun j hj => hi j (List.mem_cons_of_mem i hj)) hlist)
    rw [List.append_assoc, List.cons_append, orderingTerms, hfirst, ok_bind]
    show outcome (if startsWith (.symbol .comma) (o :: (all ++ rest)) = true then _ else _) = _
    rw [if_pos (startsWith_of_kind _ ho)]
    show outcome (orderingTerms finish (all ++ rest) >>= _) = _
    rw [hmore]
    rfl

variable (finish) in
theorem outcome_orderBy {os : List Token} {order : List OrderingTerm} (h : DerivesOrder os order)
    {rest : List Token} (hb : atBoundary rest = true) :
    outcome (orderBy finish (os ++ rest)) = .ok (order, rest) := by
  cases h with
  | absent =>
    rw [List.nil_append, orderBy,
      if_neg (Bool.eq_false_iff.mp (startsWith_of_atBoundary (.keyword .ORDER) hb nofun))]
    rfl
  | @present o b all list ho hbyWord hall hi =>
    obtain ⟨_, hby⟩ := exists_of_outcome
      (outcome_expect finish "BY" (all ++ rest) hbyWord)
    obtain ⟨_, hterms⟩ := exists_of_outcome (outcome_orderingTerms finish hall hi hb)
    have hby : expect finish (.keyword .BY) "BY" ((o :: b :: (all ++ rest)).drop 1) =
      .ok ⟨(), all ++ rest, by simp⟩ := hby
    rw [List.cons_append, List.cons_append, orderBy, if_pos (startsWith_of_kind _ ho), hby, ok_bind,
      hterms]
    rfl

variable (finish) in
theorem outcome_filterStatement (position : Position) {t w : Token} {table : String}
    {limit : Option Int} {order : List OrderingTerm} {ls cs os rest : List Token}
    {condition : Term} (hl : DerivesLimit ls limit) (ht : t.kind = .identifier table)
    (hw : w.kind = .keyword .WHERE) (hc : DerivesTerm cs condition) (hos : DerivesOrder os order)
    (hb : atBoundary rest = true) :
    outcome (filterStatement finish position (ls ++ t :: w :: (cs ++ os) ++ rest)) =
      .ok (.filter position ⟨table, limit, order⟩ condition, rest) := by
  -- The condition ends before ORDER or at the boundary, whichever comes first.
  have hstops : Stops Chain.or.height (os ++ rest) := by
    cases hos with
    | absent => exact stops_of_atBoundary hb
    | present ho =>
      apply stops_cons
      rw [ho]
      decide
  have hname : startsWith (.keyword .TOP) (t :: w :: (cs ++ (os ++ rest))) = false :=
    startsWith_cons_of_ne (by rw [ht]; exact nofun)
  obtain ⟨_, hlimit⟩ := exists_of_outcome (outcome_topLimit finish hl hname)
  obtain ⟨_, htable⟩ := exists_of_outcome
    (outcome_expectName finish "table name" (w :: (cs ++ (os ++ rest))) ht)
  obtain ⟨_, hwhere⟩ := exists_of_outcome (outcome_expect finish "WHERE" (cs ++ (os ++ rest)) hw)
  obtain ⟨_, hcondition⟩ := exists_of_outcome (hc.found finish _ hstops)
  obtain ⟨_, horder⟩ := exists_of_outcome (outcome_orderBy finish hos hb)
  rw [List.append_assoc, List.cons_append, List.cons_append, List.append_assoc, filterStatement,
    hlimit, ok_bind, htable, ok_bind, hwhere, ok_bind, term, hcondition, ok_bind, horder]
  rfl

/-! ## Semicolons are no part of a phrase -/

theorem isSemicolon_of_binding {o : Token} (h : binding o.kind < 7) : isSemicolon o = false := by
  apply isSemicolon_of_ne
  intro ho
  rw [ho] at h
  exact absurd h (Nat.lt_irrefl 7)

theorem isSemicolon_of_beginsTerm {o : Token} (h : beginsTerm o.kind = true) :
    isSemicolon o = false := by
  apply isSemicolon_of_ne
  intro ho
  rw [ho] at h
  cases h

theorem isSemicolon_of_kind {o : Token} {k : Token.Kind} (ho : o.kind = k)
    (hk : k ≠ .symbol .semicolon) : isSemicolon o = false :=
  isSemicolon_of_ne (by rw [ho]; exact hk)

theorem Optionally.no_semicolon {a b : Token.Kind} {present : Bool} {es : List Token}
    (h : Optionally a b present es) (ha : a ≠ .symbol .semicolon) (hb : b ≠ .symbol .semicolon) :
    ∀ x ∈ es, isSemicolon x = false := by
  cases h with
  | absent => exact nofun
  | present ho =>
    rw [List.forall_mem_singleton]
    rcases ho with ho | ho
    · exact isSemicolon_of_kind ho ha
    · exact isSemicolon_of_kind ho hb

theorem Opens.no_semicolon {word : Keyword} {negated : Bool} {p : Position} {hs : List Token}
    (h : Opens word negated p hs) : ∀ x ∈ hs, isSemicolon x = false := by
  cases h with
  | plain ho =>
    rw [List.forall_mem_singleton]
    exact isSemicolon_of_kind ho nofun
  | negated hn ho =>
    rw [List.forall_mem_cons, List.forall_mem_singleton]
    exact ⟨isSemicolon_of_beginsTerm (beginsTerm_of_isNegation hn), isSemicolon_of_kind ho nofun⟩

theorem Chain.height_lt (c : Chain) : c.height < 7 := by
  cases c <;> decide

/-- Where no phrase of a list has a semicolon, the list with its commas has none. -/
theorem Separated.no_semicolon {all : List Token} {list : List (List Token × Term)}
    (h : Separated (.symbol .comma) (list.map (·.1)) all)
    (hi : ∀ i ∈ list, ∀ x ∈ i.1, isSemicolon x = false) :
    ∀ x ∈ all, isSemicolon x = false := by
  refine h.forall_mem ?_ ?_
  · intro ts hts
    obtain ⟨i, hmem, rfl⟩ := List.mem_map.mp hts
    exact hi i hmem
  · intro o ho
    exact isSemicolon_of_kind ho nofun

theorem Derives.no_semicolon {r : Rank} {d : Nat} {us : List Token} {t : Term}
    (h : Derives r d us t) : ∀ x ∈ us, isSemicolon x = false := by
  induction h with
  | first _ ih | level _ ih | condition _ _ ih | value _ ih | predicate _ ih | unsigned _ ih =>
    exact ih
  | link _ ho _ _ ihl ihr =>
    rw [List.forall_mem_append, List.forall_mem_cons]
    exact ⟨ihl, isSemicolon_of_binding (by rw [binding_of_operator ho]; exact Chain.height_lt _),
      ihr⟩
  | comparison _ ho _ _ ihl ihr =>
    rw [List.forall_mem_append, List.forall_mem_cons]
    exact ⟨ihl, isSemicolon_of_binding (by rw [binding_of_comparison ho]; decide), ihr⟩
  | like _ hh _ he _ ihl ihr =>
    rw [List.forall_mem_append, List.forall_mem_append, List.forall_mem_append]
    exact ⟨ihl, hh.no_semicolon, he.no_semicolon nofun nofun, ihr⟩
  | inList _ hh _ he ha hall _ hz ihl ihi =>
    rw [List.forall_mem_append, List.forall_mem_append, List.forall_mem_append,
      List.forall_mem_cons, List.forall_mem_append, List.forall_mem_singleton]
    exact ⟨ihl, hh.no_semicolon, he.no_semicolon nofun nofun, isSemicolon_of_kind ha nofun,
      hall.no_semicolon ihi, isSemicolon_of_kind hz nofun⟩
  | isNull _ ho _ hn hz ihl =>
    rw [List.forall_mem_append, List.forall_mem_cons, List.forall_mem_append,
      List.forall_mem_singleton]
    exact ⟨ihl, isSemicolon_of_kind ho nofun, hn.no_semicolon nofun nofun,
      isSemicolon_of_kind hz nofun⟩
  | not ho _ _ ih =>
    rw [List.forall_mem_cons]
    exact ⟨isSemicolon_of_beginsTerm (beginsTerm_of_isNegation ho), ih⟩
  | sign ho _ _ ih =>
    rw [List.forall_mem_cons]
    exact ⟨isSemicolon_of_beginsTerm (beginsTerm_of_unaryOperator ho), ih⟩
  | literal ho =>
    rw [List.forall_mem_singleton]
    exact isSemicolon_of_beginsTerm (beginsTerm_of_literal ho)
  | column ho =>
    rw [List.forall_mem_singleton]
    exact isSemicolon_of_kind ho nofun
  | parentheses ha _ _ hz ih =>
    rw [List.forall_mem_cons, List.forall_mem_append, List.forall_mem_singleton]
    exact ⟨isSemicolon_of_kind ha nofun, ih, isSemicolon_of_kind hz nofun⟩
  | callEmpty ho ha hz =>
    rw [List.forall_mem_cons, List.forall_mem_cons, List.forall_mem_singleton]
    exact ⟨isSemicolon_of_kind ho nofun, isSemicolon_of_kind ha nofun,
      isSemicolon_of_kind hz nofun⟩
  | call ho ha hall _ hz ih =>
    rw [List.forall_mem_cons, List.forall_mem_cons, List.forall_mem_append,
      List.forall_mem_singleton]
    exact ⟨isSemicolon_of_kind ho nofun, isSemicolon_of_kind ha nofun, hall.no_semicolon ih,
      isSemicolon_of_kind hz nofun⟩

/-! ## Documents are found -/

variable (finish) in
/-- A statement is found where it ends at a boundary. An expression that begins with a token that
also names a row goes on with a token that is no semicolon, so it is not cut short there. -/
theorem DerivesStatement.found {us : List Token} {s : Statement} (h : DerivesStatement us s) :
    ∃ o vs, us = o :: vs ∧ isSemicolon o = false ∧ ∀ rest, atBoundary rest = true →
      outcome (statement finish o (vs ++ rest)) = .ok (s, rest) := by
  cases h with
  | @identifier o i ho =>
    have hne {k : Token.Kind} (hk : identifier? k = none) : o.kind ≠ k := by
      intro heq
      rw [heq, hk] at ho
      cases ho
    refine ⟨o, [], rfl, isSemicolon_of_ne (hne rfl), ?_⟩
    intro rest hb
    have hread : (identifier? o.kind).filter (fun _ => atBoundary rest) = some i := by
      rw [ho, hb]
      rfl
    rw [List.nil_append, statement, if_neg (hne rfl), hread]
    rfl
  | @filter o t w table limit order ls cs os condition ho hl ht hw hc hos =>
    refine ⟨o, _, rfl, isSemicolon_of_kind ho nofun, ?_⟩
    intro rest hb
    obtain ⟨_, hs⟩ := exists_of_outcome
      (outcome_filterStatement finish o.position hl ht hw hc hos hb)
    rw [statement, if_pos ho, hs]
    rfl
  | @expression o ts e hi h =>
    obtain ⟨_, _, hcons, hbegins⟩ := h.head
    obtain ⟨rfl, -⟩ := List.cons_eq_cons.mp hcons
    refine ⟨o, ts, rfl, isSemicolon_of_beginsTerm hbegins, ?_⟩
    intro rest hb
    have hfilter : o.kind ≠ .keyword .FILTER := by
      intro ho
      rw [ho] at hbegins
      cases hbegins
    -- No token of an expression is a semicolon, so none of them is at a boundary.
    have hread : (identifier? o.kind).filter (fun _ => atBoundary (ts ++ rest)) = none := by
      cases ts with
      | nil => rw [hi rfl, Option.filter_none]
      | cons v vs =>
        have hv : isSemicolon v = false :=
          h.no_semicolon v (List.mem_cons_of_mem o List.mem_cons_self)
        rw [Option.filter_eq_none_iff]
        intro i _
        rw [List.cons_append, atBoundary, hv]
        exact Bool.false_ne_true
    obtain ⟨_, he⟩ := exists_of_outcome (h.found finish rest (stops_of_atBoundary hb))
    rw [statement, if_neg hfilter, hread]
    show outcome (term finish (o :: (ts ++ rest)) >>= _) = _
    rw [term, show chain finish .or 0 (o :: (ts ++ rest)) = _ from he]
    rfl

variable (finish) in
theorem statements_of_derives {ts : List Token} {list : List Statement}
    (h : DerivesStatements ts list) : statements finish ts = .ok list := by
  induction h with
  | nil => rw [statements]
  | semicolon ho _ ih =>
    rw [statements, if_pos ho]
    exact ih
  | statement hs hb _ ih =>
    obtain ⟨o, vs, rfl, ho, hs⟩ := hs.found finish
    obtain ⟨_, hs⟩ := exists_of_outcome (hs _ hb)
    rw [List.cons_append, statements, if_neg (Bool.eq_false_iff.mp ho), hs, ok_bind]
    show (if atBoundary _ = true then _ else _) = _
    rw [if_pos hb]
    show (statements finish _ >>= _) = _
    rw [ih]
    rfl

variable (finish) in
/-- A token list is read as a list of statements exactly if the grammar derives it. -/
theorem statements_eq_ok_iff {ts : List Token} {list : List Statement} :
    statements finish ts = .ok list ↔ DerivesStatements ts list :=
  ⟨derives_of_statements, statements_of_derives finish⟩

end RowFilter.Syntax
