import RowFilter.Proofs.Value.SortKey

/-!
The order of rows that ORDER BY terms ask for: the first term under which two rows have different
keys decides. Rows of a table whose cells are of their columns' types are compared in this order.
-/

namespace RowFilter

namespace OrderTerm

/-- What a row is ordered by under a term. -/
def key (term : OrderTerm) (r : Row) : SortKey :=
  (r.cell term.column.index).sortKey term.exact

/-- The first row comes before the second one under a term. -/
def Precedes (term : OrderTerm) (a b : Row) : Prop :=
  if term.ascending then term.key a < term.key b else term.key b < term.key a

/-- A term does not tell two rows apart. -/
def Ties (term : OrderTerm) (a b : Row) : Prop := term.key a = term.key b

end OrderTerm

/-- The first row comes before the second one: under some term it does, and no term before that one
tells them apart. -/
inductive RowPrecedes : List OrderTerm → Row → Row → Prop where
  | first {term : OrderTerm} {terms : List OrderTerm} {a b : Row} (h : term.Precedes a b) :
      RowPrecedes (term :: terms) a b
  | later {term : OrderTerm} {terms : List OrderTerm} {a b : Row} (ht : term.Ties a b)
      (h : RowPrecedes terms a b) : RowPrecedes (term :: terms) a b

/-! ## The order of one term -/

namespace OrderTerm

variable {term : OrderTerm} {a b c : Row}

theorem Precedes.asymm (h : term.Precedes a b) : ¬ term.Precedes b a := by
  unfold Precedes at h ⊢
  split at h
  · next hascending =>
    rw [if_pos hascending]
    exact lt_asymm h
  · next hascending =>
    rw [if_neg hascending]
    exact lt_asymm h

theorem Precedes.not_ties (h : term.Precedes a b) : ¬ term.Ties a b := by
  unfold Precedes at h
  split at h
  · exact h.ne
  · exact h.ne'

/-- Two rows tie under a term, or one of them comes before the other. -/
theorem trichotomy (term : OrderTerm) (a b : Row) :
    term.Precedes a b ∨ term.Ties a b ∨ term.Precedes b a := by
  unfold Precedes Ties
  split
  · exact lt_trichotomy _ _
  · rcases lt_trichotomy (term.key a) (term.key b) with h | h | h
    · exact .inr (.inr h)
    · exact .inr (.inl h)
    · exact .inl h

theorem Precedes.trans (h : term.Precedes a b) (h' : term.Precedes b c) : term.Precedes a c := by
  unfold Precedes at *
  split at h
  · next hascending =>
    rw [if_pos hascending] at h' ⊢
    exact lt_trans h h'
  · next hascending =>
    rw [if_neg hascending] at h' ⊢
    exact lt_trans h' h

/-- Rows that tie are in the same places in the order. -/
theorem Precedes.of_ties {d : Row} (h : term.Precedes a b) (ha : term.Ties a c)
    (hb : term.Ties b d) : term.Precedes c d := by
  unfold Precedes Ties at *
  rw [← ha, ← hb]
  exact h

end OrderTerm

/-! ## The order of all terms -/

namespace RowPrecedes

variable {terms : List OrderTerm} {a b c : Row}

theorem asymm (h : RowPrecedes terms a b) : ¬ RowPrecedes terms b a := by
  induction h with
  | first h =>
    intro h'
    cases h' with
    | first h' => exact h.asymm h'
    | later ht _ => exact h.not_ties ht.symm
  | later ht _ ih =>
    intro h'
    cases h' with
    | first h' => exact h'.not_ties ht.symm
    | later _ h' => exact ih h'

/-- A row between two others comes after the first or before the last of them. -/
theorem cotrans (h : RowPrecedes terms a c) (b : Row) :
    RowPrecedes terms a b ∨ RowPrecedes terms b c := by
  -- Only where the term ties all three rows do the terms behind it decide.
  induction h with
  | @first term terms a c h =>
    rcases term.trichotomy a b with hab | hab | hba
    · exact .inl (.first hab)
    · exact .inr (.first (h.of_ties hab rfl))
    · exact .inr (.first (hba.trans h))
  | @later term terms a c ht h ih =>
    rcases term.trichotomy a b with hab | hab | hba
    · exact .inl (.first hab)
    · rcases ih with hleft | hright
      · exact .inl (.later hab hleft)
      · exact .inr (.later (hab.symm.trans ht) hright)
    · exact .inr (.first (hba.of_ties rfl ht))

theorem not_ties (h : RowPrecedes terms a b) : ¬ ∀ term ∈ terms, term.Ties a b := by
  induction h with
  | first h => exact fun hties => h.not_ties (hties _ List.mem_cons_self)
  | later _ _ ih =>
    exact fun hties => ih fun term hterm => hties term (List.mem_cons_of_mem _ hterm)

/-- Rows of which neither comes before the other tie under all terms. -/
theorem ties_of_not (h : ¬ RowPrecedes terms a b) (h' : ¬ RowPrecedes terms b a) :
    ∀ term ∈ terms, term.Ties a b := by
  induction terms with
  | nil => exact nofun
  | cons term terms ih =>
    have ht : term.Ties a b := by
      rcases term.trichotomy a b with hab | hab | hba
      · exact absurd (.first hab) h
      · exact hab
      · exact absurd (.first hba) h'
    rw [List.forall_mem_cons]
    exact ⟨ht, ih (fun hab => h (.later ht hab)) (fun hba => h' (.later ht.symm hba))⟩

end RowPrecedes

/-! ## Comparing rows -/

/-- Two rows have cells of the same types, as far as their cells are defined. -/
def Row.SameTypes (a b : Row) : Prop :=
  ∀ column, ∃ type, (a.cell column).IsOf type ∧ (b.cell column).IsOf type

namespace OrderTerm

variable {term : OrderTerm} {a b : Row}

theorem compare_eq_lt_iff (h : a.SameTypes b) : term.compare a b = .lt ↔ term.Precedes a b := by
  obtain ⟨type, ha, hb⟩ := h term.column.index
  have hkeys := Value.compares_compareKeys term.exact ha hb
  unfold compare Precedes
  dsimp only
  split
  · exact hkeys.eq_lt
  · rw [Ordering.swap_eq_lt]
    exact hkeys.eq_gt

theorem compare_eq_eq_iff (h : a.SameTypes b) : term.compare a b = .eq ↔ term.Ties a b := by
  obtain ⟨type, ha, hb⟩ := h term.column.index
  have hkeys := Value.compares_compareKeys term.exact ha hb
  unfold compare Ties
  dsimp only
  split
  · exact hkeys.eq_eq
  · rw [Ordering.swap_eq_eq]
    exact hkeys.eq_eq

end OrderTerm

theorem rowPrecedes_cons_iff {term : OrderTerm} {terms : List OrderTerm} {a b : Row} :
    RowPrecedes (term :: terms) a b ↔
      term.Precedes a b ∨ term.Ties a b ∧ RowPrecedes terms a b := by
  constructor
  · intro h
    cases h with
    | first h => exact .inl h
    | later ht h => exact .inr ⟨ht, h⟩
  · rintro (h | ⟨ht, h⟩)
    · exact .first h
    · exact .later ht h

/-- Comparing two rows tells which of them comes before the other. -/
theorem compareRows_eq_lt_iff {terms : List OrderTerm} {a b : Row} (h : a.SameTypes b) :
    compareRows terms a b = .lt ↔ RowPrecedes terms a b := by
  induction terms with
  | nil =>
    constructor
    · intro hlt
      cases hlt
    · intro hprecedes
      cases hprecedes
  | cons term terms ih =>
    rw [compareRows, Ordering.then_eq_lt, OrderTerm.compare_eq_lt_iff h,
      OrderTerm.compare_eq_eq_iff h, ih, rowPrecedes_cons_iff]

end RowFilter
