import RowFilter.Options

/-!
Options that say of no table twice which columns identify its rows. What is said of a table can then
be listed in any order, and saying it anew keeps it so.
-/

namespace RowFilter

/-- A list with one more element, cut at one of its elements. -/
theorem append_singleton_eq_append_cons {α : Type} {l before after : List α} {a b : α} :
    l ++ [a] = before ++ b :: after ↔
      (after = [] ∧ l = before ∧ a = b) ∨ ∃ rest, after = rest ++ [a] ∧ l = before ++ b :: rest := by
  constructor
  · intro h
    rcases List.eq_nil_or_concat after with rfl | ⟨rest, c, rfl⟩
    · obtain ⟨hl, ha⟩ := List.append_inj' h rfl
      exact .inl ⟨rfl, hl, List.singleton_inj.mp ha⟩
    · rw [List.concat_eq_append, ← List.cons_append, ← List.append_assoc] at h
      obtain ⟨hl, ha⟩ := List.append_inj' h rfl
      rw [List.singleton_inj.mp ha, List.concat_eq_append]
      exact .inr ⟨rest, rfl, hl⟩
  · rintro (⟨rfl, rfl, rfl⟩ | ⟨rest, rfl, rfl⟩)
    · rfl
    · simp

namespace Text

/-- Names that are the same match the same names. -/
theorem sameName_congr {a b : String} (h : sameName a b = true) (c : String) :
    sameName c a = sameName c b := by
  rw [sameName, sameName, sameName_iff.mp h]

/-- Among entries with names of their own the one with a name is found wherever it stands. -/
theorem find?_eq_some_iff {α : Type} {entries : List α} {f : α → String} {name : String} {entry : α}
    (hd : entries.Pairwise fun a b => sameName (f a) (f b) = false) :
    entries.find? (fun e => sameName (f e) name) = some entry ↔
      entry ∈ entries ∧ sameName (f entry) name = true := by
  constructor
  · intro h
    have hname := List.find?_some h
    exact ⟨List.mem_of_find?_eq_some h, hname⟩
  · rintro ⟨hmem, hname⟩
    induction entries with
    | nil => cases hmem
    | cons first rest ih =>
      obtain ⟨hfirst, hrest⟩ := List.pairwise_cons.mp hd
      rcases List.mem_cons.mp hmem with rfl | hmem
      · rw [List.find?_cons, hname]
      · -- the first entry has another name than this one
        have hother : sameName (f first) name = false := by
          rw [sameName_congr (by rw [sameName_comm]; exact hname), hfirst entry hmem]
        rw [List.find?_cons, hother]
        exact ih hrest hmem

end Text

namespace Options

/-- No two entries are about the same table. -/
def Distinct (o : Options) : Prop :=
  o.idFields.Pairwise fun a b => Text.sameName a.1 b.1 = false

/-- The same options, but the entries about tables may come in another order. -/
structure Reordered (o o' : Options) : Prop where
  quiet : o.quiet = o'.quiet
  trackSignalIds : o.trackSignalIds = o'.trackSignalIds
  trackRows : o.trackRows = o'.trackRows
  primaryTable : o.primaryTable = o'.primaryTable
  idFields : o.idFields.Perm o'.idFields

variable {o o' : Options}

theorem Reordered.refl (o : Options) : o.Reordered o := ⟨rfl, rfl, rfl, rfl, .refl _⟩

theorem Reordered.distinct (h : o.Reordered o') (hd : o.Distinct) : o'.Distinct := by
  refine (h.idFields.pairwise_iff fun {a b} hab => ?_).mp hd
  rw [Text.sameName_comm]
  exact hab

/-- The order of distinct entries makes no difference. -/
theorem Reordered.idFieldsOf (h : o.Reordered o') (hd : o.Distinct) (table : String) :
    o.idFieldsOf table = o'.idFieldsOf table := by
  have hfind : o.idFields.find? (fun e => Text.sameName e.1 table) =
      o'.idFields.find? fun e => Text.sameName e.1 table := by
    apply Option.ext
    intro entry
    rw [Text.find?_eq_some_iff hd, Text.find?_eq_some_iff (h.distinct hd), h.idFields.mem_iff]
  rw [Options.idFieldsOf, Options.idFieldsOf, hfind]

/-- Saying which columns identify the rows of a table replaces what was said of it before. -/
theorem Distinct.setIdFields (hd : o.Distinct) (table : String) (fields : IdFields) :
    (o.setIdFields table fields).Distinct := by
  refine List.pairwise_cons.mpr ⟨fun entry hentry => ?_, hd.filter _⟩
  have hother : (!Text.sameName entry.1 table) = true := (List.mem_filter.mp hentry).2
  rw [Text.sameName_comm]
  simpa using hother

end Options

end RowFilter
