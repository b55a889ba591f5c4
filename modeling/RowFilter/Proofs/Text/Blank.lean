import RowFilter.Text.Blank

/-!
Blanks around a text. Trimming takes away the blanks at both ends and nothing else.
-/

namespace RowFilter.Text

/-- Consists of blanks. -/
def AreBlanks (s : List Char) : Prop := ∀ c ∈ s, isBlank c = true

theorem trimLeft_append {front : List Char} (h : AreBlanks front) (s : List Char) :
    trimLeft (front ++ s) = trimLeft s :=
  List.dropWhile_append_of_pos h

theorem trimRight_append {back : List Char} (h : AreBlanks back) (s : List Char) :
    trimRight (s ++ back) = trimRight s := by
  have hreverse : ∀ c ∈ back.reverse, isBlank c = true := fun c hc => h c (List.mem_reverse.mp hc)
  rw [trimRight, trimRight, List.reverse_append, List.dropWhile_append_of_pos hreverse]

theorem trimLeft_of_blanks {s : List Char} (h : AreBlanks s) : trimLeft s = [] := by
  have happend := trimLeft_append h []
  rwa [List.append_nil] at happend

/-- Blanks around a text make no difference to it. -/
theorem trim_append {front back : List Char} (hfront : AreBlanks front) (hback : AreBlanks back)
    (s : List Char) : trim (front ++ (s ++ back)) = trim s := by
  rw [trim, trim, trimLeft_append hfront]
  by_cases hs : trimLeft s = []
  · -- all of the text is blank
    have hnone : trimLeft (s ++ back) = [] := by
      rw [trimLeft, List.dropWhile_append, ← trimLeft, hs]
      exact trimLeft_of_blanks hback
    rw [hnone, hs]
  · have hkept : trimLeft (s ++ back) = trimLeft s ++ back := by
      rw [trimLeft, List.dropWhile_append, ← trimLeft, if_neg]
      exact fun hempty => hs (List.isEmpty_iff.mp hempty)
    rw [hkept, trimRight_append hback]

/-- A text is what is left of it when it is trimmed, with blanks around that. -/
theorem exists_eq_append_trim (s : List Char) :
    ∃ front back, AreBlanks front ∧ AreBlanks back ∧ s = front ++ (trim s ++ back) := by
  have htaken (t : List Char) : AreBlanks (t.takeWhile isBlank) :=
    List.all_eq_true.mp List.all_takeWhile
  refine ⟨s.takeWhile isBlank, ((trimLeft s).reverse.takeWhile isBlank).reverse, htaken s, ?_, ?_⟩
  · exact fun c hc => htaken _ c (List.mem_reverse.mp hc)
  · have hright : trim s ++ ((trimLeft s).reverse.takeWhile isBlank).reverse = trimLeft s := by
      rw [trim, trimRight, ← List.reverse_append, List.takeWhile_append_dropWhile,
        List.reverse_reverse]
    rw [hright, trimLeft, List.takeWhile_append_dropWhile]

theorem trim_of_forall_not_blank {s : List Char} (h : ∀ c ∈ s, isBlank c = false) : trim s = s := by
  have hnone (t : List Char) (ht : ∀ c ∈ t, isBlank c = false) : t.dropWhile isBlank = t := by
    cases t with
    | nil => rfl
    | cons c t =>
      apply List.dropWhile_cons_of_neg
      rw [ht c List.mem_cons_self]
      exact Bool.false_ne_true
  have hreverse : ∀ c ∈ s.reverse, isBlank c = false := fun c hc => h c (List.mem_reverse.mp hc)
  rw [trim, trimRight, trimLeft, hnone s h, hnone s.reverse hreverse, List.reverse_reverse]

end RowFilter.Text
