import RowFilter.Proofs.Evaluation.Membership
import RowFilter.Proofs.Evaluation.Searches
import RowFilter.Proofs.Text.Like
import RowFilter.Proofs.Text.Lowercase

/-!
What matches exactly, and whether it matches without regard to case. Values that are equal exactly
are equal. Texts are brought to lowercase, and there a match can be lost: LIKE counts the characters
of the lowercase, and one letter becomes two; the searches look for the lowercase of one text in that
of another, where a capital sigma may take another form.
-/

namespace RowFilter

/-! ## Texts -/

namespace Text

theorem standsFor_self (c : Char) : StandsFor c [c] := by
  unfold StandsFor
  split
  · exact List.cons_ne_nil _ _
  · rfl
  · rfl

/-- A text is a pattern of itself, also where it has the characters of patterns in it. -/
theorem cut_self (s : List Char) : Cut StandsFor s s := by
  induction s with
  | nil => exact cut_nil.mpr rfl
  | cons c s ih => exact cut_cons.mpr ⟨[c], s, rfl, standsFor_self c, ih⟩

/-- What a character of a pattern stands for, other than `_` for the letter that becomes two. -/
def StandsForLetters (c : Char) (block : List Char) : Prop :=
  StandsFor c block ∧ (c = '_' → block ≠ ['İ'])

theorem StandsForLetters.cut_foldCase {c : Char} {block : List Char}
    (h : StandsForLetters c block) : Cut StandsFor (lowerChar c) (foldCase block) := by
  obtain ⟨hstands, hletter⟩ := h
  unfold StandsFor at hstands
  split at hstands
  · have hlower : lowerChar '%' = ['%'] := rfl
    have hne : foldCase block ≠ [] := by
      have hle := length_le_length_foldCase block
      rw [ne_eq, ← List.length_eq_zero_iff] at hstands ⊢
      omega
    rw [hlower]
    exact cut_cons.mpr ⟨_, [], (List.append_nil _).symm, hne, cut_nil.mpr rfl⟩
  · have hlower : lowerChar '_' = ['_'] := rfl
    obtain ⟨c, rfl⟩ := List.length_eq_one_iff.mp hstands
    have hc : c ≠ 'İ' := by
      rintro rfl
      exact hletter rfl rfl
    have hone : (foldCase [c]).length = 1 := by
      rw [foldCase_cons, foldCase_nil, List.append_nil, length_lowerChar, if_neg hc]
    rw [hlower]
    exact cut_cons.mpr ⟨_, [], (List.append_nil _).symm, hone, cut_nil.mpr rfl⟩
  · -- a letter and its pattern have the same lowercase, whatever characters that has
    rw [hstands, foldCase_cons, foldCase_nil, List.append_nil]
    exact cut_self _

/-- A pattern that matches block by block matches in lowercase. -/
theorem like_of_cut {text pattern : List Char} (h : Cut StandsForLetters pattern text) :
    like text pattern false = true := by
  rw [(like_iff_cut text pattern false).2]
  show Cut StandsFor (foldCase pattern) (foldCase text)
  induction pattern generalizing text with
  | nil =>
    rw [cut_nil.mp h]
    exact cut_nil.mpr rfl
  | cons c pattern ih =>
    obtain ⟨block, rest, rfl, hblock, hrest⟩ := cut_cons.mp h
    rw [foldCase_cons, foldCase_append]
    exact cut_append.mpr ⟨_, _, rfl, hblock.cut_foldCase, ih hrest⟩

theorem like_dotted : like ['İ'] ['_'] true = true :=
  (like_iff_cut _ _ _).2.mpr ⟨[['İ']], rfl, .cons rfl .nil⟩

theorem not_like_dotted : like ['İ'] ['_'] false = false := by
  refine Bool.eq_false_iff.mpr fun h => ?_
  obtain ⟨block, rest, htext, hblock, hrest⟩ := cut_cons.mp ((like_iff_cut _ _ _).2.mp h)
  obtain rfl := cut_nil.mp hrest
  rw [List.append_nil] at htext
  rw [← htext] at hblock
  cases hblock

section

set_option maxRecDepth 100000

theorem isCased_A : isCased 'A' = true := by
  have htable : casedTable = _ := ofText_ofList _
  rw [isCased, htable]
  decide +kernel

theorem isCaseIgnorable_A : isCaseIgnorable 'A' = false := by
  have htable : caseIgnorableTable = _ := ofText_ofList _
  rw [isCaseIgnorable, htable]
  decide +kernel

end

end Text

/-! ## Values -/

theorem Text.compareChars_eq_iff {s t : List Char} : compareChars s t = .eq ↔ s = t := by
  rw [(compares_compareChars s t).eq_eq]
  refine List.map_inj_right fun a b hab => ?_
  exact Char.toNat_inj.mp (Int.ofNat.inj hab)

namespace Value

theorem compareSame_eq_of_exact {a b : Value} (h : compareSame true a b = some .eq) :
    compareSame false a b = some .eq := by
  cases a <;> cases b <;> try exact h
  case string.string s t =>
    have hst : s.toList = t.toList := Text.compareChars_eq_iff.mp (Option.some.inj h)
    show some (Text.compareFolded s.toList t.toList) = some .eq
    rw [hst, Text.compareFolded, Text.compareChars_eq_iff.mpr rfl]

/-- Values that are equal exactly are of one type, and equal. -/
theorem compare_eq_of_exact {a b : Value} (hb : b.isUndefined = false)
    (h : a.compare b true = .ok (some .eq)) : a.compare b false = .ok (some .eq) := by
  have htype : a.valueType = b.valueType := by
    by_contra hne
    rw [compare, if_pos ⟨rfl, hne⟩] at h
    cases h
  have hdefined : b.valueType ≠ .undefined := by
    intro hundefined
    cases b with
    | undefined => cases hb
    | _ => cases hundefined
  rw [compare_of_valueType_eq _ htype hdefined] at h ⊢
  rw [compareSame_eq_of_exact (Except.ok.inj h)]

theorem matches?_of_exact {a b : Value} (hb : b.isUndefined = false)
    (h : a.matches? b true = true) : a.matches? b false = true := by
  rw [matches?] at h
  split at h
  · next hcompare =>
    rw [matches?, compare_eq_of_exact hb hcompare]
  · cases h

end Value

/-! ## Expressions -/

namespace Expression

variable {clock : Clock} {row : Row} {x y : Expression}

theorem equal_of_equalExact
    (h : (operator .equalExact x y).evaluate clock row = .ok (.boolean true)) :
    (operator .equal x y).evaluate clock row = .ok (.boolean true) := by
  rw [evaluate_comparison rfl] at h ⊢
  obtain ⟨a, ha, h⟩ := bind_eq_ok_iff.mp h
  obtain ⟨b, hb, h⟩ := bind_eq_ok_iff.mp h
  rw [ha, hb, ok_bind, ok_bind]
  cases hundefined : a.isUndefined || b.isUndefined with
  | true =>
    rw [Operator.apply_of_isUndefined _ (Bool.or_eq_true_iff.mp hundefined)] at h
    cases h
  | false =>
    obtain ⟨ha', hb'⟩ := Bool.or_eq_false_iff.mp hundefined
    have hexact : Operator.equalExact.apply a b = _ := Operator.equality_apply true ha' hb'
    have hordinary : Operator.equal.apply a b = _ := Operator.equality_apply false ha' hb'
    rw [hexact] at h
    obtain ⟨order, horder, h⟩ := bind_eq_ok_iff.mp h
    obtain rfl : order = some .eq := by simpa using h
    rw [hordinary, Value.compare_eq_of_exact hb' horder]
    rfl

theorem isAmong_of_exact {v : Value} {items : List Expression}
    (h : isAmong clock row v true items = .ok true) : isAmong clock row v false items = .ok true := by
  induction items with
  | nil => cases h
  | cons e rest ih =>
    rw [isAmong] at h ⊢
    obtain ⟨w, hw, h⟩ := bind_eq_ok_iff.mp h
    rw [hw, ok_bind]
    by_cases hfound : (!w.isUndefined && v.matches? w false) = true
    · rw [if_pos hfound]
      rfl
    · rw [if_neg hfound]
      have hnot : ¬ (!w.isUndefined && v.matches? w true) = true := by
        rw [Bool.and_eq_true, Bool.not_eq_true'] at hfound ⊢
        exact fun hexact => hfound ⟨hexact.1, Value.matches?_of_exact hexact.1 hexact.2⟩
      rw [if_neg hnot] at h
      exact ih h

theorem inList_of_exact {items : List Expression}
    (h : (inList x items false true).evaluate clock row = .ok (.boolean true)) :
    (inList x items false false).evaluate clock row = .ok (.boolean true) := by
  obtain ⟨v, hx, hv, hfound⟩ := found_of_inList h
  rw [evaluate_inList hx hv, isAmong_of_exact hfound]
  rfl

theorem evaluate_like {s p : String} (hx : x.evaluate clock row = .ok (.string s))
    (hy : y.evaluate clock row = .ok (.string p)) (exact : Bool) :
    (operator (.ofLike false exact) x y).evaluate clock row =
      .ok (.boolean (Text.like s.toList p.toList exact)) := by
  have hlogical : (Operator.ofLike false exact).isLogical = false := by cases exact <;> rfl
  have hlike : (Operator.ofLike false exact).apply (.string s) (.string p) =
      .ok (.boolean (Text.like s.toList p.toList exact != false)) := by cases exact <;> rfl
  rw [Bool.bne_false] at hlike
  rw [evaluate, hlogical, hx, hy]
  exact hlike

/-- LIKE is true of texts only. -/
theorem texts_of_likeExact
    (h : (operator .likeExact x y).evaluate clock row = .ok (.boolean true)) :
    ∃ s p, x.evaluate clock row = .ok (.string s) ∧ y.evaluate clock row = .ok (.string p) := by
  rw [evaluate] at h
  obtain ⟨a, ha, h⟩ := bind_eq_ok_iff.mp h
  obtain ⟨b, hb, h⟩ := bind_eq_ok_iff.mp h
  rw [ha, hb]
  cases a <;> cases b <;> first | exact ⟨_, _, rfl, rfl⟩ | cases h

/-- What is true of exact matching without regard to case. Equality and membership hold where they
hold exactly. LIKE holds if the text can be cut into blocks that the pattern stands for with no `_` for
the letter that becomes two in lowercase. A search still finds a text that it found if the capital
sigmas of that text keep the form that they have by themselves; at the beginning and at the end of
the text that is searched, only then. -/
theorem ordinary_match_of_exact (clock : Clock) (row : Row) :
    (∀ x y, (operator .equalExact x y).evaluate clock row = .ok (.boolean true) →
      (operator .equal x y).evaluate clock row = .ok (.boolean true)) ∧
    (∀ x items, (inList x items false true).evaluate clock row = .ok (.boolean true) →
      (inList x items false false).evaluate clock row = .ok (.boolean true)) ∧
    (∀ x y, (operator .likeExact x y).evaluate clock row = .ok (.boolean true) →
      ∃ s p, x.evaluate clock row = .ok (.string s) ∧ y.evaluate clock row = .ok (.string p) ∧
        (Text.Cut Text.StandsForLetters p.toList s.toList →
          (operator .like x y).evaluate clock row = .ok (.boolean true))) ∧
    ∀ (s t : String) (off on : List Value), Switch false off → Switch true on →
      (Function.contains.Returns (.string s :: .string t :: off) (.boolean true) →
        (∃ u v, s.toList = u ++ t.toList ++ v ∧ Text.SameSigmas u.reverse v [] [] t.toList) →
        Function.contains.Returns (.string s :: .string t :: on) (.boolean true)) ∧
      (Function.startsWith.Returns (.string s :: .string t :: off) (.boolean true) →
        ∃ v, s.toList = t.toList ++ v ∧
          (Function.startsWith.Returns (.string s :: .string t :: on) (.boolean true) ↔
            Text.SameSigmas [] v [] [] t.toList)) ∧
      (Function.endsWith.Returns (.string s :: .string t :: off) (.boolean true) →
        ∃ u, s.toList = u ++ t.toList ∧
          (Function.endsWith.Returns (.string s :: .string t :: on) (.boolean true) ↔
            Text.SameSigmas u.reverse [] [] [] t.toList)) := by
  refine ⟨fun x y => equal_of_equalExact, fun x items => inList_of_exact, fun x y h => ?_,
    fun s t off on hoff hon => ⟨fun _ h => ?_, fun h => ?_, fun h => ?_⟩⟩
  · obtain ⟨s, p, hx, hy⟩ := texts_of_likeExact h
    refine ⟨s, p, hx, hy, fun hcut => ?_⟩
    have hlike := evaluate_like hx hy false
    rwa [Text.like_of_cut hcut] at hlike
  · obtain ⟨u, v, hs, hsigmas⟩ := h
    rw [Function.returns_contains_iff hon, hs]
    exact Text.lower_infix hsigmas
  · obtain ⟨v, hs⟩ : t.toList <+: s.toList := (Function.returns_startsWith_iff hoff).mp h
    refine ⟨v, hs.symm, ?_⟩
    rw [Function.returns_startsWith_iff hon, ← hs]
    exact Text.lower_prefix_iff
  · obtain ⟨u, hs⟩ : t.toList <:+ s.toList := (Function.returns_endsWith_iff hoff).mp h
    refine ⟨u, hs.symm, ?_⟩
    rw [Function.returns_endsWith_iff hon, ← hs]
    exact Text.lower_suffix_iff

/-- Exact matches of texts with a letter that is not ASCII, which are matches as well. -/
theorem ordinary_match_of_exact_sharp_s :
    (operator .equal (value (.string "ß")) (value (.string "ß"))).evaluate .millennium ⟨0, []⟩ =
        .ok (.boolean true) ∧
      (inList (value (.string "ß")) [value .undefined, value (.string "ß")] false false).evaluate
        .millennium ⟨0, []⟩ = .ok (.boolean true) ∧
      (operator .like (value (.string "aß")) (value (.string "%_"))).evaluate .millennium ⟨0, []⟩ =
        .ok (.boolean true) ∧
      Function.contains.Returns [.string "ßaß", .string "ß", .boolean true] (.boolean true) ∧
      Function.startsWith.Returns [.string "ßaß", .string "ß", .boolean true] (.boolean true) ∧
      Function.endsWith.Returns [.string "ßaß", .string "ß", .boolean true] (.boolean true) := by
  obtain ⟨hequal, hinList, hlike, hsearch⟩ := ordinary_match_of_exact .millennium ⟨0, []⟩
  obtain ⟨hcontains, hstartsWith, hendsWith⟩ :=
    hsearch "ßaß" "ß" [] [.boolean true] .absent (.boolean true)
  have hrun : Text.StandsFor '%' ['a'] := List.cons_ne_nil _ _
  have hone : Text.StandsFor '_' ['ß'] := rfl
  have hcut : Text.Cut Text.StandsForLetters ['%', '_'] ['a', 'ß'] :=
    ⟨[['a'], ['ß']], rfl, .cons ⟨hrun, by decide⟩ (.cons ⟨hone, by decide⟩ .nil)⟩
  have hlikeExact : Text.like "aß".toList "%_".toList true = true :=
    (Text.like_iff_cut _ _ _).2.mpr ⟨[['a'], ['ß']], rfl, .cons hrun (.cons hone .nil)⟩
  have hsigmas (before after : List Char) : Text.SameSigmas before after [] [] "ß".toList :=
    Text.sameSigmas_of_notMem (by decide)
  refine ⟨hequal _ _ (by decide +kernel), hinList _ _ (by decide +kernel), ?_, ?_, ?_, ?_⟩
  · have hexact : (operator .likeExact (value (.string "aß")) (value (.string "%_"))).evaluate
        .millennium ⟨0, []⟩ = .ok (.boolean (Text.like "aß".toList "%_".toList true)) :=
      evaluate_like rfl rfl true
    rw [hlikeExact] at hexact
    obtain ⟨s, p, hs, hp, hordinary⟩ := hlike _ _ hexact
    obtain rfl := Value.string.inj (Except.ok.inj hs)
    obtain rfl := Value.string.inj (Except.ok.inj hp)
    exact hordinary hcut
  · refine hcontains ?_ ⟨[], ['a', 'ß'], rfl, hsigmas _ _⟩
    exact (Function.returns_contains_iff .absent).mpr ⟨[], ['a', 'ß'], rfl⟩
  · obtain ⟨v, -, hiff⟩ := hstartsWith
      ((Function.returns_startsWith_iff .absent).mpr ⟨['a', 'ß'], rfl⟩)
    exact hiff.mpr (hsigmas _ _)
  · obtain ⟨u, -, hiff⟩ := hendsWith
      ((Function.returns_endsWith_iff .absent).mpr ⟨['ß', 'a'], rfl⟩)
    exact hiff.mpr (hsigmas _ _)

/-- The capital I with a dot is one character for LIKE BINARY, but two for LIKE; and a capital sigma
at the end of a word has another form than by itself. -/
theorem exact_match_lost :
    (operator .likeExact (value (.string "İ")) (value (.string "_"))).evaluate .millennium ⟨0, []⟩ =
        .ok (.boolean true) ∧
      (operator .like (value (.string "İ")) (value (.string "_"))).evaluate .millennium ⟨0, []⟩ =
        .ok (.boolean false) ∧
      Function.endsWith.Returns [.string "AΣ", .string "Σ"] (.boolean true) ∧
      ¬ Function.endsWith.Returns [.string "AΣ", .string "Σ", .boolean true] (.boolean true) := by
  have hlike (exact : Bool) : (operator (.ofLike false exact) (value (.string "İ"))
      (value (.string "_"))).evaluate .millennium ⟨0, []⟩ =
        .ok (.boolean (Text.like "İ".toList "_".toList exact)) := evaluate_like rfl rfl exact
  refine ⟨?_, ?_, ?_, fun h => ?_⟩
  · rw [← show Text.like "İ".toList "_".toList true = true from Text.like_dotted]
    exact hlike true
  · rw [← show Text.like "İ".toList "_".toList false = false from Text.not_like_dotted]
    exact hlike false
  · exact (Function.returns_endsWith_iff .absent).mpr ⟨['A'], rfl⟩
  · have hback := (Function.returns_endsWith_iff (.boolean true)).mp h
    have hsigmas := (Text.lower_suffix_iff (u := ['A']) (t := ['Σ'])).mp hback
    have hsame : Text.isFinalSigma ['A'] [] = Text.isFinalSigma [] [] := hsigmas [] [] rfl
    rw [Text.isFinalSigma, Text.meetsCased_cons Text.isCaseIgnorable_A, Text.isCased_A] at hsame
    cases hsame

end Expression

end RowFilter
