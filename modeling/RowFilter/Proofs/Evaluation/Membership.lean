import RowFilter.Proofs.Evaluation.Converse
import RowFilter.Proofs.Evaluation.Monotone

/-!
Membership in a list beside the disjunction of the equalities with its items. A list passes over the
items that cannot be compared and those that are undefined, where a disjunction fails or is not
known; where the disjunction has a value they say the same.
-/

namespace RowFilter

/-! ## Disjunctions -/

/-- The comparison by which a value is found in a list. -/
def Operator.equality (exact : Bool) : Operator := if exact then equalExact else equal

/-- A disjunction of the equalities of `x` with the items of a list, bracketed in any way. -/
inductive Disjunction (exact : Bool) (x : Expression) : List Expression → Expression → Prop where
  | equality (a : Expression) : Disjunction exact x [a] (.operator (.equality exact) x a)
  | or {items items' : List Expression} {d d' : Expression} (h : Disjunction exact x items d)
      (h' : Disjunction exact x items' d') :
      Disjunction exact x (items ++ items') (.operator .or d d')

/-- The disjunction for the items `a` and `rest` as it is read, nested to the left. -/
def Expression.anyEqual (exact : Bool) (x a : Expression) (rest : List Expression) : Expression :=
  rest.foldl (fun d b => .operator .or d (.operator (.equality exact) x b))
    (.operator (.equality exact) x a)

theorem Disjunction.anyEqual (exact : Bool) (x a : Expression) (rest : List Expression) :
    Disjunction exact x (a :: rest) (Expression.anyEqual exact x a rest) := by
  have hfold (items : List Expression) (d : Expression) (h : Disjunction exact x items d) :
      Disjunction exact x (items ++ rest)
        (rest.foldl (fun d b => .operator .or d (.operator (.equality exact) x b)) d) := by
    induction rest generalizing items d with
    | nil => rwa [List.append_nil]
    | cons b rest ih =>
      have hnext := ih (items ++ [b]) _ (h.or (.equality b))
      rwa [List.append_assoc] at hnext
  exact hfold [a] _ (.equality a)

/-- What the value of a disjunction says of whether its list has an item that is looked for. Where
it fails it says nothing, unless the items are compared exactly: then only an item fails, and the
search in the list fails with it. -/
inductive Decides (exact : Bool) : Except Error Value → Except Error Bool → Prop where
  | ok (p : Truth) : Decides exact (.ok p.toValue) (.ok (p == some true))
  | error {e : Error} {found : Except Error Bool} (h : exact = true → found = .error e) :
      Decides exact (.error e) found

theorem Truth.toValue_injective {p q : Truth} (h : p.toValue = q.toValue) : p = q := by
  cases p <;> cases q <;> simp_all [toValue]

namespace Decides

variable {exact : Bool} {found : Except Error Bool}

theorem found_of_true (h : Decides exact (.ok (.boolean true)) found) : found = .ok true := by
  generalize hresult : Except.ok (Value.boolean true) = result at h
  cases h with
  | ok p =>
    have hp : Truth.toValue (some true) = p.toValue := Except.ok.inj hresult
    rw [← Truth.toValue_injective hp]
    rfl
  | error => cases hresult

theorem true_of_found {w : Value} (h : Decides exact (.ok w) (.ok true)) : w = .boolean true := by
  generalize hresult : Except.ok w = result at h
  generalize hfound : Except.ok true = found at h
  cases h with
  | ok p =>
    have hp : p = some true := eq_of_beq (Except.ok.inj hfound).symm
    rw [Except.ok.inj hresult, hp]
    rfl
  | error => cases hresult

end Decides

/-! ## The search in a list -/

/-- Defined values can always be compared exactly. -/
theorem Value.exists_compare_exact (a : Value) {b : Value} (hb : b.isUndefined = false) :
    ∃ order, a.compare b true = .ok order := by
  by_cases htype : a.valueType = b.valueType
  · have hdefined : b.valueType ≠ .undefined := by
      intro hundefined
      cases b with
      | undefined => cases hb
      | _ => cases hundefined
    exact ⟨_, compare_of_valueType_eq true htype hdefined⟩
  · exact ⟨none, by rw [compare, if_pos ⟨rfl, htype⟩]⟩

namespace Operator

theorem isComparison_equality (exact : Bool) : (equality exact).isComparison = true := by
  cases exact <;> rfl

theorem equality_apply {a b : Value} (exact : Bool) (ha : a.isUndefined = false)
    (hb : b.isUndefined = false) :
    (equality exact).apply a b =
      a.compare b exact >>= fun order => .ok (.boolean (order == some .eq)) := by
  have hdefined : ¬ (a.isUndefined || b.isUndefined) = true := by
    rw [ha, hb]
    exact Bool.false_ne_true
  rw [apply, if_neg hdefined]
  cases exact <;> rfl

theorem truth_toValue (op : Operator) (p : Truth) : op.truth p.toValue = .ok p := by
  cases p <;> rfl

end Operator

namespace Expression

variable {clock : Clock} {row : Row} {v : Value} {exact : Bool} {x : Expression}

/-- One list after the other is searched as long as the item is not found. -/
theorem isAmong_append (items items' : List Expression) :
    isAmong clock row v exact (items ++ items') =
      isAmong clock row v exact items >>= fun found =>
        if found then .ok true else isAmong clock row v exact items' := by
  induction items with
  | nil => rfl
  | cons a rest ih =>
    rw [List.cons_append, isAmong, isAmong]
    cases a.evaluate clock row with
    | error e => rfl
    | ok w =>
      rw [ok_bind, ok_bind]
      by_cases hfound : (!w.isUndefined && v.matches? w exact) = true
      · rw [if_pos hfound, if_pos hfound]
        rfl
      · rw [if_neg hfound, if_neg hfound, ih]

theorem decides_equality (a : Expression) (hx : x.evaluate clock row = .ok v)
    (hv : v.isUndefined = false) :
    Decides exact ((operator (.equality exact) x a).evaluate clock row)
      (isAmong clock row v exact [a]) := by
  rw [evaluate_comparison (Operator.isComparison_equality exact), hx, ok_bind, isAmong]
  cases a.evaluate clock row with
  | error e => exact .error fun _ => rfl
  | ok w =>
    rw [ok_bind, ok_bind]
    cases hw : w.isUndefined with
    | true =>
      rw [Operator.apply_of_isUndefined _ (.inr hw)]
      exact .ok none
    | false =>
      rw [Operator.equality_apply exact hv hw, Value.matches?]
      cases hcompare : v.compare w exact with
      | error e =>
        -- such an item is passed over in the list; exactly, there is none
        refine .error fun hexact => ?_
        subst hexact
        obtain ⟨order, horder⟩ := v.exists_compare_exact hw
        rw [hcompare] at horder
        cases horder
      | ok order =>
        rw [ok_bind]
        rcases order with _ | _ | _ | _
        · exact .ok (some false)
        · exact .ok (some false)
        · exact .ok (some true)
        · exact .ok (some false)

theorem decides_or {d d' : Expression} {found found' : Except Error Bool}
    (h : Decides exact (d.evaluate clock row) found)
    (h' : Decides exact (d'.evaluate clock row) found') :
    Decides exact ((operator .or d d').evaluate clock row)
      (found >>= fun b => if b then .ok true else found') := by
  have hlogical : Operator.or.isLogical = true := rfl
  rw [evaluate, if_pos hlogical]
  generalize d.evaluate clock row = result at h ⊢
  generalize d'.evaluate clock row = result' at h' ⊢
  cases h with
  | error h =>
    refine .error fun hexact => ?_
    rw [h hexact]
    rfl
  | ok p =>
    rw [ok_bind, Operator.truth_toValue, ok_bind, ok_bind]
    by_cases hp : p = some true
    · subst hp
      exact .ok (some true)
    · have hp' : ¬ (p == some true) = true := fun heq => hp (eq_of_beq heq)
      rw [if_neg hp', Operator.isSettledBy, if_neg hp']
      cases h' with
      | error h' => exact .error h'
      | ok q =>
        rw [ok_bind, Operator.truth_toValue, ok_bind]
        have hor : (p.or q == some true) = (q == some true) := by
          revert hp
          rcases p with _ | _ | _ <;> rcases q with _ | _ | _ <;> simp [Truth.or]
        rw [← hor]
        exact .ok (p.or q)

end Expression

namespace Disjunction

variable {clock : Clock} {row : Row} {exact : Bool} {x d : Expression} {items : List Expression}

/-- A disjunction decides on the search for a defined value. -/
theorem decides (h : Disjunction exact x items d) {v : Value} (hx : x.evaluate clock row = .ok v)
    (hv : v.isUndefined = false) :
    Decides exact (d.evaluate clock row) (Expression.isAmong clock row v exact items) := by
  induction h with
  | equality a => exact Expression.decides_equality a hx hv
  | or _ _ ih ih' =>
    rw [Expression.isAmong_append]
    exact Expression.decides_or ih ih'

/-- Without a defined value to look for, a disjunction is undefined or fails. -/
theorem eq_undefined (h : Disjunction exact x items d)
    (hx : ∀ v, x.evaluate clock row = .ok v → v = .undefined) {w : Value}
    (hw : d.evaluate clock row = .ok w) : w = .undefined := by
  induction h generalizing w with
  | equality a =>
    rw [Expression.evaluate_comparison (Operator.isComparison_equality exact)] at hw
    obtain ⟨v, hv, hw⟩ := bind_eq_ok_iff.mp hw
    obtain ⟨u, -, hw⟩ := bind_eq_ok_iff.mp hw
    obtain rfl := hx v hv
    rw [Operator.apply_of_isUndefined _ (.inl rfl)] at hw
    exact (Except.ok.inj hw).symm
  | or _ _ ih ih' =>
    obtain ⟨a, p, ha, hp, hw⟩ := Expression.evaluate_logical_eq_ok rfl hw
    obtain rfl := ih ha
    obtain rfl := Except.ok.inj hp
    rcases hw with ⟨hsettled, -⟩ | ⟨b, q, hb, hq, rfl⟩
    · cases hsettled
    · obtain rfl := ih' hb
      obtain rfl := Except.ok.inj hq
      rfl

end Disjunction

/-! ## Membership -/

namespace Expression

variable {clock : Clock} {row : Row} {x : Expression} {items : List Expression}

/-- What is looked for fails, is undefined or is a defined value. -/
theorem evaluate_cases (clock : Clock) (row : Row) (x : Expression) :
    (∃ e, x.evaluate clock row = .error e) ∨ x.evaluate clock row = .ok .undefined ∨
      ∃ v, x.evaluate clock row = .ok v ∧ v.isUndefined = false := by
  cases x.evaluate clock row with
  | error e => exact .inl ⟨e, rfl⟩
  | ok v =>
    cases v with
    | undefined => exact .inr (.inl rfl)
    | _ => exact .inr (.inr ⟨_, rfl, rfl⟩)

/-- For a defined value membership is what the search finds, or its opposite. -/
theorem evaluate_inList {v : Value} (hx : x.evaluate clock row = .ok v)
    (hv : v.isUndefined = false) (items : List Expression) (negated exact : Bool) :
    (inList x items negated exact).evaluate clock row =
      isAmong clock row v exact items >>= fun found => .ok (.boolean (found != negated)) := by
  rw [evaluate, hx, ok_bind]
  cases v with
  | undefined => cases hv
  | _ => rfl

/-- An undefined value is in no list, nor is it out of one. -/
theorem evaluate_inList_of_undefined (hx : x.evaluate clock row = .ok .undefined)
    (items : List Expression) (negated exact : Bool) :
    (inList x items negated exact).evaluate clock row = .ok .undefined := by
  rw [evaluate, hx, ok_bind]
  rfl

theorem evaluate_inList_of_error {e : Error} (hx : x.evaluate clock row = .error e)
    (items : List Expression) (negated exact : Bool) :
    (inList x items negated exact).evaluate clock row = .error e := by
  rw [evaluate, hx]
  rfl

/-- Membership holds of a defined value that is found. -/
theorem found_of_inList {exact : Bool}
    (h : (inList x items false exact).evaluate clock row = .ok (.boolean true)) :
    ∃ v, x.evaluate clock row = .ok v ∧ v.isUndefined = false ∧
      isAmong clock row v exact items = .ok true := by
  rcases evaluate_cases clock row x with ⟨e, hx⟩ | hx | ⟨v, hx, hv⟩
  · rw [evaluate_inList_of_error hx] at h
    cases h
  · rw [evaluate_inList_of_undefined hx] at h
    cases h
  · rw [evaluate_inList hx hv] at h
    obtain ⟨found, hfound, h⟩ := bind_eq_ok_iff.mp h
    cases found with
    | true => exact ⟨v, hx, hv, hfound⟩
    | false => cases h

/-- Whatever is true by a disjunction is true by membership. -/
theorem inList_of_disjunction {exact : Bool} {d : Expression} (hd : Disjunction exact x items d)
    (h : d.evaluate clock row = .ok (.boolean true)) :
    (inList x items false exact).evaluate clock row = .ok (.boolean true) := by
  rcases evaluate_cases clock row x with ⟨e, hx⟩ | hx | ⟨v, hx, hv⟩
  · have hundefined : ∀ v, x.evaluate clock row = .ok v → v = .undefined := by
      intro v hv
      cases hx.symm.trans hv
    cases hd.eq_undefined hundefined h
  · have hundefined : ∀ v, x.evaluate clock row = .ok v → v = .undefined := by
      intro v hv
      exact (Except.ok.inj (hx.symm.trans hv)).symm
    cases hd.eq_undefined hundefined h
  · have hdecides := hd.decides hx hv
    rw [h] at hdecides
    rw [evaluate_inList hx hv, hdecides.found_of_true]
    rfl

/-- Where a disjunction has a value, it is true if membership is. -/
theorem disjunction_of_inList {exact : Bool} {d : Expression} {w : Value}
    (hd : Disjunction exact x items d) (hw : d.evaluate clock row = .ok w)
    (h : (inList x items false exact).evaluate clock row = .ok (.boolean true)) :
    d.evaluate clock row = .ok (.boolean true) := by
  obtain ⟨v, hx, hv, hfound⟩ := found_of_inList h
  have hdecides := hd.decides hx hv
  rw [hfound, hw] at hdecides
  rw [hw, hdecides.true_of_found]

/-- In exact comparison a disjunction has a value wherever membership does. -/
theorem exists_of_inList_exact {d : Expression} (hd : Disjunction true x items d)
    (h : (inList x items false true).evaluate clock row = .ok (.boolean true)) :
    ∃ w, d.evaluate clock row = .ok w := by
  obtain ⟨v, hx, hv, hfound⟩ := found_of_inList h
  have hdecides := hd.decides hx hv
  rw [hfound] at hdecides
  generalize hresult : d.evaluate clock row = result at hdecides ⊢
  generalize hfound' : Except.ok true = found at hdecides
  cases hdecides with
  | ok p => exact ⟨_, rfl⟩
  | error hfails =>
    rw [hfails rfl] at hfound'
    cases hfound'

/-- The opposite of membership has the opposite truth, or fails as membership does. -/
theorem inList_negated (x : Expression) (items : List Expression) (exact : Bool) :
    (∃ p : Truth, (inList x items false exact).evaluate clock row = .ok p.toValue ∧
      (inList x items true exact).evaluate clock row = .ok (Truth.toValue (p.map (!·)))) ∨
    ∃ e, (inList x items false exact).evaluate clock row = .error e ∧
      (inList x items true exact).evaluate clock row = .error e := by
  rcases evaluate_cases clock row x with ⟨e, hx⟩ | hx | ⟨v, hx, hv⟩
  · right
    exact ⟨e, evaluate_inList_of_error hx _ _ _, evaluate_inList_of_error hx _ _ _⟩
  · left
    exact ⟨none, evaluate_inList_of_undefined hx _ _ _, evaluate_inList_of_undefined hx _ _ _⟩
  · rw [evaluate_inList hx hv, evaluate_inList hx hv]
    cases isAmong clock row v exact items with
    | error e => exact .inr ⟨e, rfl, rfl⟩
    | ok found =>
      left
      refine ⟨some found, ?_, ?_⟩
      · rw [ok_bind, Bool.bne_false]
        rfl
      · rw [ok_bind, Bool.bne_true]
        rfl

/-- Membership in a list agrees with the disjunction of the equalities with its items, in whatever
way that is bracketed. It is true where the disjunction is, and where it is true the disjunction is
true or fails; compared exactly, either is true where the other is. The opposite of membership has
the opposite truth value, unknown for an unknown one, and fails where membership fails. -/
theorem inList_agrees_with_disjunction (clock : Clock) (row : Row) (x : Expression)
    (items : List Expression) :
    (∀ d, Disjunction false x items d →
      (d.evaluate clock row = .ok (.boolean true) →
        (inList x items false false).evaluate clock row = .ok (.boolean true)) ∧
      ((inList x items false false).evaluate clock row = .ok (.boolean true) →
        (∃ w, d.evaluate clock row = .ok w) → d.evaluate clock row = .ok (.boolean true))) ∧
    (∀ d, Disjunction true x items d →
      ((inList x items false true).evaluate clock row = .ok (.boolean true) ↔
        d.evaluate clock row = .ok (.boolean true))) ∧
    ∀ exact,
      (∃ p : Truth, (inList x items false exact).evaluate clock row = .ok p.toValue ∧
        (inList x items true exact).evaluate clock row = .ok (Truth.toValue (p.map (!·)))) ∨
      ∃ e, (inList x items false exact).evaluate clock row = .error e ∧
        (inList x items true exact).evaluate clock row = .error e := by
  refine ⟨fun d hd => ⟨inList_of_disjunction hd, fun h hw => ?_⟩, fun d hd => ⟨fun h => ?_, ?_⟩,
    inList_negated x items⟩
  · obtain ⟨w, hw⟩ := hw
    exact disjunction_of_inList hd hw h
  · obtain ⟨w, hw⟩ := exists_of_inList_exact hd h
    exact disjunction_of_inList hd hw h
  · exact inList_of_disjunction hd

/-- The items `NULL`, the text `2`, and a text that is no number. -/
def nullAndTexts : List Expression :=
  [.value .undefined, .value (.string "2"), .value (.string "two")]

/-- The number 2 is in the list `(NULL, '2', 'two')`, of which the last item is not looked at.
Compared exactly, the text is not the number, and neither form is true. -/
theorem inList_agrees_of_null_and_texts :
    Disjunction false (.value (.int32 2)) nullAndTexts
        (anyEqual false (.value (.int32 2)) (.value .undefined) nullAndTexts.tail) ∧
      (anyEqual false (.value (.int32 2)) (.value .undefined) nullAndTexts.tail).evaluate
        .millennium ⟨0, []⟩ = .ok (.boolean true) ∧
      (inList (.value (.int32 2)) nullAndTexts false false).evaluate .millennium ⟨0, []⟩ =
        .ok (.boolean true) ∧
      Disjunction true (.value (.int32 2)) nullAndTexts
        (anyEqual true (.value (.int32 2)) (.value .undefined) nullAndTexts.tail) ∧
      (inList (.value (.int32 2)) nullAndTexts false true).evaluate .millennium ⟨0, []⟩ ≠
        .ok (.boolean true) := by
  have hd : Disjunction false (.value (.int32 2)) nullAndTexts _ := .anyEqual ..
  have hd' : Disjunction true (.value (.int32 2)) nullAndTexts _ := .anyEqual ..
  have htrue : (anyEqual false (.value (.int32 2)) (.value .undefined) nullAndTexts.tail).evaluate
      .millennium ⟨0, []⟩ = .ok (.boolean true) := by decide +kernel
  have hfalse : (anyEqual true (.value (.int32 2)) (.value .undefined) nullAndTexts.tail).evaluate
      .millennium ⟨0, []⟩ ≠ .ok (.boolean true) := by decide +kernel
  have hagrees :=
    inList_agrees_with_disjunction .millennium ⟨0, []⟩ (.value (.int32 2)) nullAndTexts
  refine ⟨hd, htrue, (hagrees.1 _ hd).1 htrue, hd', fun h => ?_⟩
  exact hfalse ((hagrees.2.1 _ hd').mp h)

/-- A list passes over a text that does not read as a number, where the disjunction fails. -/
example :
    (inList (.value (.int32 2)) [.value (.string "two"), .value (.int32 2)] false false).evaluate
        .millennium ⟨0, []⟩ = .ok (.boolean true) ∧
      (anyEqual false (.value (.int32 2)) (.value (.string "two"))
        [.value (.int32 2)]).evaluate .millennium ⟨0, []⟩ =
        .error (.evaluation Value.conversion (.cannotParse "two" .int32)) := by
  decide +kernel

end Expression

end RowFilter
