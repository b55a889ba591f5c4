import RowFilter.Evaluation.Evaluate
import RowFilter.Proofs.Outcome
import RowFilter.Proofs.Selection.Scan
import RowFilter.Proofs.Value.SortKey

/-!
Calls by the values of their arguments, and above all those of the functions of texts. What a call
returns does not depend on the row, and a search takes its last argument, if it is there, for the
switch that makes it pass over case (`Switch`).
-/

namespace RowFilter

/-- A call of `f` whose arguments have these values has the value `v`, on any row. -/
def Function.Returns (f : Function) (values : List Value) (v : Value) : Prop :=
  ∀ (clock : Clock) (row : Row) (arguments : List Expression),
    Expression.evaluateAll clock row arguments = .ok values →
      (Expression.function f arguments).evaluate clock row = .ok v

/-- What is given for the switch of a function: nothing or an undefined value, which leave it off,
or a value that is converted to a Boolean. -/
inductive Switch : Bool → List Value → Prop where
  | absent : Switch false []
  | undefined : Switch false [.undefined]
  | given {v : Value} {b : Bool} (h : v.convert .boolean = .ok (.boolean b)) : Switch b [v]

theorem Switch.boolean (b : Bool) : Switch b [.boolean b] := .given (Value.convert_self _)

/-! ## Calls -/

namespace Expression

variable {clock : Clock} {row : Row}

theorem evaluateAll_values (clock : Clock) (row : Row) (values : List Value) :
    evaluateAll clock row (values.map value) = .ok values := by
  induction values with
  | nil => rfl
  | cons v values ih =>
    rw [List.map_cons, evaluateAll, ih]
    rfl

theorem length_of_evaluateAll {arguments : List Expression} {values : List Value}
    (h : evaluateAll clock row arguments = .ok values) : arguments.length = values.length := by
  induction arguments generalizing values with
  | nil =>
    obtain rfl := Except.ok.inj h
    rfl
  | cons e rest ih =>
    rw [evaluateAll] at h
    obtain ⟨v, -, h⟩ := bind_eq_ok_iff.mp h
    obtain ⟨vs, hvs, h⟩ := bind_eq_ok_iff.mp h
    obtain rfl := Except.ok.inj h
    rw [List.length_cons, List.length_cons, ih hvs]

end Expression

namespace Function

/-- Functions that need all their arguments. -/
def isStrict : Function → Bool
  | iif | coalesce | isNull => false
  | _ => true

/-- Functions whose first argument is a text. -/
def isOfText : Function → Bool
  | contains | endsWith | indexOf | lastIndexOf | len | lower | nthIndexOf | replace | reverse
  | split | startsWith | strCmp | strCount | subStr | trim | trimLeft | trimRight | upper => true
  | _ => false

variable {f : Function} {values : List Value} {v w : Value}

/-- A call is evaluated by the values of its arguments. -/
theorem evaluate_of_isStrict (hf : f.isStrict = true)
    (harity : f.arity.accepts values.length = true) {clock : Clock} {row : Row}
    {arguments : List Expression} (h : Expression.evaluateAll clock row arguments = .ok values) :
    (Expression.function f arguments).evaluate clock row = (Call.mk f values).value clock := by
  rw [← Expression.length_of_evaluateAll h] at harity
  have hiif : f = iif → False := by rintro rfl; cases hf
  have hcoalesce : f = coalesce → False := by rintro rfl; cases hf
  have hisNull : f = isNull → False := by rintro rfl; cases hf
  rw [Expression.evaluate, harity, Bool.not_true, if_neg Bool.false_ne_true]
  · rw [h]
    rfl
  all_goals assumption

theorem Returns.unique (h : f.Returns values v) (h' : f.Returns values w) : v = w := by
  have hvalues := Expression.evaluateAll_values .millennium ⟨0, []⟩ values
  exact Except.ok.inj ((h _ _ _ hvalues).symm.trans (h' _ _ _ hvalues))

/-- A call returns one value. -/
theorem Returns.iff_eq (h : f.Returns values w) : f.Returns values v ↔ w = v :=
  ⟨h.unique, fun heq => heq ▸ h⟩

theorem returns_iff_value (hf : f.isStrict = true)
    (harity : f.arity.accepts values.length = true) :
    f.Returns values v ↔ ∀ clock, (Call.mk f values).value clock = .ok v := by
  constructor
  · intro h clock
    have hvalues := Expression.evaluateAll_values clock ⟨0, []⟩ values
    rw [← evaluate_of_isStrict hf harity hvalues]
    exact h _ _ _ hvalues
  · intro h clock row arguments harguments
    rw [evaluate_of_isStrict hf harity harguments, h]

/-- Most functions do not ask for the time, so that a call has one outcome. -/
theorem returns_iff_of_value (hf : f.isStrict = true)
    (harity : f.arity.accepts values.length = true) {outcome : Except Error Value}
    (hvalue : ∀ clock, (Call.mk f values).value clock = outcome) :
    f.Returns values v ↔ outcome = .ok v := by
  simp only [returns_iff_value hf harity, hvalue]
  exact ⟨fun h => h .millennium, fun h _ => h⟩

theorem returns_iff (hf : f.isOfText = true) (harity : f.arity.accepts values.length = true) :
    f.Returns values v ↔ (Call.mk f values).text = .ok v := by
  have hstrict : f.isStrict = true := by cases f <;> first | rfl | cases hf
  have hvalue (clock : Clock) : (Call.mk f values).value clock = (Call.mk f values).text := by
    cases f <;> first | rfl | cases hf
  exact returns_iff_of_value hstrict harity hvalue

end Function

/-! ## Arguments -/

namespace Call

variable {f : Function} {b : Bool} {switch : List Value}

theorem flag_of_switch (h : Switch b switch) (front : List Value) :
    (Call.mk f (front ++ switch)).flag front.length = .ok b := by
  have hgiven (v : Value) : (Call.mk f (front ++ [v])).argument front.length = v := by
    rw [argument, List.getD_eq_getElem?_getD, List.getElem?_concat_length, Option.getD_some]
  cases h with
  | absent =>
    have hnone : (Call.mk f (front ++ [])).argument front.length = .undefined := by
      rw [argument, List.getD_eq_getElem?_getD, List.append_nil,
        List.getElem?_eq_none (Nat.le_refl _), Option.getD_none]
    rw [flag, hnone]
  | undefined => rw [flag, hgiven]
  | @given v b h =>
    rw [flag, hgiven]
    cases v with
    | undefined => cases h
    | _ =>
      dsimp only
      rw [h]

theorem integer?_of_argument {c : Call} {i : ℕ} {k : Word .int32}
    (h : c.argument i = .integer .int32 k) : c.integer? i = .ok (some k.toInt) := by
  have hself : (Value.integer .int32 k).convert .int32 = .ok (.integer .int32 k) :=
    Value.convert_self _
  rw [integer?, h]
  dsimp only
  rw [hself]

end Call

/-- The switch is one argument at most. -/
theorem Switch.length_le {b : Bool} {switch : List Value} (h : Switch b switch) :
    switch.length ≤ 1 := by
  cases h with
  | absent => exact Nat.zero_le 1
  | undefined | given => exact Nat.le_refl 1

theorem Arity.accepts_between {n k : ℕ} (h : k ≤ 1) :
    (Arity.between n (n + 1)).accepts (k + n) = true := by
  have hleast : decide (n ≤ k + n) = true := decide_eq_true (Nat.le_add_left n k)
  have hmost : decide (k + n ≤ n + 1) = true := decide_eq_true (by omega)
  rw [accepts, between, hleast, Option.all_some, hmost, Bool.and_self]

namespace Function

variable {f : Function} {s t r : String} {b : Bool} {switch : List Value} {v : Value}

theorem text_ofText (f : Function) (s : String) (rest : List Value) :
    (Call.mk f (.string s :: rest)).text = (Call.mk f (.string s :: rest)).ofText s.toList := rfl

/-! ## Searches -/

theorem search_of_switch (f : Function) (s t : String) (between : List Value) (h : Switch b switch)
    (hflag : (Call.mk f (.string s :: .string t :: (between ++ switch))).caseFlag =
      between.length + 2) :
    (Call.mk f (.string s :: .string t :: (between ++ switch))).search s.toList =
      (Call.mk f (.string s :: .string t :: (between ++ switch))).searchFor
        (Call.searched b t.toList) (Call.searched b s.toList) := by
  have hneedle : (Call.mk f (.string s :: .string t :: (between ++ switch))).string? 1 =
      .ok (some t.toList) := rfl
  have hswitch := Call.flag_of_switch (f := f) h (.string s :: .string t :: between)
  rw [List.length_cons, List.length_cons, ← hflag] at hswitch
  rw [Call.search, hneedle, ok_bind]
  dsimp only
  rw [List.cons_append, List.cons_append] at hswitch
  rw [hswitch, ok_bind]

/-- Searches for a text other than the one for an occurrence by its number. -/
def isPlainSearch : Function → Bool
  | contains | endsWith | indexOf | lastIndexOf | startsWith | strCount => true
  | _ => false

theorem returns_search_iff (hf : f.isPlainSearch = true) (h : Switch b switch) :
    f.Returns (.string s :: .string t :: switch) v ↔
      (Call.mk f (.string s :: .string t :: switch)).searchFor (Call.searched b t.toList)
        (Call.searched b s.toList) = .ok v := by
  have htext : f.isOfText = true := by cases f <;> first | rfl | cases hf
  have harity : f.arity = .between 2 3 := by cases f <;> first | rfl | cases hf
  have hflag : (Call.mk f (.string s :: .string t :: switch)).caseFlag = 2 := by
    cases f <;> first | rfl | cases hf
  have hsearch : (Call.mk f (.string s :: .string t :: switch)).ofText s.toList =
      (Call.mk f (.string s :: .string t :: switch)).search s.toList := by
    cases f <;> first | rfl | cases hf
  have haccepts : f.arity.accepts (Value.string s :: .string t :: switch).length = true := by
    rw [harity]
    exact Arity.accepts_between h.length_le
  have hswitch := search_of_switch f s t [] h hflag
  rw [List.nil_append] at hswitch
  rw [returns_iff htext haccepts, text_ofText, hsearch, hswitch]

/-- A search for an occurrence by its number. -/
theorem returns_nthIndexOf (h : Switch b switch) (s t : String) (k : Word .int32) :
    nthIndexOf.Returns (.string s :: .string t :: .integer .int32 k :: switch)
      (Call.positionOrNone (Call.nthIndexOf? (Call.searched b t.toList)
        (Call.searched b s.toList) k.toInt)) := by
  have haccepts : nthIndexOf.arity.accepts
      (Value.string s :: .string t :: .integer .int32 k :: switch).length = true :=
    Arity.accepts_between h.length_le
  have hswitch := search_of_switch nthIndexOf s t [.integer .int32 k] h rfl
  have hnumber : (Call.mk nthIndexOf
      (.string s :: .string t :: .integer .int32 k :: switch)).integer? 2 = .ok (some k.toInt) :=
    Call.integer?_of_argument rfl
  rw [List.singleton_append] at hswitch
  rw [returns_iff rfl haccepts, text_ofText, Call.ofText, hswitch, Call.searchFor]
  rw [hnumber, ok_bind]
  rfl

/-! ## Parts -/

theorem returns_len (s : String) : len.Returns [.string s] (.count s.toList.length) := by
  rw [returns_iff rfl rfl]
  rfl

theorem returns_lower (s : String) :
    lower.Returns [.string s] (.string (String.ofList (Text.lower s.toList))) := by
  rw [returns_iff rfl rfl]
  rfl

/-- The rest of a text from a position on. -/
theorem returns_subStr (s : String) {i : Word .int32} (hi : 0 ≤ i.toInt) :
    subStr.Returns [.string s, .integer .int32 i]
      (.string (String.ofList (s.toList.drop i.toInt.toNat))) := by
  have hstart : (Call.mk subStr [.string s, .integer .int32 i]).integer? 1 = .ok (some i.toInt) :=
    Call.integer?_of_argument rfl
  have hlength : (Call.mk subStr [.string s, .integer .int32 i]).integer? 2 = .ok none := rfl
  have hrange : ¬ (i.toInt < 0 ∨ Option.any (· < 0) (none : Option ℤ) = true) := by
    rintro (hnegative | hlength)
    · omega
    · cases hlength
  rw [returns_iff rfl rfl, text_ofText, Call.ofText, Call.subString, hstart, ok_bind]
  dsimp only
  rw [hlength, ok_bind, if_neg hrange]
  rfl

/-- So many characters of a text from a position on. -/
theorem returns_subStr_take (s : String) {i n : Word .int32} (hi : 0 ≤ i.toInt)
    (hn : 0 ≤ n.toInt) :
    subStr.Returns [.string s, .integer .int32 i, .integer .int32 n]
      (.string (String.ofList ((s.toList.drop i.toInt.toNat).take n.toInt.toNat))) := by
  have hstart : (Call.mk subStr [.string s, .integer .int32 i, .integer .int32 n]).integer? 1 =
      .ok (some i.toInt) := Call.integer?_of_argument rfl
  have hlength : (Call.mk subStr [.string s, .integer .int32 i, .integer .int32 n]).integer? 2 =
      .ok (some n.toInt) := Call.integer?_of_argument rfl
  have hrange : ¬ (i.toInt < 0 ∨ Option.any (· < 0) (some n.toInt) = true) := by
    rw [Option.any_some, decide_eq_true_iff]
    omega
  rw [returns_iff rfl rfl, text_ofText, Call.ofText, Call.subString, hstart, ok_bind]
  dsimp only
  rw [hlength, ok_bind, if_neg hrange]
  rfl

/-- The letters that a delimiter or a text to be replaced is found by, as the switch has it: they
are equal, or of one family. Then the text must not be too large for a pattern. -/
inductive Sameness (d : String) : Bool → (Char → Char → Bool) → Prop where
  | equal : Sameness d false (· == ·)
  | folded (h : (Pattern.ofFoldedText d.toList).fits = true) : Sameness d true Text.sameFolded

theorem sameness_of_switch {same : Char → Char → Bool} {d : String} (hsame : Sameness d b same)
    (h : Switch b switch) (f : Function) (x y z : Value) :
    (Call.mk f (x :: y :: z :: switch)).sameness d.toList = .ok same := by
  have hflag := Call.flag_of_switch (f := f) h [x, y, z]
  rw [Call.sameness]
  simp only [List.length_cons, List.length_nil, List.cons_append, List.nil_append] at hflag
  rw [hflag, ok_bind]
  cases hsame with
  | equal => rfl
  | folded hfits => rw [if_pos rfl, if_pos hfits]; rfl

/-- A part by its number, undefined if there is none. -/
def partAt (parts : List (List Char)) (i : ℤ) : Value :=
  if i < 0 then .undefined
  else match parts[i.toNat]? with
    | some part => .string (String.ofList part)
    | none => .undefined

theorem partAt_of_getElem? {parts : List (List Char)} {part : List Char} {i : ℤ} (hi : 0 ≤ i)
    (h : parts[i.toNat]? = some part) : partAt parts i = .string (String.ofList part) := by
  rw [partAt, if_neg (not_lt.mpr hi), h]

theorem partAt_eq_undefined_iff {parts : List (List Char)} {i : ℤ} :
    partAt parts i = .undefined ↔ i < 0 ∨ (parts.length : ℤ) ≤ i := by
  by_cases hi : i < 0
  · simp [partAt, hi]
  · cases hpart : parts[i.toNat]? with
    | none =>
      rw [partAt, if_neg hi, hpart]
      rw [List.getElem?_eq_none_iff] at hpart
      simp only [true_iff]
      omega
    | some part =>
      rw [partAt_of_getElem? (not_lt.mp hi) hpart]
      have hlt := (List.getElem?_eq_some_iff.mp hpart).1
      simp only [reduceCtorEq, false_iff]
      omega

theorem returns_split {same : Char → Char → Bool} {d : String} (hsame : Sameness d b same)
    (h : Switch b switch) (hd : d.toList ≠ []) (s : String) (i : Word .int32) :
    split.Returns (.string s :: .string d :: .integer .int32 i :: switch)
      (partAt (Text.split same d.toList s.toList) i.toInt) := by
  have haccepts : split.arity.accepts
      (Value.string s :: .string d :: .integer .int32 i :: switch).length = true :=
    Arity.accepts_between h.length_le
  have hdelimiter : (Call.mk split
      (.string s :: .string d :: .integer .int32 i :: switch)).string? 1 = .ok (some d.toList) :=
    rfl
  have hindex : (Call.mk split
      (.string s :: .string d :: .integer .int32 i :: switch)).integer? 2 = .ok (some i.toInt) :=
    Call.integer?_of_argument rfl
  have hempty : ¬ d.toList.isEmpty = true := by rwa [List.isEmpty_iff]
  rw [returns_iff rfl haccepts, text_ofText, Call.ofText, Call.part, hdelimiter, ok_bind, hindex,
    ok_bind]
  dsimp only
  rw [if_neg hempty, sameness_of_switch hsame h, ok_bind, pure_eq_ok, ok_bind, partAt]
  by_cases hi : i.toInt < 0
  · rw [if_pos hi, if_pos hi]
    rfl
  · rw [if_neg hi, if_neg hi]
    cases (Text.split same d.toList s.toList)[i.toInt.toNat]? <;> rfl

theorem returns_replace {same : Char → Char → Bool} {d : String} (hsame : Sameness d b same)
    (h : Switch b switch) (hd : d.toList ≠ []) (s r : String) :
    replace.Returns (.string s :: .string d :: .string r :: switch)
      (.string (String.ofList (Text.replace same d.toList r.toList s.toList))) := by
  have haccepts : replace.arity.accepts
      (Value.string s :: .string d :: .string r :: switch).length = true :=
    Arity.accepts_between h.length_le
  have hneedle : (Call.mk replace
      (.string s :: .string d :: .string r :: switch)).string? 1 = .ok (some d.toList) := rfl
  have htext : (Call.mk replace
      (.string s :: .string d :: .string r :: switch)).string? 2 = .ok (some r.toList) := rfl
  have hletters := sameness_of_switch hsame h replace (.string s) (.string d) (.string r)
  rw [returns_iff rfl haccepts, text_ofText, Call.ofText, Call.replacement, hneedle, ok_bind, htext,
    ok_bind]
  generalize d.toList = needle at hd hletters
  cases needle with
  | nil => exact absurd rfl hd
  | cons c needle =>
    dsimp only
    rw [hletters]
    rfl

end Function

end RowFilter
