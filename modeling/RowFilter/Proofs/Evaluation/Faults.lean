import RowFilter.Evaluation.Evaluate
import RowFilter.Proofs.Outcome

/-!
What operators and functions blame when they fail: the values they are given. Only a call as such
can be blamed for its number of arguments.
-/

namespace RowFilter

/-- Faults of evaluation other than a wrong number of arguments. -/
def Error.BlamesValues : Error → Prop
  | .evaluation _ (.arity ..) => False
  | .evaluation .. => True
  | _ => False

/-! ## Conversion and comparison -/

theorem fails_convert (v : Value) (target : ValueType) :
    Fails Error.BlamesValues (v.convert target) := by
  unfold Value.convert
  split
  · exact fails_ok _
  · split
    · exact fails_ok _
    · exact fails_ok _
    · exact fails_ok _
    · split
      · exact fails_ok _
      · exact fails_error trivial
    · split
      · exact fails_ok _
      · exact fails_error trivial

theorem fails_compare (a b : Value) (exact : Bool) :
    Fails Error.BlamesValues (a.compare b exact) := by
  unfold Value.compare
  split
  · exact fails_ok _
  · split
    · exact fails_error trivial
    · exact (fails_convert a _).bind fun _ => (fails_convert b _).bind fun _ => fails_ok _

/-! ## Operators -/

namespace Operator

variable (op : Operator)

theorem fails_commonType (a b : ValueType) : Fails Error.BlamesValues (op.commonType a b) := by
  unfold commonType
  split
  · exact fails_ok _
  · exact fails_ok _
  · exact fails_error trivial

theorem fails_integerArithmetic (t : IntType) (m n : Int) :
    Fails Error.BlamesValues (op.integerArithmetic t m n) := by
  unfold integerArithmetic
  split <;> try exact fails_ok _
  all_goals
    split
    · exact fails_error trivial
    · exact fails_ok _

theorem fails_decimalArithmetic (m n : Decimal) :
    Fails Error.BlamesValues (op.decimalArithmetic m n) := by
  unfold decimalArithmetic
  split <;> try exact fails_ok _
  all_goals
    split
    · exact fails_error trivial
    · exact fails_ok _

theorem fails_arithmetic (a b : Value) : Fails Error.BlamesValues (op.arithmetic a b) := by
  have hsame (x y : Value) : Fails Error.BlamesValues (op.arithmeticSame x y) := by
    unfold arithmeticSame
    split
    · exact op.fails_integerArithmetic _ _ _
    · exact op.fails_decimalArithmetic _ _
    · exact fails_ok _
    · exact fails_error trivial
  unfold arithmetic
  split
  · exact fails_ok _
  · exact (op.fails_commonType _ _).bind fun t =>
      (fails_convert a t).bind fun x => (fails_convert b t).bind fun y => hsame x y

theorem fails_shift (a b : Value) : Fails Error.BlamesValues (op.shift a b) := by
  have hamount : Fails Error.BlamesValues (op.shiftAmount b) := by
    refine (fails_convert b _).bind fun v => ?_
    split
    · split
      · exact fails_ok _
      · exact fails_error trivial
    · exact fails_error trivial
  refine hamount.bind fun amount => ?_
  split
  · exact fails_ok _
  · exact fails_ok _
  · exact fails_error trivial

theorem fails_combineBits (a b : Value) : Fails Error.BlamesValues (op.combineBits a b) := by
  refine (op.fails_commonType _ _).bind fun t => ?_
  refine (fails_convert a t).bind fun x => (fails_convert b t).bind fun y => ?_
  split
  · exact fails_ok _
  · exact fails_error trivial

theorem fails_bitwise (a b : Value) : Fails Error.BlamesValues (op.bitwise a b) := by
  unfold bitwise
  extract_lets onBooleans?
  clear_value onBooleans?
  split
  · exact fails_ok _
  · split
    · exact fails_error trivial
    · split
      · exact op.fails_shift a b
      · exact op.fails_combineBits a b

theorem fails_apply (a b : Value) : Fails Error.BlamesValues (op.apply a b) := by
  have hlikeness : Fails Error.BlamesValues (op.likeness a b) := by
    unfold likeness
    split
    · exact fails_ok _
    · exact fails_error trivial
  unfold apply
  split
  · exact fails_ok _
  split
  · exact (fails_compare a b _).bind fun _ => fails_ok _
  split
  · exact hlikeness
  split
  · exact op.fails_bitwise a b
  · exact op.fails_arithmetic a b

theorem fails_truth (v : Value) : Fails Error.BlamesValues (op.truth v) := by
  unfold truth
  split
  · exact fails_ok _
  · exact fails_ok _
  · exact fails_error trivial

end Operator

theorem UnaryOperator.fails_apply (op : UnaryOperator) (v : Value) :
    Fails Error.BlamesValues (op.apply v) := by
  unfold apply
  split
  · exact fails_ok _
  · exact fails_error trivial

/-! ## Functions -/

namespace Call

variable (c : Call)

section Arguments

variable (i : Nat)

theorem fails_string? : Fails Error.BlamesValues (c.string? i) := by
  unfold string?
  split
  · exact fails_ok _
  · exact fails_ok _
  · exact fails_error trivial

theorem fails_flag : Fails Error.BlamesValues (c.flag i) := by
  unfold flag
  split
  · exact fails_ok _
  · split
    · exact fails_ok _
    · exact fails_error trivial

theorem fails_integer? : Fails Error.BlamesValues (c.integer? i) := by
  unfold integer?
  split
  · exact fails_ok _
  · split
    · exact fails_ok _
    · exact fails_error trivial

theorem fails_double? : Fails Error.BlamesValues (c.double? i) := by
  unfold double?
  split
  · exact fails_ok _
  · split
    · exact fails_ok _
    · exact fails_error trivial

theorem fails_dateTime? : Fails Error.BlamesValues (c.dateTime? i) := by
  unfold dateTime?
  split
  · exact fails_ok _
  · exact fails_ok _
  · split
    · exact fails_ok _
    · exact fails_error trivial
  · exact fails_error trivial

theorem fails_name (expected : String) : Fails Error.BlamesValues (c.name i expected) := by
  refine (c.fails_string? i).bind fun s => ?_
  split
  · exact fails_ok _
  · exact fails_error trivial

theorem fails_interval : Fails Error.BlamesValues (c.interval i) := by
  refine (c.fails_name i _).bind fun name => ?_
  split
  · exact fails_ok _
  · exact fails_error trivial

end Arguments

/-! ### Numbers, kinds and dates -/

theorem fails_magnitude : Fails Error.BlamesValues c.magnitude := by
  unfold magnitude
  split <;> first | exact fails_ok _ | exact fails_error trivial

theorem fails_rounded (mode : Decimal.Rounding) (float : Float → Float) :
    Fails Error.BlamesValues (c.rounded mode float) := by
  unfold rounded
  split <;> first | exact fails_ok _ | exact fails_error trivial

theorem fails_squareRoot : Fails Error.BlamesValues c.squareRoot := by
  refine (c.fails_double? 0).bind fun x => ?_
  split <;> exact fails_ok _

theorem fails_power : Fails Error.BlamesValues c.power := by
  refine (c.fails_double? 0).bind fun x => (c.fails_double? 1).bind fun y => ?_
  split <;> exact fails_ok _

theorem fails_extreme (wanted : Ordering) (values : List Value) :
    Fails Error.BlamesValues (extreme wanted values) := by
  have hfold (rest : List Value) (v : Value) :
      Fails Error.BlamesValues (rest.foldlM (prefer wanted) v) := by
    induction rest generalizing v with
    | nil => exact fails_ok v
    | cons w rest ih =>
      rw [List.foldlM_cons]
      have hprefer : Fails Error.BlamesValues (prefer wanted v w) := by
        refine (fails_compare w v false).bind fun order => ?_
        split <;> exact fails_ok _
      exact hprefer.bind ih
  unfold extreme
  split
  · exact fails_ok _
  · exact hfold _ _

theorem fails_conversion : Fails Error.BlamesValues c.conversion := by
  have hnamed (name : String) : Fails Error.BlamesValues (ValueType.named name) := by
    unfold ValueType.named
    split
    · exact fails_ok _
    · exact fails_error trivial
  refine (c.fails_name 1 _).bind fun name => (hnamed name).bind fun target => ?_
  have hconvert := fails_convert (c.argument 0) target
  split
  · next source fault hfault =>
    -- the fault is reported under the name of the function, and stays what it is
    have hblames := hconvert _ hfault
    cases fault with
    | arity => exact hblames.elim
    | _ => exact fails_error trivial
  · exact hconvert

theorem fails_dateAdd : Fails Error.BlamesValues c.dateAdd := by
  refine (c.fails_dateTime? 0).bind fun t => (c.fails_integer? 1).bind fun n => ?_
  split
  · refine (c.fails_interval 2).bind fun interval => ?_
    split
    · exact fails_ok _
    · exact fails_error trivial
  · exact fails_ok _

theorem fails_dateDiff : Fails Error.BlamesValues c.dateDiff := by
  refine (c.fails_dateTime? 0).bind fun t => (c.fails_dateTime? 1).bind fun u => ?_
  split
  · refine (c.fails_interval 2).bind fun interval => ?_
    split
    · exact fails_ok _
    · exact fails_error trivial
  · exact fails_ok _

theorem fails_datePart : Fails Error.BlamesValues c.datePart := by
  refine (c.fails_dateTime? 0).bind fun t => ?_
  split
  · exact (c.fails_interval 1).bind fun _ => fails_ok _
  · exact fails_ok _

/-! ### Texts -/

theorem fails_search (source : List Char) : Fails Error.BlamesValues (c.search source) := by
  have hsearchFor (needle text : List Char) :
      Fails Error.BlamesValues (c.searchFor needle text) := by
    unfold searchFor
    split <;> try exact fails_ok _
    refine (c.fails_integer? 2).bind fun n => ?_
    split <;> exact fails_ok _
  refine (c.fails_string? 1).bind fun needle => ?_
  split
  · exact (c.fails_flag _).bind fun _ => hsearchFor _ _
  · exact fails_ok _

theorem fails_subString (source : List Char) : Fails Error.BlamesValues (c.subString source) := by
  refine (c.fails_integer? 1).bind fun start => ?_
  split
  · exact fails_ok _
  · refine (c.fails_integer? 2).bind fun length => ?_
    dsimp only
    split
    · exact fails_error trivial
    · split <;> exact fails_ok _

theorem fails_sameness (needle : List Char) : Fails Error.BlamesValues (c.sameness needle) := by
  refine (c.fails_flag 3).bind fun ignoreCase => ?_
  split
  · split
    · exact fails_ok _
    · exact fails_error trivial
  · exact fails_ok _

theorem fails_replacement (source : List Char) :
    Fails Error.BlamesValues (c.replacement source) := by
  refine (c.fails_string? 1).bind fun needle => (c.fails_string? 2).bind fun text => ?_
  split
  · exact fails_ok _
  · exact (c.fails_sameness _).bind fun _ => fails_ok _
  · exact fails_ok _

theorem fails_part (source : List Char) : Fails Error.BlamesValues (c.part source) := by
  refine (c.fails_string? 1).bind fun delimiter => (c.fails_integer? 2).bind fun index => ?_
  -- the parts do not matter, only that getting them may fail
  have hparts (delimiter : List Char) (f : List (List Char) → Except Error Value)
      (hf : ∀ parts, Fails Error.BlamesValues (f parts)) :
      Fails Error.BlamesValues
        (if delimiter.isEmpty then pure [source] >>= f
          else c.sameness delimiter >>= fun same =>
            pure (Text.split same delimiter source) >>= f) := by
    split
    · exact hf _
    · exact (c.fails_sameness _).bind fun _ => hf _
  split
  · split
    · exact hparts _ _ fun _ => fails_ok _
    · refine hparts _ _ fun parts => ?_
      dsimp only
      split <;> exact fails_ok _
  · exact fails_ok _

theorem fails_textComparison (source : List Char) :
    Fails Error.BlamesValues (c.textComparison source) := by
  refine (c.fails_string? 1).bind fun other => ?_
  split
  · refine (c.fails_flag 2).bind fun ignoreCase => ?_
    split <;> exact fails_ok _
  · exact fails_ok _

theorem fails_matching : Fails Error.BlamesValues c.matching := by
  refine (c.fails_string? 0).bind fun pattern => (c.fails_string? 1).bind fun text => ?_
  split
  · split
    · exact fails_error trivial
    · dsimp only
      split <;> exact fails_ok _
  · exact fails_ok _

theorem fails_text : Fails Error.BlamesValues c.text := by
  refine (c.fails_string? 0).bind fun source => ?_
  split
  · unfold ofText
    split <;> try exact fails_ok _
    · exact c.fails_subString _
    · exact c.fails_replacement _
    · exact c.fails_part _
    · exact c.fails_textComparison _
    · exact c.fails_search _
  · exact fails_ok _

theorem fails_value (clock : Clock) : Fails Error.BlamesValues (c.value clock) := by
  unfold value
  split <;> try exact fails_ok _
  · exact c.fails_magnitude
  · exact c.fails_rounded _ _
  · exact c.fails_rounded _ _
  · exact c.fails_rounded _ _
  · exact c.fails_squareRoot
  · exact c.fails_power
  · exact fails_extreme _ _
  · exact fails_extreme _ _
  · exact c.fails_conversion
  · exact c.fails_dateAdd
  · exact c.fails_dateDiff
  · exact c.fails_datePart
  · exact c.fails_matching
  · exact c.fails_matching
  · exact c.fails_text

end Call

end RowFilter
