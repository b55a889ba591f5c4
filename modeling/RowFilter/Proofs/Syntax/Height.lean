import RowFilter.Proofs.Syntax.Reading
import RowFilter.Proofs.Token.Stream
import Mathlib.Tactic.Ring

/-!
How high the terms of a document can be. The levels of nesting are limited, but not every inner node
of a term takes one: the first operand of an operator and the arguments of a call are read at the
level of the operator and of the call. The height of a term is bounded by the limit and the number
of such steps, and by a number that grows with the calls inside calls.
-/

namespace RowFilter.Syntax

open Text (Position)

namespace Term

/-! ## Measures of a term -/

mutual

/-- The most inner nodes on a path from the root to a leaf. -/
def height : Term → Nat
  | .literal .. | .column .. => 0
  | .call _ _ arguments => heightAll arguments + 1
  | .unary _ _ operand | .not _ operand | .isNull _ operand _ => operand.height + 1
  | .binary _ _ left right | .predicate _ _ left right | .logical _ _ left right =>
    max left.height right.height + 1
  | .inList _ operand items _ _ => max operand.height (heightAll items) + 1

def heightAll : List Term → Nat
  | [] => 0
  | e :: rest => max e.height (heightAll rest)

end

mutual

/-- The most calls on a path. -/
def callDepth : Term → Nat
  | .literal .. | .column .. => 0
  | .call _ _ arguments => callDepthAll arguments + 1
  | .unary _ _ operand | .not _ operand | .isNull _ operand _ => operand.callDepth
  | .binary _ _ left right | .predicate _ _ left right | .logical _ _ left right =>
    max left.callDepth right.callDepth
  | .inList _ operand items _ _ => max operand.callDepth (callDepthAll items)

def callDepthAll : List Term → Nat
  | [] => 0
  | e :: rest => max e.callDepth (callDepthAll rest)

end

/-- Steps on a path through a first operand: the step to it counts, unless it is a leaf. -/
def stepTo (operand : Term) (steps : Nat) : Nat :=
  if operand.height = 0 then 0 else steps + 1

mutual

/-- The most steps on a path that go down no level: those to the arguments of a call and those to a
first operand that is an inner node. -/
def skipped : Term → Nat
  | .literal .. | .column .. => 0
  | .call _ _ arguments => skippedAll arguments + 1
  | .unary _ _ operand | .not _ operand => operand.skipped
  | .isNull _ operand _ => operand.stepTo operand.skipped
  | .binary _ _ left right | .predicate _ _ left right | .logical _ _ left right =>
    max (left.stepTo left.skipped) right.skipped
  | .inList _ operand items _ _ => max (operand.stepTo operand.skipped) (skippedAll items)

def skippedAll : List Term → Nat
  | [] => 0
  | e :: rest => max e.skipped (skippedAll rest)

end

theorem heightAll_le {items : List Term} {n : Nat} (h : ∀ e ∈ items, e.height ≤ n) :
    heightAll items ≤ n := by
  induction items with
  | nil => exact Nat.zero_le n
  | cons e rest ih =>
    rw [List.forall_mem_cons] at h
    exact Nat.max_le.mpr ⟨h.1, ih h.2⟩

theorem callDepth_le_all {items : List Term} {e : Term} (h : e ∈ items) :
    e.callDepth ≤ callDepthAll items := by
  induction items with
  | nil => cases h
  | cons first rest ih =>
    rcases List.mem_cons.mp h with rfl | h
    · exact Nat.le_max_left _ _
    · exact Nat.le_trans (ih h) (Nat.le_max_right _ _)

theorem skipped_le_all {items : List Term} {e : Term} (h : e ∈ items) :
    e.skipped ≤ skippedAll items := by
  induction items with
  | nil => cases h
  | cons first rest ih =>
    rcases List.mem_cons.mp h with rfl | h
    · exact Nat.le_max_left _ _
    · exact Nat.le_trans (ih h) (Nat.le_max_right _ _)

theorem height_join (c : Chain) (p : Position) (op : Operator) (left right : Term) :
    (c.join p op left right).height = max left.height right.height + 1 := by
  cases c <;> rfl

theorem callDepth_join (c : Chain) (p : Position) (op : Operator) (left right : Term) :
    (c.join p op left right).callDepth = max left.callDepth right.callDepth := by
  cases c <;> rfl

theorem skipped_join (c : Chain) (p : Position) (op : Operator) (left right : Term) :
    (c.join p op left right).skipped = max (left.stepTo left.skipped) right.skipped := by
  cases c <;> rfl

/-- The node above a first operand takes a level, or else the step to the operand is counted. -/
theorem height_le_stepTo {operand : Term} {w : Nat} (hw : 1 ≤ w)
    (h : operand.height ≤ w + operand.skipped) :
    operand.height + 1 ≤ w + operand.stepTo operand.skipped := by
  unfold stepTo
  split <;> omega

end Term

open Term

/-! ## The height of a phrase -/

/-- A phrase is higher than the levels that are left by no more than the steps that take none. -/
theorem Derives.height_le_skipped {r : Rank} {d : Nat} {ts : List Token} {t : Term}
    (h : Derives r d ts t) : t.height ≤ maxDepth - d + t.skipped := by
  induction h with
  | first _ ih | level _ ih | condition _ _ ih | value _ ih | predicate _ ih | unsigned _ ih =>
    exact ih
  | literal | column => exact Nat.zero_le _
  | link _ _ hd _ ihl ihr =>
    have hleft := height_le_stepTo (by omega) ihl
    rw [height_join, skipped_join]
    omega
  | comparison _ _ hd _ ihl ihr | like _ _ hd _ _ ihl ihr =>
    have hleft := height_le_stepTo (by omega) ihl
    simp only [height, skipped]
    omega
  | @inList d n _ _ _ _ _ _ _ left _ _ items _ _ hd _ _ _ _ _ ihl ihi =>
    have hleft := height_le_stepTo (by omega) ihl
    have hitems : heightAll (items.map (·.2)) ≤
        maxDepth - (d + (n + 1)) + skippedAll (items.map (·.2)) := by
      apply heightAll_le
      intro e he
      obtain ⟨i, hi, rfl⟩ := List.mem_map.mp he
      exact Nat.le_trans (ihi i hi) (Nat.add_le_add_left (skipped_le_all he) _)
    simp only [height, skipped]
    omega
  | isNull _ _ hd _ _ ihl =>
    simp only [height, skipped]
    exact height_le_stepTo (by omega) ihl
  | not _ hd _ ih | sign _ hd _ ih =>
    simp only [height, skipped]
    omega
  | parentheses _ _ _ _ ih => omega
  | callEmpty =>
    simp only [height, skipped, heightAll]
    omega
  | @call d _ _ _ _ _ items _ _ _ _ _ ihi =>
    have hitems : heightAll (items.map (·.2)) ≤ maxDepth - d + skippedAll (items.map (·.2)) := by
      apply heightAll_le
      intro e he
      obtain ⟨i, hi, rfl⟩ := List.mem_map.mp he
      exact Nat.le_trans (ihi i hi) (Nat.add_le_add_left (skipped_le_all he) _)
    simp only [height, skipped]
    omega

/-- The most inner nodes on a path of a value with `w` levels left and `k` calls on it. A path may
go through `w` operators of every level before it goes down, and so it may above each call. -/
def signedLimit (w k : Nat) : Nat := 3 * w * (w - 1) + min w 1 + k * (6 * w + 1)

/-- The same for the phrases of a rank: the operators of the rank and of those below come first. -/
def Rank.limit (w k : Nat) : Rank → Nat
  | .level c => c.height * w + signedLimit w k
  | .links c n => (c.height - 1) * w + n + signedLimit w k
  | .negation | .predicate => 4 * w + signedLimit w k
  | .suffixed n => 3 * w + n + signedLimit w k
  | .signed | .primary => signedLimit w k

theorem signedLimit_mono {w w' k k' : Nat} (hw : w ≤ w') (hk : k ≤ k') :
    signedLimit w k ≤ signedLimit w' k' := by
  have hsquare : 3 * w * (w - 1) ≤ 3 * w' * (w' - 1) :=
    Nat.mul_le_mul (Nat.mul_le_mul_left 3 hw) (Nat.sub_le_sub_right hw 1)
  have hcalls : k * (6 * w + 1) ≤ k' * (6 * w' + 1) := Nat.mul_le_mul hk (by omega)
  unfold signedLimit
  omega

/-- A level further down, there is room for the operators of all levels above. -/
theorem limit_level_le {w w' : Nat} (h : w < w') (k : Nat) :
    Rank.limit w k (.level .or) ≤ signedLimit w' k := by
  have hcalls : k * (6 * w + 1) ≤ k * (6 * (w + 1) + 1) := Nat.mul_le_mul_left k (by omega)
  have hsquare : 3 * (w + 1) * w = 3 * w * (w - 1) + 6 * w := by
    cases w with
    | zero => rfl
    | succ u =>
      rw [Nat.add_sub_cancel]
      ring
  have hnext : Rank.limit w k (.level .or) ≤ signedLimit (w + 1) k := by
    simp only [Rank.limit, signedLimit, Chain.height, Nat.add_sub_cancel]
    omega
  exact Nat.le_trans hnext (signedLimit_mono h (Nat.le_refl k))

theorem signedLimit_lt {w w' : Nat} (h : w < w') (k : Nat) : signedLimit w k < signedLimit w' k := by
  have hlevel := limit_level_le h k
  simp only [Rank.limit, Chain.height] at hlevel
  cases w with
  | zero =>
    have hcalls : k * 1 ≤ k * (6 * w' + 1) := Nat.mul_le_mul_left k (by omega)
    simp only [signedLimit]
    omega
  | succ u => omega

/-- One call more leaves room for its argument. -/
theorem limit_level_lt (w k : Nat) : Rank.limit w k (.level .or) < signedLimit w (k + 1) := by
  simp only [Rank.limit, signedLimit, Chain.height, Nat.add_mul]
  omega

theorem limit_mono {w w' k k' : Nat} (r : Rank) (hw : w ≤ w') (hk : k ≤ k') :
    r.limit w k ≤ r.limit w' k' := by
  have hsigned := signedLimit_mono hw hk
  cases r with
  | level c =>
    have hchain := Nat.mul_le_mul_left c.height hw
    simp only [Rank.limit]
    omega
  | links c n =>
    have hchain := Nat.mul_le_mul_left (c.height - 1) hw
    simp only [Rank.limit]
    omega
  | _ =>
    simp only [Rank.limit]
    omega

/-- The operands of a chain are below its operators. -/
theorem limit_operandRank (w k : Nat) (c : Chain) :
    c.operandRank.limit w k = Rank.limit w k (.links c 0) := by
  cases c <;> simp [Rank.limit, Chain.operandRank, Chain.height]

/-- A chain has no more operators than there are levels left. -/
theorem Derives.links_le {c : Chain} {n d : Nat} {ts : List Token} {t : Term}
    (h : Derives (.links c n) d ts t) : n ≤ maxDepth - d := by
  cases h with
  | first _ => exact Nat.zero_le _
  | link _ _ hd _ => omega

theorem Derives.suffixed_le {n d : Nat} {ts : List Token} {t : Term}
    (h : Derives (.suffixed n) d ts t) : n ≤ maxDepth - d := by
  cases h with
  | value _ => exact Nat.zero_le _
  | comparison _ _ hd _ | like _ _ hd _ _ | inList _ _ hd _ _ _ _ _ | isNull _ _ hd _ _ => omega

/-- Phrases of a list are no higher than the limit for the most calls among them. -/
theorem heightAll_le_limit {items : List (List Token × Term)} {r : Rank} {w : Nat}
    (h : ∀ i ∈ items, i.2.height ≤ r.limit w i.2.callDepth) :
    heightAll (items.map (·.2)) ≤ r.limit w (callDepthAll (items.map (·.2))) := by
  apply heightAll_le
  intro e he
  obtain ⟨i, hi, rfl⟩ := List.mem_map.mp he
  exact Nat.le_trans (h i hi) (limit_mono r (Nat.le_refl w) (callDepth_le_all he))

theorem Derives.height_le_limit {r : Rank} {d : Nat} {ts : List Token} {t : Term}
    (h : Derives r d ts t) : t.height ≤ r.limit (maxDepth - d) t.callDepth := by
  induction h with
  | @first c d _ t _ ih =>
    rw [← limit_operandRank]
    exact ih
  | @link c d n _ _ _ _ left right _ _ hd _ ihl ihr =>
    rw [height_join, callDepth_join]
    have hdown : maxDepth - (d + (n + 1)) ≤ maxDepth - d := by omega
    have hleft := Nat.le_trans ihl
      (limit_mono (.links c n) (Nat.le_refl _) (Nat.le_max_left _ right.callDepth))
    have hright := Nat.le_trans ihr
      (limit_mono c.operandRank hdown (Nat.le_max_right left.callDepth _))
    rw [limit_operandRank] at hright
    simp only [Rank.limit] at hleft hright ⊢
    omega
  | @level c _ _ _ _ h ih =>
    have hlinks := h.links_le
    cases c <;> simp only [Rank.limit, Chain.height] at ih ⊢ <;> omega
  | condition _ _ ih | unsigned _ ih => exact ih
  | literal | column => exact Nat.zero_le _
  | value _ ih => exact ih
  | predicate h ih =>
    have hsuffixed := h.suffixed_le
    simp only [Rank.limit] at ih ⊢
    omega
  | @comparison d n _ _ _ _ left right _ _ hd _ ihl ihr
  | @like d n _ _ _ _ _ _ _ left right _ _ hd _ _ ihl ihr =>
    have hdown : maxDepth - (d + (n + 1)) ≤ maxDepth - d := by omega
    have hleft := Nat.le_trans ihl
      (limit_mono (.suffixed n) (Nat.le_refl _) (Nat.le_max_left _ right.callDepth))
    have hright := Nat.le_trans ihr
      (limit_mono (.level .bitwise) hdown (Nat.le_max_right left.callDepth _))
    simp only [height, callDepth, Rank.limit, Chain.height] at hleft hright ⊢
    omega
  | @inList d n _ _ _ _ _ _ _ left _ _ items _ _ hd _ _ _ _ _ ihl ihi =>
    have hleft := Nat.le_trans ihl (limit_mono (.suffixed n) (Nat.le_refl _)
      (Nat.le_max_left _ (callDepthAll (items.map (·.2)))))
    have hitems := Nat.le_trans (heightAll_le_limit ihi) (limit_mono (.level .or) (Nat.le_refl _)
      (Nat.le_max_right left.callDepth _))
    have hdown : maxDepth - (d + (n + 1)) < maxDepth - d := by omega
    have hall := Nat.le_trans hitems (limit_level_le hdown _)
    simp only [height, callDepth, Rank.limit] at hleft hall ⊢
    omega
  | isNull _ _ hd _ _ ihl =>
    simp only [height, callDepth, Rank.limit] at ihl ⊢
    omega
  | @not d _ _ t _ hd _ ih | @sign d _ _ _ t _ hd _ ih =>
    have hsigned := signedLimit_lt (by omega : maxDepth - (d + 1) < maxDepth - d) t.callDepth
    simp only [height, callDepth, Rank.limit] at ih ⊢
    omega
  | parentheses _ hd _ _ ih => exact Nat.le_trans ih (limit_level_le (by omega) _)
  | callEmpty => exact Nat.lt_of_le_of_lt (Nat.zero_le _) (limit_level_lt _ 0)
  | call _ _ _ _ _ ihi =>
    exact Nat.lt_of_le_of_lt (heightAll_le_limit ihi) (limit_level_lt _ _)

/-! ## Documents -/

/-- The expression of a statement, or the condition of a FILTER statement. -/
def Statement.term? : Statement → Option Term
  | .identifier .. => none
  | .filter _ _ condition => some condition
  | .expression _ e => some e

def Document.terms (d : Document) : List Term := d.statements.filterMap Statement.term?

theorem DerivesStatement.term {ts : List Token} {s : Statement} (h : DerivesStatement ts s)
    {e : Term} (he : s.term? = some e) : ∃ us, us ⊆ ts ∧ DerivesTerm us e := by
  cases h with
  | identifier _ => cases he
  | @filter _ _ _ _ _ _ ls cs os _ _ _ _ _ hc _ =>
    cases he
    refine ⟨cs, fun x hx => ?_, hc⟩
    -- the condition stands behind the limit and the name of the table
    apply List.mem_cons_of_mem
    apply List.mem_append_right
    apply List.mem_cons_of_mem
    apply List.mem_cons_of_mem
    exact List.mem_append_left os hx
  | expression _ h =>
    cases he
    exact ⟨_, List.Subset.refl _, h⟩

theorem DerivesStatements.terms {ts : List Token} {list : List Statement}
    (h : DerivesStatements ts list) {e : Term} (he : e ∈ list.filterMap Statement.term?) :
    ∃ us, us ⊆ ts ∧ DerivesTerm us e := by
  induction h with
  | nil => cases he
  | semicolon _ _ ih =>
    obtain ⟨us, hus, hterm⟩ := ih he
    exact ⟨us, List.subset_cons_of_subset _ hus, hterm⟩
  | statement hs _ _ ih =>
    obtain ⟨s, hmem, hterm⟩ := List.mem_filterMap.mp he
    rcases List.mem_cons.mp hmem with rfl | hmem
    · obtain ⟨us, hus, hterm⟩ := hs.term hterm
      exact ⟨us, List.subset_append_of_subset_left _ hus, hterm⟩
    · obtain ⟨us, hus, hterm⟩ := ih (List.mem_filterMap.mpr ⟨s, hmem, hterm⟩)
      exact ⟨us, List.subset_append_of_subset_right _ hus, hterm⟩

/-- Every expression of a document that was read is a phrase made of tokens of the text. -/
theorem Document.exists_derives_tokens {input : String} {d : Document}
    (h : Document.parse input = .ok d) {e : Term} (he : e ∈ d.terms) :
    ∃ us, us ⊆ (Token.stream input).tokens ∧ DerivesTerm us e := by
  obtain ⟨⟨tokens, finish⟩, htokens, hdocument⟩ := bind_eq_ok_iff.mp h
  obtain ⟨rfl, -⟩ := Token.tokenize_eq_ok_iff.mp htokens
  exact (ofTokens_eq_ok_iff.mp hdocument).2.terms he

theorem Document.exists_derives {input : String} {d : Document} (h : Document.parse input = .ok d)
    {e : Term} (he : e ∈ d.terms) : ∃ us, DerivesTerm us e := by
  obtain ⟨us, -, hus⟩ := exists_derives_tokens h he
  exact ⟨us, hus⟩

/-! ## The height of what is read -/

/-- The greatest height of a term with so many calls on a path. -/
def heightLimit (calls : Nat) : Nat := 49537 + 769 * calls

theorem limit_whole (calls : Nat) : Rank.limit maxDepth calls (.level .or) = heightLimit calls := by
  simp only [Rank.limit, signedLimit, Chain.height, maxDepth, heightLimit]
  omega

/-- The height of an expression that was read exceeds the limit of the levels by no more than the
steps on a path that take none, so that without such steps it keeps to the limit. It is bounded by
the calls on a path alone. -/
theorem Document.height_le_of_parse {input : String} {d : Document}
    (h : Document.parse input = .ok d) {e : Term} (he : e ∈ d.terms) :
    e.height ≤ maxDepth + e.skipped ∧ e.height ≤ heightLimit e.callDepth := by
  obtain ⟨us, hus⟩ := Document.exists_derives h he
  refine ⟨hus.height_le_skipped, ?_⟩
  rw [← limit_whole]
  exact hus.height_le_limit

/-- A number is an operand of every chain. -/
theorem Derives.number {o : Token} (ho : o.kind = .integer "1") (d : Nat) (c : Chain) :
    Derives c.operandRank d [o] (.literal o.position (.integer "1")) := by
  have hliteral : literal? o.kind = some (.integer "1") := by rw [ho]; rfl
  have hnegation : isNegation o.kind = false := by rw [ho]; rfl
  have hsigned : Derives .signed d [o] _ := .unsigned (.literal hliteral)
  have hproduct : Derives (.level .multiplicative) d [o] _ :=
    .level (.first (c := .multiplicative) hsigned)
  have hsum : Derives (.level .additive) d [o] _ := .level (.first (c := .additive) hproduct)
  have hvalue : Derives (.level .bitwise) d [o] _ := .level (.first (c := .bitwise) hsum)
  have hcondition : Derives .negation d [o] _ := .condition hnegation (.predicate (.value hvalue))
  cases c with
  | multiplicative => exact hsigned
  | additive => exact hproduct
  | bitwise => exact hsum
  | and => exact hcondition
  | or => exact .level (.first (c := .and) hcondition)

/-- In the text `1*1+1` the product is skipped over: it is the first operand of the sum, read at the
level of the sum. -/
theorem height_le_of_product_in_sum :
    Document.parse "1*1+1" = .ok ⟨⟨1, 1⟩, [.expression ⟨1, 1⟩ (.binary ⟨1, 4⟩ .add
        (.binary ⟨1, 2⟩ .multiply (.literal ⟨1, 1⟩ (.integer "1")) (.literal ⟨1, 3⟩ (.integer "1")))
        (.literal ⟨1, 5⟩ (.integer "1")))]⟩ ∧
      (Term.binary ⟨1, 4⟩ .add
        (.binary ⟨1, 2⟩ .multiply (.literal ⟨1, 1⟩ (.integer "1")) (.literal ⟨1, 3⟩ (.integer "1")))
        (.literal ⟨1, 5⟩ (.integer "1"))).height ≤ maxDepth + 1 := by
  have htokens : Token.tokenize "1*1+1" =
      .ok ([⟨.integer "1", "1", ⟨1, 1⟩⟩, ⟨.symbol .star, "*", ⟨1, 2⟩⟩, ⟨.integer "1", "1", ⟨1, 3⟩⟩,
        ⟨.symbol .plus, "+", ⟨1, 4⟩⟩, ⟨.integer "1", "1", ⟨1, 5⟩⟩], ⟨1, 6⟩) := by
    decide +kernel
  have hproduct := Derives.link (c := .multiplicative) (o := ⟨.symbol .star, "*", ⟨1, 2⟩⟩)
    (.first (.number (o := ⟨.integer "1", "1", ⟨1, 1⟩⟩) rfl 0 .multiplicative)) rfl (by decide)
    (.number (o := ⟨.integer "1", "1", ⟨1, 3⟩⟩) rfl 1 .multiplicative)
  have hsum := Derives.link (c := .additive) (o := ⟨.symbol .plus, "+", ⟨1, 4⟩⟩)
    (.first (.level hproduct)) rfl (by decide)
    (.number (o := ⟨.integer "1", "1", ⟨1, 5⟩⟩) rfl 1 .additive)
  have hterm : DerivesTerm _ _ := .level (.first (c := .or) (.level (.first (c := .and)
    (.condition rfl (.predicate (.value (.level (.first (c := .bitwise) (.level hsum)))))))))
  have hstatement : DerivesStatement _ _ := .expression (fun h => absurd h (List.cons_ne_nil _ _)) hterm
  have hparse := parse_of_derives htokens (.statement hstatement rfl .nil)
  exact ⟨hparse, (Document.height_le_of_parse hparse List.mem_cons_self).1⟩

end RowFilter.Syntax
