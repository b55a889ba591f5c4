import RowFilter.Proofs.Outcome
import RowFilter.Syntax.Document

/-!
What reading a text fails with: a character that begins no token, or a fault of the grammar, and
nothing else.
-/

namespace RowFilter

/-- Errors in the spelling of a text or in its grammar. -/
def Error.IsReading : Error → Prop
  | .lexical .. | .grammar .. => True
  | _ => False

/-- Errors in the grammar of a text. -/
def Error.IsGrammar : Error → Prop
  | .grammar .. => True
  | _ => False

theorem Error.IsGrammar.isReading {e : Error} (h : e.IsGrammar) : e.IsReading := by
  cases e with
  | grammar => trivial
  | _ => cases h

namespace Token

theorem fails_streamFrom (p : Text.Position) (s : List Char) :
    Fails Error.IsReading (streamFrom p s).outcome := by
  rw [streamFrom]
  split
  · exact fails_error trivial
  · split
    · exact fails_ok _
    · next c r hnext =>
      split
      · exact fails_error trivial
      · exact fails_error trivial
      -- behind a token stands a shorter text
      · next kind length hread =>
        have hshorter : (r.drop (length - 1)).length < s.length := by
          have hlength := congrArg List.length hnext
          simp only [List.length_drop, List.length_cons] at hlength ⊢
          omega
        exact fails_streamFrom _ (r.drop (length - 1))
termination_by s.length
decreasing_by exact hshorter

theorem fails_tokenize (input : String) : Fails Error.IsReading (tokenize input) := by
  have h := fails_streamFrom .start input.toList
  intro e he
  cases hout : (streamFrom .start input.toList).outcome with
  | ok finish =>
    rw [tokenize, stream, hout] at he
    cases he
  | error fault =>
    rw [tokenize, stream, hout] at he
    cases he
    exact h e hout

end Token

namespace Syntax

open Text (Position)

variable (finish : Position)

/-! ## Tokens that have to be there -/

theorem fails_descend (depth : Nat) (ts : List Token) :
    Fails Error.IsGrammar (descend finish depth ts) := by
  unfold descend
  split
  · exact fails_error trivial
  · exact fails_ok _

theorem fails_expect (kind : Token.Kind) (what : String) (ts : List Token) :
    Fails Error.IsGrammar (expect finish kind what ts) := by
  unfold expect
  split
  · split
    · exact fails_ok _
    · exact fails_error trivial
  · exact fails_error trivial

theorem fails_expectName (what : String) (ts : List Token) :
    Fails Error.IsGrammar (expectName finish what ts) := by
  unfold expectName
  split
  · exact fails_ok _
  · exact fails_error trivial

/-! ## Terms -/

mutual

theorem fails_chain (c : Chain) (depth : Nat) (ts : List Token) :
    Fails Error.IsGrammar (chain finish c depth ts) := by
  rw [chain]
  refine (fails_operand c depth ts).bind fun left => ?_
  exact (fails_chainTail c depth left.value left.rest).bind fun _ => fails_ok _
termination_by (ts.length, 2 * c.height + 1)
decreasing_by
  · exact Prod.Lex.right _ (by simp)
  · exact Prod.Lex.left _ _ left.fewer

theorem fails_chainTail (c : Chain) (depth : Nat) (left : Term) (ts : List Token) :
    Fails Error.IsGrammar (chainTail finish c depth left ts) := by
  match ts with
  | [] =>
    rw [chainTail]
    exact fails_ok _
  | t :: rest =>
    rw [chainTail]
    split
    · exact fails_ok _
    · refine (fails_descend finish depth rest).bind fun _ => ?_
      refine (fails_operand c (depth + 1) rest).bind fun right => ?_
      exact (fails_chainTail c (depth + 1) _ right.rest).bind fun _ => fails_ok _
termination_by (ts.length, 0)
decreasing_by
  · exact Prod.Lex.left _ _ (by simp)
  · exact Prod.Lex.left _ _ (by simp only [List.length_cons]; exact Nat.lt_succ_of_lt right.fewer)

theorem fails_operand (c : Chain) (depth : Nat) (ts : List Token) :
    Fails Error.IsGrammar (operand finish c depth ts) := by
  match c with
  | .or =>
    rw [operand]
    exact fails_chain .and depth ts
  | .and =>
    rw [operand]
    exact fails_negation depth ts
  | .bitwise =>
    rw [operand]
    exact fails_chain .additive depth ts
  | .additive =>
    rw [operand]
    exact fails_chain .multiplicative depth ts
  | .multiplicative =>
    rw [operand]
    exact fails_signed depth ts
termination_by (ts.length, 2 * c.height)
decreasing_by all_goals exact Prod.Lex.right _ (by simp [Chain.height])

theorem fails_negation (depth : Nat) (ts : List Token) :
    Fails Error.IsGrammar (negation finish depth ts) := by
  match ts with
  | [] =>
    rw [negation]
    exact fails_predicate depth []
  | t :: rest =>
    rw [negation]
    split
    · refine (fails_descend finish depth rest).bind fun _ => ?_
      exact (fails_negation (depth + 1) rest).bind fun _ => fails_ok _
    · exact fails_predicate depth (t :: rest)
termination_by (ts.length, 9)
decreasing_by
  · exact Prod.Lex.right _ (by simp)
  · exact Prod.Lex.right _ (by simp)
  · exact Prod.Lex.left _ _ (by simp)

theorem fails_predicate (depth : Nat) (ts : List Token) :
    Fails Error.IsGrammar (predicate finish depth ts) := by
  rw [predicate]
  refine (fails_chain .bitwise depth ts).bind fun left => ?_
  exact (fails_predicateTail depth left.value left.rest).bind fun _ => fails_ok _
termination_by (ts.length, 8)
decreasing_by
  · exact Prod.Lex.right _ (by simp [Chain.height])
  · exact Prod.Lex.left _ _ left.fewer

theorem fails_predicateTail (depth : Nat) (left : Term) (ts : List Token) :
    Fails Error.IsGrammar (predicateTail finish depth left ts) := by
  match ts with
  | [] =>
    rw [predicateTail]
    exact fails_ok _
  | t :: rest =>
    rw [predicateTail]
    split
    · refine (fails_descend finish depth rest).bind fun _ => ?_
      refine (fails_chain .bitwise (depth + 1) rest).bind fun right => ?_
      exact (fails_predicateTail (depth + 1) _ right.rest).bind fun _ => fails_ok _
    · split
      · exact fails_ok _
      · next head _ =>
        have hhead := head.fewer
        refine (fails_descend finish depth head.rest).bind fun _ => ?_
        refine (fails_completePredicate t.position (depth + 1) left head.value head.rest).bind
          fun whole => ?_
        have hwhole := whole.fewer
        exact (fails_predicateTail (depth + 1) whole.value whole.rest).bind fun _ => fails_ok _
termination_by (ts.length, 0)
decreasing_by
  · exact Prod.Lex.left _ _ (by simp)
  · exact Prod.Lex.left _ _ (by have := right.fewer; simp; omega)
  · exact Prod.Lex.left _ _ hhead
  · exact Prod.Lex.left _ _ (by omega)

theorem fails_completePredicate (position : Position) (depth : Nat) (left : Term)
    (head : PredicateHead) (ts : List Token) :
    Fails Error.IsGrammar (completePredicate finish position depth left head ts) := by
  match head with
  | .like negated =>
    rw [completePredicate]
    exact (fails_chain .bitwise depth (skipExact ts).2).bind fun _ => fails_ok _
  | .inList negated =>
    rw [completePredicate]
    refine (fails_expect finish (.symbol .leftParen) "'('" _).bind fun opening => ?_
    refine (fails_items depth opening.rest).bind fun list => ?_
    exact (fails_expect finish (.symbol .rightParen) "')'" _).bind fun _ => fails_ok _
  | .isNull =>
    rw [completePredicate]
    exact (fails_expect finish (.keyword .NULL) "NULL" _).bind fun _ => fails_ok _
termination_by (ts.length, 20)
decreasing_by
  · rcases Nat.lt_or_eq_of_le (length_skipExact_le ts) with h | h
    · exact Prod.Lex.left _ _ h
    · rw [h]; exact Prod.Lex.right _ (by simp [Chain.height])
  · have := opening.fewer
    have := length_skipExact_le ts
    exact Prod.Lex.left _ _ (by omega)

theorem fails_signed (depth : Nat) (ts : List Token) :
    Fails Error.IsGrammar (signed finish depth ts) := by
  match ts with
  | [] =>
    rw [signed]
    exact fails_primary depth []
  | t :: rest =>
    rw [signed]
    split
    · exact fails_primary depth (t :: rest)
    · refine (fails_descend finish depth rest).bind fun _ => ?_
      exact (fails_signed (depth + 1) rest).bind fun _ => fails_ok _
termination_by (ts.length, 1)
decreasing_by
  · exact Prod.Lex.right _ (by simp)
  · exact Prod.Lex.right _ (by simp)
  · exact Prod.Lex.left _ _ (by simp)

theorem fails_primary (depth : Nat) (ts : List Token) :
    Fails Error.IsGrammar (primary finish depth ts) := by
  match ts with
  | [] =>
    rw [primary]
    exact fails_error trivial
  | t :: rest =>
    rw [primary]
    split
    · exact fails_ok _
    · split
      · refine (fails_descend finish depth rest).bind fun _ => ?_
        refine (fails_chain .or (depth + 1) rest).bind fun inner => ?_
        exact (fails_expect finish (.symbol .rightParen) "')'" _).bind fun _ => fails_ok _
      · split
        · refine (fails_callItems depth (rest.drop 1)).bind fun arguments => ?_
          exact (fails_expect finish (.symbol .rightParen) "')'" _).bind fun _ => fails_ok _
        · exact fails_ok _
      · exact fails_error trivial
termination_by (ts.length, 0)
decreasing_by
  · exact Prod.Lex.left _ _ (by simp)
  · exact Prod.Lex.left _ _ (by simp only [List.length_drop, List.length_cons]; omega)

theorem fails_callItems (depth : Nat) (ts : List Token) :
    Fails Error.IsGrammar (callItems finish depth ts) := by
  rw [callItems]
  split
  · exact fails_ok _
  · exact (fails_items depth ts).bind fun _ => fails_ok _
termination_by (ts.length, 20)
decreasing_by exact Prod.Lex.right _ (by simp)

theorem fails_items (depth : Nat) (ts : List Token) :
    Fails Error.IsGrammar (items finish depth ts) := by
  rw [items]
  refine (fails_chain .or depth ts).bind fun first => ?_
  exact (fails_moreItems depth first.rest).bind fun _ => fails_ok _
termination_by (ts.length, 15)
decreasing_by
  · exact Prod.Lex.right _ (by simp [Chain.height])
  · exact Prod.Lex.left _ _ first.fewer

theorem fails_moreItems (depth : Nat) (ts : List Token) :
    Fails Error.IsGrammar (moreItems finish depth ts) := by
  match ts with
  | [] =>
    rw [moreItems]
    exact fails_ok _
  | t :: rest =>
    rw [moreItems]
    split
    · exact (fails_items depth rest).bind fun _ => fails_ok _
    · exact fails_ok _
termination_by (ts.length, 0)
decreasing_by exact Prod.Lex.left _ _ (by simp)

end

/-! ## Statements -/

theorem fails_limitNumber (negative : Bool) (ts : List Token) :
    Fails Error.IsGrammar (limitNumber finish negative ts) := by
  unfold limitNumber
  split
  · split
    · exact fails_ok _
    · exact fails_error trivial
  · exact fails_error trivial

theorem fails_topLimit (ts : List Token) : Fails Error.IsGrammar (topLimit finish ts) := by
  unfold topLimit
  split
  · split
    · exact (fails_limitNumber finish true _).bind fun _ => fails_ok _
    · exact (fails_limitNumber finish false _).bind fun _ => fails_ok _
  · exact fails_ok _

theorem fails_orderingTerms (ts : List Token) :
    Fails Error.IsGrammar (orderingTerms finish ts) := by
  rw [orderingTerms]
  have hterm : Fails Error.IsGrammar (orderingTerm finish ts) :=
    (fails_expectName finish "column name" _).bind fun _ => fails_ok _
  refine hterm.bind fun first => ?_
  split
  · exact (fails_orderingTerms (first.rest.drop 1)).bind fun _ => fails_ok _
  · exact fails_ok _
termination_by ts.length
decreasing_by
  have := first.fewer
  simp only [List.length_drop]
  omega

theorem fails_orderBy (ts : List Token) : Fails Error.IsGrammar (orderBy finish ts) := by
  unfold orderBy
  split
  · refine (fails_expect finish (.keyword .BY) "BY" _).bind fun byWord => ?_
    exact (fails_orderingTerms finish byWord.rest).bind fun _ => fails_ok _
  · exact fails_ok _

theorem fails_filterStatement (position : Position) (ts : List Token) :
    Fails Error.IsGrammar (filterStatement finish position ts) := by
  unfold filterStatement
  refine (fails_topLimit finish ts).bind fun limit => ?_
  refine (fails_expectName finish "table name" _).bind fun table => ?_
  refine (fails_expect finish (.keyword .WHERE) "WHERE" _).bind fun whereWord => ?_
  refine (fails_chain finish .or 0 whereWord.rest).bind fun condition => ?_
  exact (fails_orderBy finish condition.rest).bind fun _ => fails_ok _

theorem fails_readStatement (t : Token) (rest : List Token) :
    Fails Error.IsGrammar (statement finish t rest) := by
  unfold statement
  split
  · exact (fails_filterStatement finish t.position rest).bind fun _ => fails_ok _
  · split
    · exact fails_ok _
    · exact (fails_chain finish .or 0 (t :: rest)).bind fun _ => fails_ok _

theorem fails_readStatements (ts : List Token) :
    Fails Error.IsGrammar (statements finish ts) := by
  match ts with
  | [] =>
    rw [statements]
    exact fails_ok _
  | t :: rest =>
    rw [statements]
    split
    · exact fails_readStatements rest
    · refine (fails_readStatement finish t rest).bind fun s => ?_
      split
      · have hfewer := s.fewer
        exact (fails_readStatements s.rest).bind fun _ => fails_ok _
      · exact fails_error trivial
termination_by ts.length
decreasing_by
  · exact hfewer
  · simp

/-- Tokens that are not read break the grammar. -/
theorem fails_ofTokens (ts : List Token) : Fails Error.IsGrammar (Document.ofTokens ts finish) := by
  intro e he
  cases hread : statements finish ts with
  | ok list =>
    rw [Document.ofTokens, hread] at he
    cases he
  | error fault =>
    rw [Document.ofTokens, hread] at he
    cases he
    exact fails_readStatements finish ts e hread

/-- A text that is not read is misspelt or breaks the grammar. -/
theorem fails_parse (input : String) : Fails Error.IsReading (Document.parse input) := by
  refine (Token.fails_tokenize input).bind fun (tokens, finish) => ?_
  exact (fails_ofTokens finish tokens).mono fun _ he => he.isReading

end Syntax

end RowFilter
