import RowFilter.Proofs.Outcome
import RowFilter.Proofs.Syntax.Layout
import RowFilter.Syntax.Arena.Parser

/-!
The nodes that are pushed while a text is read are those of its document, in the order in which a
finished document is laid out. Each procedure that pushes is compared with the one that gives a
term: from any nodes on, it comes to the numbers and nodes that placing the term comes to, leaves
the same tokens, and fails with the same error.
-/

namespace RowFilter.Syntax

open Text (Position)

/-- What is read, put in its place: its number instead of it, and the nodes that there are then. -/
def Parsed.placed {α β : Type} {bound : Nat} (place : α → β × Array Placed)
    (p : Parsed α bound) : Parsed β bound × Array Placed :=
  (⟨(place p.value).1, p.rest, p.fewer⟩, (place p.value).2)

namespace Arena

variable {α β γ δ : Type}

/-- Pushing, from these nodes on, comes to what reading and then placing the result comes to. -/
def Refines (x : Pushing β) (nodes : Array Placed) (y : Except Error α)
    (place : α → β × Array Placed) : Prop :=
  x.run nodes = y.map place

namespace Refines

variable {nodes : Array Placed} {x : Pushing β} {y : Except Error α} {k : β → Pushing δ}
  {l : α → Except Error γ} {place : α → β × Array Placed} {place' : γ → δ × Array Placed}

/-- The second step starts from the nodes that the first one leaves. -/
theorem bind (hx : Refines x nodes y place)
    (hk : ∀ a, Refines (k (place a).1) (place a).2 (l a) place') :
    Refines (x >>= k) nodes (y >>= l) place' := by
  rw [Refines] at hx ⊢
  rw [StateT.run_bind, hx]
  cases y with
  | error e => rfl
  | ok a => exact hk a

/-- A step that pushes nothing is the same on both sides. -/
theorem lift {k : α → Pushing δ} (hk : ∀ a, Refines (k a) nodes (l a) place') :
    Refines (liftM y >>= k) nodes (y >>= l) place' := by
  cases y with
  | error e => rfl
  | ok a => exact hk a

/-- A node that is pushed alone is part of how the result is placed. -/
theorem pushNode {node : Node} {p : Position} {k : Nat → Pushing δ} {y : Except Error γ}
    (hk : Refines (k (push nodes node p).1) (push nodes node p).2 y place') :
    Refines (Arena.pushNode node p >>= k) nodes y place' :=
  hk

end Refines

theorem placeTerm_join (c : Chain) (p : Position) (op : Operator) (nodes : Array Placed)
    (left right : Term) :
    placeTerm nodes (c.join p op left right) =
      push (placeTerm (placeTerm nodes left).2 right).2
        (c.node op (placeTerm nodes left).1 (placeTerm (placeTerm nodes left).2 right).1) p := by
  cases c <;> rfl

section Terms

variable {finish : Position}

mutual

theorem refines_chain (c : Chain) (depth : Nat) (ts : List Token) (nodes : Array Placed) :
    Refines (pushChain finish c depth ts) nodes (chain finish c depth ts)
      (Parsed.placed (placeTerm nodes)) := by
  rw [pushChain, chain]
  refine (refines_operand c depth ts nodes).bind fun left => ?_
  exact (refines_chainTail c depth left.value left.rest nodes).bind fun all => rfl
termination_by (ts.length, 2 * c.height + 1)
decreasing_by
  · exact Prod.Lex.right _ (by simp)
  · exact Prod.Lex.left _ _ left.fewer

/-- The left side has been placed, and the tail goes on behind it. -/
theorem refines_chainTail (c : Chain) (depth : Nat) (left : Term) (ts : List Token)
    (nodes : Array Placed) :
    Refines (pushChainTail finish c depth (placeTerm nodes left).1 ts) (placeTerm nodes left).2
      (chainTail finish c depth left ts) (Parsed.placed (placeTerm nodes)) := by
  match ts with
  | [] =>
    rw [pushChainTail, chainTail]
    rfl
  | t :: rest =>
    rw [pushChainTail, chainTail]
    cases c.operator? t.kind with
    | none => rfl
    | some op =>
      refine .lift fun _ => ?_
      refine (refines_operand c (depth + 1) rest _).bind fun right => ?_
      -- the node that joins the sides stands where the joined term is placed, and the tail goes on
      -- with this term as its left side
      have hall := refines_chainTail c (depth + 1) (c.join t.position op left right.value)
        right.rest nodes
      rw [placeTerm_join] at hall
      exact .pushNode (hall.bind fun all => rfl)
termination_by (ts.length, 0)
decreasing_by
  · exact Prod.Lex.left _ _ (by simp)
  · exact Prod.Lex.left _ _ (by have := right.fewer; simp; omega)

theorem refines_operand (c : Chain) (depth : Nat) (ts : List Token) (nodes : Array Placed) :
    Refines (pushOperand finish c depth ts) nodes (operand finish c depth ts)
      (Parsed.placed (placeTerm nodes)) := by
  match c with
  | .or =>
    rw [pushOperand, operand]
    exact refines_chain .and depth ts nodes
  | .and =>
    rw [pushOperand, operand]
    exact refines_negation depth ts nodes
  | .bitwise =>
    rw [pushOperand, operand]
    exact refines_chain .additive depth ts nodes
  | .additive =>
    rw [pushOperand, operand]
    exact refines_chain .multiplicative depth ts nodes
  | .multiplicative =>
    rw [pushOperand, operand]
    exact refines_signed depth ts nodes
termination_by (ts.length, 2 * c.height)
decreasing_by all_goals exact Prod.Lex.right _ (by simp [Chain.height])

theorem refines_negation (depth : Nat) (ts : List Token) (nodes : Array Placed) :
    Refines (pushNegation finish depth ts) nodes (negation finish depth ts)
      (Parsed.placed (placeTerm nodes)) := by
  match ts with
  | [] =>
    rw [pushNegation, negation]
    exact refines_predicate depth [] nodes
  | t :: rest =>
    rw [pushNegation, negation]
    split
    · refine .lift fun _ => ?_
      exact (refines_negation (depth + 1) rest nodes).bind fun operand => rfl
    · exact refines_predicate depth (t :: rest) nodes
termination_by (ts.length, 9)
decreasing_by
  · exact Prod.Lex.right _ (by simp)
  · exact Prod.Lex.right _ (by simp)
  · exact Prod.Lex.left _ _ (by simp)

theorem refines_predicate (depth : Nat) (ts : List Token) (nodes : Array Placed) :
    Refines (pushPredicate finish depth ts) nodes (predicate finish depth ts)
      (Parsed.placed (placeTerm nodes)) := by
  rw [pushPredicate, predicate]
  refine (refines_chain .bitwise depth ts nodes).bind fun left => ?_
  exact (refines_predicateTail depth left.value left.rest nodes).bind fun all => rfl
termination_by (ts.length, 8)
decreasing_by
  · exact Prod.Lex.right _ (by simp [Chain.height])
  · exact Prod.Lex.left _ _ left.fewer

theorem refines_predicateTail (depth : Nat) (left : Term) (ts : List Token)
    (nodes : Array Placed) :
    Refines (pushPredicateTail finish depth (placeTerm nodes left).1 ts) (placeTerm nodes left).2
      (predicateTail finish depth left ts) (Parsed.placed (placeTerm nodes)) := by
  match ts with
  | [] =>
    rw [pushPredicateTail, predicateTail]
    rfl
  | t :: rest =>
    rw [pushPredicateTail, predicateTail]
    cases comparison? t.kind with
    | none =>
      cases predicateHead? (t :: rest) with
      | none => rfl
      | some head =>
        have hhead := head.fewer
        refine .lift fun _ => ?_
        refine (refines_completePredicate t.position (depth + 1) left head.value head.rest
          nodes).bind fun whole => ?_
        have hwhole := whole.fewer
        exact (refines_predicateTail (depth + 1) whole.value whole.rest nodes).bind fun all => rfl
    | some op =>
      refine .lift fun _ => ?_
      refine (refines_chain .bitwise (depth + 1) rest _).bind fun right => ?_
      have hall := refines_predicateTail (depth + 1) (.predicate t.position op left right.value)
        right.rest nodes
      exact .pushNode (hall.bind fun all => rfl)
termination_by (ts.length, 0)
decreasing_by
  · exact Prod.Lex.left _ _ hhead
  · exact Prod.Lex.left _ _ (by omega)
  · exact Prod.Lex.left _ _ (by simp)
  · exact Prod.Lex.left _ _ (by have := right.fewer; simp; omega)

theorem refines_completePredicate (position : Position) (depth : Nat) (left : Term)
    (head : PredicateHead) (ts : List Token) (nodes : Array Placed) :
    Refines (pushCompletePredicate finish position depth (placeTerm nodes left).1 head ts)
      (placeTerm nodes left).2 (completePredicate finish position depth left head ts)
      (Parsed.placed (placeTerm nodes)) := by
  match head with
  | .like negated =>
    rw [pushCompletePredicate, completePredicate]
    exact (refines_chain .bitwise depth (skipExact ts).2 _).bind fun right => rfl
  | .inList negated =>
    rw [pushCompletePredicate, completePredicate]
    refine .lift fun opening => ?_
    -- the items are pushed behind the left side and before the node of the predicate
    refine (refines_items depth opening.rest _).bind fun list => ?_
    exact .lift fun closing => rfl
  | .isNull =>
    rw [pushCompletePredicate, completePredicate]
    exact .lift fun null => rfl
termination_by (ts.length, 20)
decreasing_by
  · rcases Nat.lt_or_eq_of_le (length_skipExact_le ts) with h | h
    · exact Prod.Lex.left _ _ h
    · rw [h]; exact Prod.Lex.right _ (by simp [Chain.height])
  · have := opening.fewer
    have := length_skipExact_le ts
    exact Prod.Lex.left _ _ (by omega)

theorem refines_signed (depth : Nat) (ts : List Token) (nodes : Array Placed) :
    Refines (pushSigned finish depth ts) nodes (signed finish depth ts)
      (Parsed.placed (placeTerm nodes)) := by
  match ts with
  | [] =>
    rw [pushSigned, signed]
    exact refines_primary depth [] nodes
  | t :: rest =>
    rw [pushSigned, signed]
    cases unaryOperator? t.kind with
    | none => exact refines_primary depth (t :: rest) nodes
    | some op =>
      refine .lift fun _ => ?_
      exact (refines_signed (depth + 1) rest nodes).bind fun operand => rfl
termination_by (ts.length, 1)
decreasing_by
  · exact Prod.Lex.right _ (by simp)
  · exact Prod.Lex.right _ (by simp)
  · exact Prod.Lex.left _ _ (by simp)

theorem refines_primary (depth : Nat) (ts : List Token) (nodes : Array Placed) :
    Refines (pushPrimary finish depth ts) nodes (primary finish depth ts)
      (Parsed.placed (placeTerm nodes)) := by
  match ts with
  | [] =>
    rw [pushPrimary, primary]
    rfl
  | t :: rest =>
    rw [pushPrimary, primary]
    cases literal? t.kind with
    | some l => rfl
    | none =>
      generalize t.kind = kind
      cases kind with
      | symbol s =>
        cases s with
        | leftParen =>
          refine .lift fun _ => ?_
          refine (refines_chain .or (depth + 1) rest nodes).bind fun inner => ?_
          -- parentheses push nothing, the number is that of the inner term
          exact .lift fun closing => rfl
        | _ => rfl
      | identifier name =>
        dsimp only
        split
        · refine (refines_callItems depth (rest.drop 1) nodes).bind fun arguments => ?_
          exact .lift fun closing => rfl
        · rfl
      | _ => rfl
termination_by (ts.length, 0)
decreasing_by
  · exact Prod.Lex.left _ _ (by simp)
  · exact Prod.Lex.left _ _ (by simp only [List.length_drop, List.length_cons]; omega)

theorem refines_callItems (depth : Nat) (ts : List Token) (nodes : Array Placed) :
    Refines (pushCallItems finish depth ts) nodes (callItems finish depth ts)
      (Parsed.placed (placeTerms nodes)) := by
  rw [pushCallItems, callItems]
  split
  · rfl
  · exact (refines_items depth ts nodes).bind fun list => rfl
termination_by (ts.length, 20)
decreasing_by exact Prod.Lex.right _ (by simp)

theorem refines_items (depth : Nat) (ts : List Token) (nodes : Array Placed) :
    Refines (pushItems finish depth ts) nodes (items finish depth ts)
      (Parsed.placed (placeTerms nodes)) := by
  rw [pushItems, items]
  refine (refines_chain .or depth ts nodes).bind fun first => ?_
  exact (refines_moreItems depth first.rest _).bind fun more => rfl
termination_by (ts.length, 15)
decreasing_by
  · exact Prod.Lex.right _ (by simp [Chain.height])
  · exact Prod.Lex.left _ _ first.fewer

theorem refines_moreItems (depth : Nat) (ts : List Token) (nodes : Array Placed) :
    Refines (pushMoreItems finish depth ts) nodes (moreItems finish depth ts)
      (Parsed.placed (placeTerms nodes)) := by
  match ts with
  | [] =>
    rw [pushMoreItems, moreItems]
    rfl
  | t :: rest =>
    rw [pushMoreItems, moreItems]
    split
    · exact (refines_items depth rest nodes).bind fun list => rfl
    · rfl
termination_by (ts.length, 0)
decreasing_by exact Prod.Lex.left _ _ (by simp)

end

end Terms

section Statements

variable {finish : Position}

theorem refines_filterStatement (position : Position) (ts : List Token) (nodes : Array Placed) :
    Refines (pushFilterStatement finish position ts) nodes (filterStatement finish position ts)
      (Parsed.placed (placeStatement nodes)) := by
  rw [pushFilterStatement, filterStatement]
  refine .lift fun limit => .lift fun table => .lift fun whereWord => ?_
  -- the condition is all that a FILTER statement pushes before its own node
  refine (refines_chain .or 0 whereWord.rest nodes).bind fun condition => ?_
  exact .lift fun order => rfl

theorem refines_statement (t : Token) (rest : List Token) (nodes : Array Placed) :
    Refines (pushStatement finish t rest) nodes (statement finish t rest)
      (Parsed.placed (placeStatement nodes)) := by
  rw [pushStatement, statement]
  split
  · exact (refines_filterStatement t.position rest nodes).bind fun s => rfl
  · cases (identifier? t.kind).filter fun _ => atBoundary rest with
    | some i => rfl
    | none => exact (refines_chain .or 0 (t :: rest) nodes).bind fun e => rfl

theorem refines_statements (ts : List Token) (nodes : Array Placed) :
    Refines (pushStatements finish ts) nodes (Syntax.statements finish ts)
      (placeStatements nodes) := by
  match ts with
  | [] =>
    rw [pushStatements, Syntax.statements]
    rfl
  | t :: rest =>
    rw [pushStatements, Syntax.statements]
    split
    · exact refines_statements rest nodes
    · refine (refines_statement t rest nodes).bind fun s => ?_
      have hs := s.fewer
      show Refines (if atBoundary s.rest then _ else _) _ (if atBoundary s.rest then _ else _) _
      split
      · exact (refines_statements s.rest _).bind fun more => rfl
      · rfl
termination_by ts.length

/-- The list of the statements is pushed behind all of them. -/
theorem refines_document (ts : List Token) (nodes : Array Placed) :
    Refines (pushDocument finish ts) nodes (Syntax.statements finish ts) fun list =>
      push (placeStatements nodes list).2 (.statementList (placeStatements nodes list).1)
        (here finish ts) := by
  rw [pushDocument, ← bind_pure (Syntax.statements finish ts)]
  exact (refines_statements ts nodes).bind fun list => rfl

end Statements

/-- Reading a text into an arena gives the arena of its document, and fails as reading it does. -/
theorem parse_eq_map_ofDocument (input : String) :
    parse input = (Document.parse input).map ofDocument := by
  rw [parse, Document.parse]
  cases Token.tokenize input with
  | error e => rfl
  | ok stream =>
    obtain ⟨tokens, finish⟩ := stream
    have hpush : (pushDocument finish tokens).run #[] = _ := refines_document tokens #[]
    show ((pushDocument finish tokens).run #[] >>= fun placed => .ok ⟨placed.2, placed.1⟩) =
      (Document.ofTokens tokens finish).map ofDocument
    rw [hpush, Document.ofTokens]
    cases Syntax.statements finish tokens with
    | error e => rfl
    | ok list => rfl

/-- What a text is read into holds the document of the text. -/
theorem holds_of_parse {input : String} {a : Arena} (h : parse input = .ok a) :
    ∃ d, Document.parse input = .ok d ∧ a.Holds d := by
  rw [parse_eq_map_ofDocument] at h
  cases hd : Document.parse input with
  | error e =>
    rw [hd] at h
    cases h
  | ok d =>
    rw [hd] at h
    obtain rfl : ofDocument d = a := Except.ok.inj h
    exact ⟨d, rfl, holds_ofDocument d⟩

end Arena

end RowFilter.Syntax
