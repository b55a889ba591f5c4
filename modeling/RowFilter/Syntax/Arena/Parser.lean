import RowFilter.Syntax.Arena
import RowFilter.Syntax.Document

/-!
Reading a document into an arena. The grammar is that of terms and documents, but what is read is
a node, which is pushed as soon as it is complete: a literal and a column at once, an operation
after its operands, a call after its arguments, a statement after its term, and the list of
statements at the end. Parentheses push nothing.
-/

namespace RowFilter.Syntax

open Text (Position)

/-! ## Tokens passed over -/

theorem length_lt_succ (ts : List Token) : ts.length < ts.length + 1 :=
  Nat.lt_succ_self _

theorem length_lt_cons (t : Token) (rest : List Token) : rest.length < (t :: rest).length :=
  Nat.lt_succ_self _

theorem length_drop_lt_cons (t : Token) (rest : List Token) :
    (rest.drop 1).length < (t :: rest).length := by
  rw [List.length_drop, List.length_cons]
  omega

theorem length_skipNegation_le (ts : List Token) : (skipNegation ts).2.length ≤ ts.length :=
  length_skipEither_le _ _ ts

namespace Parsed

variable {α β : Type} {bound : Nat}

theorem length_le (p : Parsed α bound) : p.rest.length ≤ bound :=
  Nat.le_of_lt p.fewer

theorem length_le_of_succ (p : Parsed α (bound + 1)) : p.rest.length ≤ bound :=
  Nat.le_of_lt_succ p.fewer

/-- Something for which no token is passed over. -/
def stay (value : α) (ts : List Token) : Parsed α (ts.length + 1) :=
  ⟨value, ts, length_lt_succ ts⟩

/-- Something for which one token is passed over. -/
def pass (value : α) (t : Token) (rest : List Token) : Parsed α (t :: rest).length :=
  ⟨value, rest, length_lt_cons t rest⟩

/-- What is read behind something else. -/
def andThen (first : Parsed α bound) (second : Parsed β first.rest.length) : Parsed β bound :=
  second.weaken first.length_le

/-- Something else for the same tokens. -/
def give (p : Parsed α bound) (value : β) : Parsed β bound :=
  { p with value }

end Parsed

/-- A node made of an operator of the level. -/
def Chain.node : Chain → Operator → (left right : Nat) → Node
  | or, op, l, r | and, op, l, r => .logical op l r
  | _, op, l, r => .binary op l r

namespace Arena

/-- Reading that pushes nodes on its way. -/
abbrev Pushing := StateT (Array Placed) (Except Error)

/-- Pushes a node and gives its number. -/
def pushNode (node : Node) (position : Position) : Pushing Nat :=
  modifyGet fun nodes => push nodes node position

section Reading

variable (finish : Position)

/-! ## Terms -/

mutual

/-- Pushes a chain of operators of a level. -/
def pushChain (c : Chain) (depth : Nat) (ts : List Token) : Pushing (Parsed Nat ts.length) := do
  let left ← pushOperand c depth ts
  let all ← pushChainTail c depth left.value left.rest
  return all.weaken left.fewer
termination_by (ts.length, 2 * c.height + 1)
decreasing_by
  · exact Prod.Lex.right _ (by simp)
  · exact Prod.Lex.left _ _ left.fewer

/-- Pushes the rest of a chain after its left side. -/
def pushChainTail (c : Chain) (depth : Nat) (left : Nat) (ts : List Token) :
    Pushing (Parsed Nat (ts.length + 1)) :=
  match ts with
  | [] => return .stay left []
  | t :: rest =>
    match c.operator? t.kind with
    | none => return .stay left (t :: rest)
    | some op => do
      descend finish depth rest
      let right ← pushOperand c (depth + 1) rest
      let joined ← pushNode (c.node op left right.value) t.position
      let all ← pushChainTail c (depth + 1) joined right.rest
      return (all.weaken right.fewer).behindOne.behindOne
termination_by (ts.length, 0)
decreasing_by
  · exact Prod.Lex.left _ _ (by simp)
  · exact Prod.Lex.left _ _ (by have := right.fewer; simp; omega)

/-- Pushes an operand of a level. -/
def pushOperand (c : Chain) (depth : Nat) (ts : List Token) : Pushing (Parsed Nat ts.length) :=
  match c with
  | .or => pushChain .and depth ts
  | .and => pushNegation depth ts
  | .bitwise => pushChain .additive depth ts
  | .additive => pushChain .multiplicative depth ts
  | .multiplicative => pushSigned depth ts
termination_by (ts.length, 2 * c.height)
decreasing_by all_goals exact Prod.Lex.right _ (by simp [Chain.height])

/-- Pushes a condition with any number of negations before it. -/
def pushNegation (depth : Nat) (ts : List Token) : Pushing (Parsed Nat ts.length) :=
  match ts with
  | [] => pushPredicate depth []
  | t :: rest =>
    if isNegation t.kind then do
      descend finish depth rest
      let operand ← pushNegation (depth + 1) rest
      let id ← pushNode (.not operand.value) t.position
      return (operand.give id).behindOne
    else pushPredicate depth (t :: rest)
termination_by (ts.length, 9)
decreasing_by
  · exact Prod.Lex.right _ (by simp)
  · exact Prod.Lex.left _ _ (by simp)
  · exact Prod.Lex.right _ (by simp)

/-- Pushes a value with any number of predicates after it. -/
def pushPredicate (depth : Nat) (ts : List Token) : Pushing (Parsed Nat ts.length) := do
  let left ← pushChain .bitwise depth ts
  let all ← pushPredicateTail depth left.value left.rest
  return all.weaken left.fewer
termination_by (ts.length, 8)
decreasing_by
  · exact Prod.Lex.right _ (by simp [Chain.height])
  · exact Prod.Lex.left _ _ left.fewer

/-- Pushes further predicates after the left side of the first. -/
def pushPredicateTail (depth : Nat) (left : Nat) (ts : List Token) :
    Pushing (Parsed Nat (ts.length + 1)) :=
  match ts with
  | [] => return .stay left []
  | t :: rest =>
    match comparison? t.kind with
    | some op => do
      descend finish depth rest
      let right ← pushChain .bitwise (depth + 1) rest
      let joined ← pushNode (.predicate op left right.value) t.position
      let all ← pushPredicateTail (depth + 1) joined right.rest
      return (all.weaken right.fewer).behindOne.behindOne
    | none =>
      match predicateHead? (t :: rest) with
      | none => return .stay left (t :: rest)
      | some head => do
        descend finish depth head.rest
        let whole ← pushCompletePredicate t.position (depth + 1) left head.value head.rest
        let all ← pushPredicateTail (depth + 1) whole.value whole.rest
        return (head.andThen (all.weaken whole.fewer)).behindOne
termination_by (ts.length, 0)
decreasing_by
  · exact Prod.Lex.left _ _ (by simp)
  · exact Prod.Lex.left _ _ (by have := right.fewer; simp; omega)
  · exact Prod.Lex.left _ _ head.fewer
  · exact Prod.Lex.left _ _ (by have := head.fewer; have := whole.fewer; omega)

/-- Pushes what follows the start of a predicate, and then the predicate. -/
def pushCompletePredicate (position : Position) (depth : Nat) (left : Nat) (head : PredicateHead)
    (ts : List Token) : Pushing (Parsed Nat ts.length) :=
  match head with
  | .like negated => do
    let right ← pushChain .bitwise depth (skipExact ts).2
    let id ← pushNode (.predicate (.ofLike negated (skipExact ts).1) left right.value) position
    return (right.weaken (length_skipExact_le ts)).give id
  | .inList negated => do
    let opening ← expect finish (.symbol .leftParen) "'('" (skipExact ts).2
    let list ← pushItems depth opening.rest
    let closing ← expect finish (.symbol .rightParen) "')'" list.rest
    let id ← pushNode (.inList left list.value negated (skipExact ts).1) position
    return ((opening.andThen (list.andThen closing)).weaken (length_skipExact_le ts)).give id
  | .isNull => do
    let null ← expect finish (.keyword .NULL) "NULL" (skipNegation ts).2
    let id ← pushNode (.isNull left (skipNegation ts).1) position
    return (null.weaken (length_skipNegation_le ts)).give id
termination_by (ts.length, 20)
decreasing_by
  · rcases Nat.lt_or_eq_of_le (length_skipExact_le ts) with h | h
    · exact Prod.Lex.left _ _ h
    · rw [h]; exact Prod.Lex.right _ (by simp [Chain.height])
  · have := opening.fewer
    have := length_skipExact_le ts
    exact Prod.Lex.left _ _ (by omega)

/-- Pushes a value with any number of signs before it. -/
def pushSigned (depth : Nat) (ts : List Token) : Pushing (Parsed Nat ts.length) :=
  match ts with
  | [] => pushPrimary depth []
  | t :: rest =>
    match unaryOperator? t.kind with
    | none => pushPrimary depth (t :: rest)
    | some op => do
      descend finish depth rest
      let operand ← pushSigned (depth + 1) rest
      let id ← pushNode (.unary op operand.value) t.position
      return (operand.give id).behindOne
termination_by (ts.length, 1)
decreasing_by
  · exact Prod.Lex.right _ (by simp)
  · exact Prod.Lex.right _ (by simp)
  · exact Prod.Lex.left _ _ (by simp)

/-- Pushes a term in parentheses, a literal, a column or a call. -/
def pushPrimary (depth : Nat) (ts : List Token) : Pushing (Parsed Nat ts.length) :=
  match ts with
  | [] => throw (mismatch finish [] "expression")
  | t :: rest =>
    match literal? t.kind with
    | some l => do
      let id ← pushNode (.literal l) t.position
      return .pass id t rest
    | none =>
      match t.kind with
      | .symbol .leftParen => do
        descend finish depth rest
        let inner ← pushChain .or (depth + 1) rest
        let closing ← expect finish (.symbol .rightParen) "')'" inner.rest
        return ((inner.andThen closing).give inner.value).behindOne
      | .identifier name =>
        if startsWith (.symbol .leftParen) rest then do
          let arguments ← pushCallItems depth (rest.drop 1)
          let closing ← expect finish (.symbol .rightParen) "')'" arguments.rest
          let id ← pushNode (.call name arguments.value) t.position
          return ((arguments.andThen closing).weaken (length_drop_lt_cons t rest)).give id
        else do
          let id ← pushNode (.column name) t.position
          return .pass id t rest
      | _ => throw (mismatch finish (t :: rest) "expression")
termination_by (ts.length, 0)
decreasing_by
  · exact Prod.Lex.left _ _ (by simp)
  · exact Prod.Lex.left _ _ (by simp only [List.length_drop, List.length_cons]; omega)

/-- Pushes the arguments of a call, none if it closes at once. -/
def pushCallItems (depth : Nat) (ts : List Token) :
    Pushing (Parsed (List Nat) (ts.length + 1)) :=
  if startsWith (.symbol .rightParen) ts then return .stay [] ts
  else do
    let list ← pushItems depth ts
    return list.behindOne
termination_by (ts.length, 20)
decreasing_by exact Prod.Lex.right _ (by simp)

/-- Pushes terms with commas between them, at least one. -/
def pushItems (depth : Nat) (ts : List Token) : Pushing (Parsed (List Nat) ts.length) := do
  let first ← pushChain .or depth ts
  let more ← pushMoreItems depth first.rest
  return (more.weaken first.fewer).give (first.value :: more.value)
termination_by (ts.length, 15)
decreasing_by
  · exact Prod.Lex.right _ (by simp [Chain.height])
  · exact Prod.Lex.left _ _ first.fewer

/-- Pushes further terms, each after a comma. -/
def pushMoreItems (depth : Nat) (ts : List Token) :
    Pushing (Parsed (List Nat) (ts.length + 1)) :=
  match ts with
  | [] => return .stay [] []
  | t :: rest =>
    if t.kind = .symbol .comma then do
      let list ← pushItems depth rest
      return list.behindOne.behindOne
    else return .stay [] (t :: rest)
termination_by (ts.length, 0)
decreasing_by exact Prod.Lex.left _ _ (by simp)

end

/-- Pushes a term. -/
def pushTerm (ts : List Token) : Pushing (Parsed Nat ts.length) :=
  pushChain finish .or 0 ts

/-! ## Statements -/

/-- Pushes a FILTER statement after its keyword. Its head takes no nodes of its own. -/
def pushFilterStatement (position : Position) (ts : List Token) :
    Pushing (Parsed Nat ts.length) := do
  let limit ← topLimit finish ts
  let table ← expectName finish "table name" limit.rest
  let whereWord ← expect finish (.keyword .WHERE) "WHERE" table.rest
  let condition ← pushTerm finish whereWord.rest
  let order ← orderBy finish condition.rest
  let id ← pushNode (.filterStatement ⟨table.value, limit.value, order.value⟩ condition.value)
    position
  let tail := whereWord.andThen (order.weaken condition.fewer)
  return ((table.andThen tail).weaken limit.length_le_of_succ).give id

/-- Pushes one statement. -/
def pushStatement (t : Token) (rest : List Token) : Pushing (Parsed Nat (rest.length + 1)) :=
  if t.kind = .keyword .FILTER then do
    let s ← pushFilterStatement finish t.position rest
    return s.behindOne
  else
    match (identifier? t.kind).filter fun _ => atBoundary rest with
    | some i => do
      let id ← pushNode (.identifierStatement i) t.position
      return .pass id t rest
    | none => do
      let e ← pushTerm finish (t :: rest)
      let id ← pushNode (.expressionStatement e.value) t.position
      return e.give id

/-- Pushes the statements up to the end of the input. -/
def pushStatements (ts : List Token) : Pushing (List Nat) :=
  match ts with
  | [] => return []
  | t :: rest =>
    if isSemicolon t then pushStatements rest
    else do
      let s ← pushStatement finish t rest
      if atBoundary s.rest then
        let more ← pushStatements s.rest
        return s.value :: more
      else throw (mismatch finish s.rest "';' or end of input")
termination_by ts.length
decreasing_by
  · simp
  · exact s.fewer

/-- Pushes the statements and then their list. -/
def pushDocument (ts : List Token) : Pushing Nat := do
  let ids ← pushStatements finish ts
  pushNode (.statementList ids) (here finish ts)

end Reading

/-- Reads a document into an arena, which is empty at first. -/
def parse (input : String) : Except Error Arena := do
  let (tokens, finish) ← Token.tokenize input
  let (root, nodes) ← (pushDocument finish tokens).run #[]
  return ⟨nodes, root⟩

end Arena

end RowFilter.Syntax
