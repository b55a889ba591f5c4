import RowFilter.Number.Integer
import RowFilter.Number.Word
import RowFilter.Syntax.Tree
import RowFilter.Token.Lexer

/-!
Reading a document from its tokens. Operators bind, from loosest to tightest: OR, AND, negation of
a condition, predicates, bitwise, additive and multiplicative operations, signs. Operators of one
level associate to the left. Every parenthesis, every sign or negation, and every operator of a
chain takes one level of nesting, and the levels are limited. What is read here are terms on their
own; the nodes of an arena are pushed by the same grammar.
-/

namespace RowFilter.Syntax

open Text (Position)

/-- The most levels of nesting. -/
def maxDepth : Nat := 128

/-! ## Tokens ahead -/

/-- Something read from the front of a token list, and the tokens after it, fewer than `bound`. -/
structure Parsed (α : Type) (bound : Nat) where
  value : α
  rest : List Token
  fewer : rest.length < bound

/-- The same result under a larger bound. -/
def Parsed.weaken {α : Type} {a b : Nat} (p : Parsed α a) (h : a ≤ b) : Parsed α b :=
  { p with fewer := Nat.lt_of_lt_of_le p.fewer h }

/-- The same result with one more token before it. -/
def Parsed.behindOne {α : Type} {bound : Nat} (p : Parsed α bound) : Parsed α (bound + 1) :=
  p.weaken (Nat.le_succ _)

/-- The position of the next token, or of the end of the input. -/
def here (finish : Position) : List Token → Position
  | t :: _ => t.position
  | [] => finish

/-- How the next token, or the end of the input, is named in a message. -/
def ahead : List Token → String
  | t :: _ => t.display
  | [] => Token.endDisplay

/-- The next token is not what is expected there. -/
def mismatch (finish : Position) (ts : List Token) (expected : String) : Error :=
  .grammar (.mismatched (ahead ts) expected) (here finish ts)

/-- Goes one level down, the tokens `ts` being next. -/
def descend (finish : Position) (depth : Nat) (ts : List Token) : Except Error Unit :=
  if maxDepth < depth + 1 then .error (.grammar .nestedTooDeeply (here finish ts)) else .ok ()

/-- The next token is of a kind. -/
def startsWith (kind : Token.Kind) : List Token → Bool
  | t :: _ => t.kind = kind
  | [] => false

/-- Passes over the next token if it is of one of two kinds. -/
def skipEither (a b : Token.Kind) (ts : List Token) : Bool × List Token :=
  if startsWith a ts || startsWith b ts then (true, ts.drop 1) else (false, ts)

theorem length_skipEither_le (a b : Token.Kind) (ts : List Token) :
    (skipEither a b ts).2.length ≤ ts.length := by
  unfold skipEither
  split <;> simp

/-- Passes over the mark of an exact match. -/
def skipExact (ts : List Token) : Bool × List Token :=
  skipEither (.keyword .BINARY) (.symbol .tripleEqual) ts

/-- Passes over a negation. -/
def skipNegation (ts : List Token) : Bool × List Token :=
  skipEither (.keyword .NOT) (.symbol .bang) ts

theorem length_skipExact_le (ts : List Token) : (skipExact ts).2.length ≤ ts.length :=
  length_skipEither_le _ _ ts

/-- Passes over a token that has to be there. -/
def expect (finish : Position) (kind : Token.Kind) (what : String) :
    (ts : List Token) → Except Error (Parsed Unit ts.length)
  | t :: ts =>
    if t.kind = kind then .ok ⟨(), ts, by simp⟩ else .error (mismatch finish (t :: ts) what)
  | [] => .error (mismatch finish [] what)

/-- Reads a name that has to be there. -/
def expectName (finish : Position) (what : String) :
    (ts : List Token) → Except Error (Parsed String ts.length)
  | ⟨.identifier name, _, _⟩ :: ts => .ok ⟨name, ts, by simp⟩
  | ts => .error (mismatch finish ts what)

/-! ## Operators -/

/-- The levels of binary operators that form chains. -/
inductive Chain where
  | or
  | and
  | bitwise
  | additive
  | multiplicative
deriving DecidableEq, Repr

namespace Chain

/-- The operator of a level that a token stands for. -/
def operator? : Chain → Token.Kind → Option Operator
  | or, .keyword .OR | or, .symbol .pipePipe => some .or
  | and, .keyword .AND | and, .symbol .ampAmp => some .and
  | bitwise, .symbol .amp => some .bitwiseAnd
  | bitwise, .symbol .pipe => some .bitwiseOr
  | bitwise, .symbol .caret | bitwise, .keyword .XOR => some .bitwiseXor
  | bitwise, .symbol .shiftLeft => some .shiftLeft
  | bitwise, .symbol .shiftRight => some .shiftRight
  | additive, .symbol .plus => some .add
  | additive, .symbol .minus => some .subtract
  | multiplicative, .symbol .star => some .multiply
  | multiplicative, .symbol .slash => some .divide
  | multiplicative, .symbol .percent => some .modulus
  | _, _ => none

/-- A term made of an operator of the level. -/
def join : Chain → Position → Operator → Term → Term → Term
  | or, p, op, l, r | and, p, op, l, r => .logical p op l r
  | _, p, op, l, r => .binary p op l r

/-- Height above the signs, by which the levels call one another. -/
def height : Chain → Nat
  | multiplicative => 1
  | additive => 2
  | bitwise => 3
  | and => 5
  | or => 6

end Chain

/-- The comparison a token stands for. -/
def comparison? : Token.Kind → Option Operator
  | .symbol .less => some .less
  | .symbol .lessEqual => some .lessOrEqual
  | .symbol .greater => some .greater
  | .symbol .greaterEqual => some .greaterOrEqual
  | .symbol .equal | .symbol .doubleEqual => some .equal
  | .symbol .tripleEqual => some .equalExact
  | .symbol .notEqual | .symbol .lessGreater => some .notEqual
  | .symbol .notDoubleEqual => some .notEqualExact
  | _ => none

/-- The sign or negation a token stands for before a value. -/
def unaryOperator? : Token.Kind → Option UnaryOperator
  | .symbol .minus => some .minus
  | .symbol .plus => some .plus
  | .symbol .tilde => some .bitwiseNot
  | .symbol .bang | .keyword .NOT => some .not
  | _ => none

/-- A token that negates a condition. -/
def isNegation (kind : Token.Kind) : Bool :=
  kind = .keyword .NOT || kind = .symbol .bang

/-- The literal a token stands for. -/
def literal? : Token.Kind → Option Literal
  | .keyword .NULL => some .null
  | .keyword .TRUE => some (.boolean true)
  | .keyword .FALSE => some (.boolean false)
  | .integer text => some (.integer text)
  | .numeric text => some (.numeric text)
  | .string text => some (.string text)
  | .guid text => some (.guid text)
  | .dateTime text => some (.dateTime text)
  | .measurementKey text => some (.measurementKey text)
  | .pointTag text => some (.pointTag text)
  | _ => none

/-- The start of a predicate other than a comparison. -/
inductive PredicateHead where
  | like (negated : Bool)
  | inList (negated : Bool)
  | isNull
deriving DecidableEq, Repr

/-- Reads the start of such a predicate. A negation belongs to it only before LIKE or IN. -/
def predicateHead? : (ts : List Token) → Option (Parsed PredicateHead ts.length)
  | t :: ts =>
    match t.kind with
    | .keyword .LIKE => some ⟨.like false, ts, by simp⟩
    | .keyword .IN => some ⟨.inList false, ts, by simp⟩
    | .keyword .IS => some ⟨.isNull, ts, by simp⟩
    | kind =>
      if isNegation kind then
        match ts with
        | u :: rest =>
          match u.kind with
          | .keyword .LIKE => some ⟨.like true, rest, by simp only [List.length_cons]; omega⟩
          | .keyword .IN => some ⟨.inList true, rest, by simp only [List.length_cons]; omega⟩
          | _ => none
        | [] => none
      else none
  | [] => none

/-! ## Terms -/

section Terms

variable (finish : Position)

mutual

/-- A chain of operators of a level. -/
def chain (c : Chain) (depth : Nat) (ts : List Token) : Except Error (Parsed Term ts.length) := do
  let left ← operand c depth ts
  let all ← chainTail c depth left.value left.rest
  return all.weaken left.fewer
termination_by (ts.length, 2 * c.height + 1)
decreasing_by
  · exact Prod.Lex.right _ (by simp)
  · exact Prod.Lex.left _ _ left.fewer

/-- The rest of a chain after its left side. -/
def chainTail (c : Chain) (depth : Nat) (left : Term) (ts : List Token) :
    Except Error (Parsed Term (ts.length + 1)) :=
  match ts with
  | [] => .ok ⟨left, [], by simp⟩
  | t :: rest =>
    match c.operator? t.kind with
    | none => .ok ⟨left, t :: rest, by simp⟩
    | some op => do
      descend finish depth rest
      let right ← operand c (depth + 1) rest
      let all ← chainTail c (depth + 1) (c.join t.position op left right.value) right.rest
      return all.weaken (by have := right.fewer; simp; omega)
termination_by (ts.length, 0)
decreasing_by
  · exact Prod.Lex.left _ _ (by simp)
  · exact Prod.Lex.left _ _ (by have := right.fewer; simp; omega)

/-- An operand of a level: a term of the next tighter one. -/
def operand (c : Chain) (depth : Nat) (ts : List Token) :
    Except Error (Parsed Term ts.length) :=
  match c with
  | .or => chain .and depth ts
  | .and => negation depth ts
  | .bitwise => chain .additive depth ts
  | .additive => chain .multiplicative depth ts
  | .multiplicative => signed depth ts
termination_by (ts.length, 2 * c.height)
decreasing_by all_goals exact Prod.Lex.right _ (by simp [Chain.height])

/-- A condition with any number of negations before it. -/
def negation (depth : Nat) (ts : List Token) : Except Error (Parsed Term ts.length) :=
  match ts with
  | [] => predicate depth []
  | t :: rest =>
    if isNegation t.kind then do
      descend finish depth rest
      let operand ← negation (depth + 1) rest
      return ⟨.not t.position operand.value, operand.rest, by
        have := operand.fewer; simp; omega⟩
    else predicate depth (t :: rest)
termination_by (ts.length, 9)
decreasing_by
  · exact Prod.Lex.right _ (by simp)
  · exact Prod.Lex.left _ _ (by simp)
  · exact Prod.Lex.right _ (by simp)

/-- A value with any number of predicates after it. -/
def predicate (depth : Nat) (ts : List Token) : Except Error (Parsed Term ts.length) := do
  let left ← chain .bitwise depth ts
  let all ← predicateTail depth left.value left.rest
  return all.weaken left.fewer
termination_by (ts.length, 8)
decreasing_by
  · exact Prod.Lex.right _ (by simp [Chain.height])
  · exact Prod.Lex.left _ _ left.fewer

/-- Further predicates after the left side of the first. -/
def predicateTail (depth : Nat) (left : Term) (ts : List Token) :
    Except Error (Parsed Term (ts.length + 1)) :=
  match ts with
  | [] => .ok ⟨left, [], by simp⟩
  | t :: rest =>
    match comparison? t.kind with
    | some op => do
      descend finish depth rest
      let right ← chain .bitwise (depth + 1) rest
      let all ← predicateTail (depth + 1) (.predicate t.position op left right.value) right.rest
      return all.weaken (by have := right.fewer; simp; omega)
    | none =>
      match predicateHead? (t :: rest) with
      | none => .ok ⟨left, t :: rest, by simp⟩
      | some head => do
        descend finish depth head.rest
        let whole ← completePredicate t.position (depth + 1) left head.value head.rest
        let all ← predicateTail (depth + 1) whole.value whole.rest
        return all.weaken (by have := head.fewer; have := whole.fewer; omega)
termination_by (ts.length, 0)
decreasing_by
  · exact Prod.Lex.left _ _ (by simp)
  · exact Prod.Lex.left _ _ (by have := right.fewer; simp; omega)
  · exact Prod.Lex.left _ _ head.fewer
  · exact Prod.Lex.left _ _ (by have := head.fewer; have := whole.fewer; omega)

/-- What follows the start of a predicate: a pattern, a list, or NULL. -/
def completePredicate (position : Position) (depth : Nat) (left : Term) (head : PredicateHead)
    (ts : List Token) : Except Error (Parsed Term ts.length) :=
  match head with
  | .like negated => do
    let right ← chain .bitwise depth (skipExact ts).2
    return ⟨.predicate position (.ofLike negated (skipExact ts).1) left right.value, right.rest,
      Nat.lt_of_lt_of_le right.fewer (length_skipExact_le ts)⟩
  | .inList negated => do
    let opening ← expect finish (.symbol .leftParen) "'('" (skipExact ts).2
    let list ← items depth opening.rest
    let closing ← expect finish (.symbol .rightParen) "')'" list.rest
    return ⟨.inList position left list.value negated (skipExact ts).1, closing.rest, by
      have := closing.fewer
      have := list.fewer
      have := opening.fewer
      have := length_skipExact_le ts
      omega⟩
  | .isNull => do
    let null ← expect finish (.keyword .NULL) "NULL" (skipNegation ts).2
    return ⟨.isNull position left (skipNegation ts).1, null.rest,
      Nat.lt_of_lt_of_le null.fewer (length_skipEither_le _ _ ts)⟩
termination_by (ts.length, 20)
decreasing_by
  · rcases Nat.lt_or_eq_of_le (length_skipExact_le ts) with h | h
    · exact Prod.Lex.left _ _ h
    · rw [h]; exact Prod.Lex.right _ (by simp [Chain.height])
  · have := opening.fewer
    have := length_skipExact_le ts
    exact Prod.Lex.left _ _ (by omega)

/-- A value with any number of signs before it. -/
def signed (depth : Nat) (ts : List Token) : Except Error (Parsed Term ts.length) :=
  match ts with
  | [] => primary depth []
  | t :: rest =>
    match unaryOperator? t.kind with
    | none => primary depth (t :: rest)
    | some op => do
      descend finish depth rest
      let operand ← signed (depth + 1) rest
      return ⟨.unary t.position op operand.value, operand.rest, by
        have := operand.fewer; simp; omega⟩
termination_by (ts.length, 1)
decreasing_by
  · exact Prod.Lex.right _ (by simp)
  · exact Prod.Lex.right _ (by simp)
  · exact Prod.Lex.left _ _ (by simp)

/-- A term in parentheses, a literal, a column or a call. -/
def primary (depth : Nat) (ts : List Token) : Except Error (Parsed Term ts.length) :=
  match ts with
  | [] => .error (mismatch finish [] "expression")
  | t :: rest =>
    match literal? t.kind with
    | some l => .ok ⟨.literal t.position l, rest, by simp⟩
    | none =>
      match t.kind with
      | .symbol .leftParen => do
        descend finish depth rest
        let inner ← chain .or (depth + 1) rest
        let closing ← expect finish (.symbol .rightParen) "')'" inner.rest
        return ⟨inner.value, closing.rest, by
          have := closing.fewer
          have := inner.fewer
          simp
          omega⟩
      | .identifier name =>
        if startsWith (.symbol .leftParen) rest then do
          let arguments ← callItems depth (rest.drop 1)
          let closing ← expect finish (.symbol .rightParen) "')'" arguments.rest
          return ⟨.call t.position name arguments.value, closing.rest, by
            have := closing.fewer
            have := arguments.fewer
            simp at this ⊢
            omega⟩
        else .ok ⟨.column t.position name, rest, by simp⟩
      | _ => .error (mismatch finish (t :: rest) "expression")
termination_by (ts.length, 0)
decreasing_by
  · exact Prod.Lex.left _ _ (by simp)
  · exact Prod.Lex.left _ _ (by simp only [List.length_drop, List.length_cons]; omega)

/-- The arguments of a call, none if it closes at once. -/
def callItems (depth : Nat) (ts : List Token) :
    Except Error (Parsed (List Term) (ts.length + 1)) :=
  if startsWith (.symbol .rightParen) ts then .ok ⟨[], ts, by simp⟩
  else do
    let list ← items depth ts
    return list.behindOne
termination_by (ts.length, 20)
decreasing_by exact Prod.Lex.right _ (by simp)

/-- Terms with commas between them, at least one. -/
def items (depth : Nat) (ts : List Token) : Except Error (Parsed (List Term) ts.length) := do
  let first ← chain .or depth ts
  let more ← moreItems depth first.rest
  return ⟨first.value :: more.value, more.rest, by
    have := more.fewer
    have := first.fewer
    omega⟩
termination_by (ts.length, 15)
decreasing_by
  · exact Prod.Lex.right _ (by simp [Chain.height])
  · exact Prod.Lex.left _ _ first.fewer

/-- Further terms, each after a comma. -/
def moreItems (depth : Nat) (ts : List Token) :
    Except Error (Parsed (List Term) (ts.length + 1)) :=
  match ts with
  | [] => .ok ⟨[], [], by simp⟩
  | t :: rest =>
    if t.kind = .symbol .comma then do
      let list ← items depth rest
      return list.weaken (by simp; omega)
    else .ok ⟨[], t :: rest, by simp⟩
termination_by (ts.length, 0)
decreasing_by exact Prod.Lex.left _ _ (by simp)

end

end Terms

/-- Reads a term. -/
def term (finish : Position) (ts : List Token) : Except Error (Parsed Term ts.length) :=
  chain finish .or 0 ts

end RowFilter.Syntax
