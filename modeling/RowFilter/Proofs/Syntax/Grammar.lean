import RowFilter.Syntax.Document

/-!
The grammar of filter expressions, as a relation between token lists and syntax. A phrase has a
rank, a level of nesting it starts at, its tokens, and its term. Nothing here says how a phrase is
found: the reader of token lists is compared with this grammar elsewhere.
-/

namespace RowFilter.Syntax

open Text (Position)

/-! ## Parts shared by several rules -/

/-- At most one token, of one of two kinds, and whether it is there. -/
inductive Optionally (a b : Token.Kind) : Bool → List Token → Prop where
  | absent : Optionally a b false []
  | present {o : Token} (ho : o.kind = a ∨ o.kind = b) : Optionally a b true [o]

/-- Token lists put together, with one token of a kind between every two of them. -/
inductive Separated (kind : Token.Kind) : List (List Token) → List Token → Prop where
  | last (ts : List Token) : Separated kind [ts] ts
  | more {ts all : List Token} {parts : List (List Token)} {o : Token} (ho : o.kind = kind)
      (hall : Separated kind parts all) : Separated kind (ts :: parts) (ts ++ o :: all)

/-- The word of a predicate, possibly negated, with the position of the first of its tokens. -/
inductive Opens (word : Keyword) : Bool → Position → List Token → Prop where
  | plain {o : Token} (ho : o.kind = .keyword word) : Opens word false o.position [o]
  | negated {n o : Token} (hn : isNegation n.kind = true) (ho : o.kind = .keyword word) :
      Opens word true n.position [n, o]

/-- The mark of an exact match. -/
abbrev ExactMark : Bool → List Token → Prop :=
  Optionally (.keyword .BINARY) (.symbol .tripleEqual)

/-- A negation that may be there. -/
abbrev NegationMark : Bool → List Token → Prop :=
  Optionally (.keyword .NOT) (.symbol .bang)

/-! ## Terms -/

/-- The kinds of phrases that are terms, from loosest to tightest within an expression. -/
inductive Rank where
  /-- Operands with operators of one level between them. -/
  | level (c : Chain)
  /-- The first operand and so many operators of the level, each with its right operand. -/
  | links (c : Chain) (count : Nat)
  | negation
  | predicate
  /-- A value and so many predicates after it. -/
  | suffixed (count : Nat)
  | signed
  | primary
deriving DecidableEq, Repr

/-- The rank of the operands of a level. -/
def Chain.operandRank : Chain → Rank
  | or => .level .and
  | and => .negation
  | bitwise => .level .additive
  | additive => .level .multiplicative
  | multiplicative => .signed

/-- A phrase of a rank that starts at a level of nesting. The first operand of a chain is at the
level of the chain and the right side of its i-th operator is i levels below; parentheses, signs
and negations go down one level; the arguments of a call stay at the level of the call. No level
exceeds `maxDepth`. -/
inductive Derives : Rank → Nat → List Token → Term → Prop where
  -- chains
  | first {c : Chain} {d : Nat} {ts : List Token} {t : Term}
      (h : Derives c.operandRank d ts t) : Derives (.links c 0) d ts t
  | link {c : Chain} {d n : Nat} {ts us : List Token} {o : Token} {op : Operator}
      {left right : Term} (hl : Derives (.links c n) d ts left)
      (ho : c.operator? o.kind = some op) (hd : d + (n + 1) ≤ maxDepth)
      (hr : Derives c.operandRank (d + (n + 1)) us right) :
      Derives (.links c (n + 1)) d (ts ++ o :: us) (c.join o.position op left right)
  | level {c : Chain} {d n : Nat} {ts : List Token} {t : Term}
      (h : Derives (.links c n) d ts t) : Derives (.level c) d ts t
  -- conditions
  | not {d : Nat} {o : Token} {ts : List Token} {t : Term} (ho : isNegation o.kind = true)
      (hd : d + 1 ≤ maxDepth) (h : Derives .negation (d + 1) ts t) :
      Derives .negation d (o :: ts) (.not o.position t)
  | condition {d : Nat} {o : Token} {ts : List Token} {t : Term}
      (ho : isNegation o.kind = false) (h : Derives .predicate d (o :: ts) t) :
      Derives .negation d (o :: ts) t
  -- predicates
  | value {d : Nat} {ts : List Token} {t : Term} (h : Derives (.level .bitwise) d ts t) :
      Derives (.suffixed 0) d ts t
  | comparison {d n : Nat} {ts us : List Token} {o : Token} {op : Operator} {left right : Term}
      (hl : Derives (.suffixed n) d ts left) (ho : comparison? o.kind = some op)
      (hd : d + (n + 1) ≤ maxDepth) (hr : Derives (.level .bitwise) (d + (n + 1)) us right) :
      Derives (.suffixed (n + 1)) d (ts ++ o :: us) (.predicate o.position op left right)
  | like {d n : Nat} {ts hs es us : List Token} {negated exact : Bool} {p : Position}
      {left right : Term} (hl : Derives (.suffixed n) d ts left) (hh : Opens .LIKE negated p hs)
      (hd : d + (n + 1) ≤ maxDepth) (he : ExactMark exact es)
      (hr : Derives (.level .bitwise) (d + (n + 1)) us right) :
      Derives (.suffixed (n + 1)) d (ts ++ (hs ++ (es ++ us)))
        (.predicate p (.ofLike negated exact) left right)
  | inList {d n : Nat} {ts hs es all : List Token} {negated exact : Bool} {p : Position}
      {left : Term} {a z : Token} {items : List (List Token × Term)}
      (hl : Derives (.suffixed n) d ts left) (hh : Opens .IN negated p hs)
      (hd : d + (n + 1) ≤ maxDepth) (he : ExactMark exact es)
      (ha : a.kind = .symbol .leftParen) (hall : Separated (.symbol .comma) (items.map (·.1)) all)
      (hi : ∀ i ∈ items, Derives (.level .or) (d + (n + 1)) i.1 i.2)
      (hz : z.kind = .symbol .rightParen) :
      Derives (.suffixed (n + 1)) d (ts ++ (hs ++ (es ++ a :: (all ++ [z]))))
        (.inList p left (items.map (·.2)) negated exact)
  | isNull {d n : Nat} {ts ns : List Token} {negated : Bool} {left : Term} {o z : Token}
      (hl : Derives (.suffixed n) d ts left) (ho : o.kind = .keyword .IS)
      (hd : d + (n + 1) ≤ maxDepth) (hn : NegationMark negated ns)
      (hz : z.kind = .keyword .NULL) :
      Derives (.suffixed (n + 1)) d (ts ++ o :: (ns ++ [z])) (.isNull o.position left negated)
  | predicate {d n : Nat} {ts : List Token} {t : Term} (h : Derives (.suffixed n) d ts t) :
      Derives .predicate d ts t
  -- values
  | sign {d : Nat} {o : Token} {op : UnaryOperator} {ts : List Token} {t : Term}
      (ho : unaryOperator? o.kind = some op) (hd : d + 1 ≤ maxDepth)
      (h : Derives .signed (d + 1) ts t) : Derives .signed d (o :: ts) (.unary o.position op t)
  | unsigned {d : Nat} {ts : List Token} {t : Term} (h : Derives .primary d ts t) :
      Derives .signed d ts t
  | literal {d : Nat} {o : Token} {l : Literal} (ho : literal? o.kind = some l) :
      Derives .primary d [o] (.literal o.position l)
  | column {d : Nat} {o : Token} {name : String} (ho : o.kind = .identifier name) :
      Derives .primary d [o] (.column o.position name)
  | parentheses {d : Nat} {a z : Token} {ts : List Token} {t : Term}
      (ha : a.kind = .symbol .leftParen) (hd : d + 1 ≤ maxDepth)
      (h : Derives (.level .or) (d + 1) ts t) (hz : z.kind = .symbol .rightParen) :
      Derives .primary d (a :: (ts ++ [z])) t
  | callEmpty {d : Nat} {o a z : Token} {name : String} (ho : o.kind = .identifier name)
      (ha : a.kind = .symbol .leftParen) (hz : z.kind = .symbol .rightParen) :
      Derives .primary d [o, a, z] (.call o.position name [])
  | call {d : Nat} {o a z : Token} {name : String} {all : List Token}
      {items : List (List Token × Term)} (ho : o.kind = .identifier name)
      (ha : a.kind = .symbol .leftParen) (hall : Separated (.symbol .comma) (items.map (·.1)) all)
      (hi : ∀ i ∈ items, Derives (.level .or) d i.1 i.2) (hz : z.kind = .symbol .rightParen) :
      Derives .primary d (o :: a :: (all ++ [z])) (.call o.position name (items.map (·.2)))

/-- A whole expression. -/
abbrev DerivesTerm : List Token → Term → Prop := Derives (.level .or) 0

/-! ## Statements -/

/-- At most one sign, and whether it is a minus. -/
inductive Signed : Bool → List Token → Prop where
  | absent : Signed false []
  | plus {o : Token} (ho : o.kind = .symbol .plus) : Signed false [o]
  | minus {o : Token} (ho : o.kind = .symbol .minus) : Signed true [o]

/-- `TOP` and a number that fits an Int32, possibly with a sign before it. -/
inductive DerivesLimit : List Token → Option Int → Prop where
  | absent : DerivesLimit [] none
  | present {o n : Token} {ss : List Token} {negative : Bool} {text : String} {k : Nat}
      (ho : o.kind = .keyword .TOP) (hs : Signed negative ss) (hn : n.kind = .integer text)
      (hk : Integer.readNatural? text.toList = some k) (hf : IntType.int32.Fits k) :
      DerivesLimit (o :: (ss ++ [n])) (some (if negative then -k else k))

/-- The direction of an order: ascending unless `DESC` says otherwise. -/
inductive Direction : Bool → List Token → Prop where
  | absent : Direction true []
  | ascending {o : Token} (ho : o.kind = .keyword .ASC) : Direction true [o]
  | descending {o : Token} (ho : o.kind = .keyword .DESC) : Direction false [o]

inductive DerivesOrdering : List Token → OrderingTerm → Prop where
  | mk {exact ascending : Bool} {es ds : List Token} {o : Token} {name : String}
      (he : ExactMark exact es) (ho : o.kind = .identifier name) (hd : Direction ascending ds) :
      DerivesOrdering (es ++ o :: ds) ⟨name, ascending, exact⟩

/-- `ORDER BY` and at least one term. -/
inductive DerivesOrder : List Token → List OrderingTerm → Prop where
  | absent : DerivesOrder [] []
  | present {o b : Token} {all : List Token} {items : List (List Token × OrderingTerm)}
      (ho : o.kind = .keyword .ORDER) (hb : b.kind = .keyword .BY)
      (hall : Separated (.symbol .comma) (items.map (·.1)) all)
      (hi : ∀ i ∈ items, DerivesOrdering i.1 i.2) :
      DerivesOrder (o :: b :: all) (items.map (·.2))

/-- One statement. A lone identifier is never an expression. -/
inductive DerivesStatement : List Token → Statement → Prop where
  | identifier {o : Token} {i : Identifier} (ho : identifier? o.kind = some i) :
      DerivesStatement [o] (.identifier o.position i)
  | filter {o t w : Token} {table : String} {limit : Option Int} {order : List OrderingTerm}
      {ls cs os : List Token} {condition : Term} (ho : o.kind = .keyword .FILTER)
      (hl : DerivesLimit ls limit) (ht : t.kind = .identifier table)
      (hw : w.kind = .keyword .WHERE) (hc : DerivesTerm cs condition)
      (hos : DerivesOrder os order) :
      DerivesStatement (o :: (ls ++ t :: w :: (cs ++ os)))
        (.filter o.position ⟨table, limit, order⟩ condition)
  | expression {o : Token} {ts : List Token} {e : Term}
      (hi : ts = [] → identifier? o.kind = none) (h : DerivesTerm (o :: ts) e) :
      DerivesStatement (o :: ts) (.expression o.position e)

/-- Statements with any number of semicolons around and at least one between them. -/
inductive DerivesStatements : List Token → List Statement → Prop where
  | nil : DerivesStatements [] []
  | semicolon {o : Token} {ts : List Token} {list : List Statement} (ho : isSemicolon o = true)
      (h : DerivesStatements ts list) : DerivesStatements (o :: ts) list
  | statement {ts rest : List Token} {s : Statement} {list : List Statement}
      (hs : DerivesStatement ts s) (hb : atBoundary rest = true)
      (h : DerivesStatements rest list) : DerivesStatements (ts ++ rest) (s :: list)

/-- More statements behind a semicolon. -/
theorem DerivesStatements.append {ts us : List Token} {list list' : List Statement} {o : Token}
    (h : DerivesStatements ts list) (ho : isSemicolon o = true)
    (h' : DerivesStatements us list') : DerivesStatements (ts ++ o :: us) (list ++ list') := by
  induction h with
  | nil => exact .semicolon ho h'
  | semicolon hp _ ih => exact .semicolon hp ih
  | @statement ts rest s list hs hb _ ih =>
    rw [List.append_assoc]
    refine .statement hs ?_ ih
    -- the last statement ended with the tokens and ends at the semicolon now
    cases rest with
    | nil => exact ho
    | cons p rest => exact hb

/-! ## The tokens of a phrase -/

/-- The kinds of tokens that a term may begin with. -/
def beginsTerm : Token.Kind → Bool
  | .keyword .NULL | .keyword .TRUE | .keyword .FALSE | .keyword .NOT => true
  | .keyword _ => false
  | .symbol .minus | .symbol .plus | .symbol .tilde | .symbol .bang | .symbol .leftParen => true
  | .symbol _ => false
  | _ => true

theorem beginsTerm_of_literal {k : Token.Kind} {l : Literal} (h : literal? k = some l) :
    beginsTerm k = true := by
  unfold literal? at h
  split at h <;> first | rfl | cases h

theorem beginsTerm_of_unaryOperator {k : Token.Kind} {op : UnaryOperator}
    (h : unaryOperator? k = some op) : beginsTerm k = true := by
  unfold unaryOperator? at h
  split at h <;> first | rfl | cases h

theorem isNegation_iff {k : Token.Kind} :
    isNegation k = true ↔ k = .keyword .NOT ∨ k = .symbol .bang := by
  simp [isNegation]

theorem beginsTerm_of_isNegation {k : Token.Kind} (h : isNegation k = true) :
    beginsTerm k = true := by
  rcases isNegation_iff.mp h with rfl | rfl <;> rfl

/-- Every phrase has a first token, and it begins a term. -/
theorem Derives.head {r : Rank} {d : Nat} {ts : List Token} {t : Term} (h : Derives r d ts t) :
    ∃ o us, ts = o :: us ∧ beginsTerm o.kind = true := by
  induction h with
  | first _ ih | level _ ih | condition _ _ ih | value _ ih | predicate _ ih | unsigned _ ih =>
    exact ih
  | link _ _ _ _ ih _ | comparison _ _ _ _ ih _ | like _ _ _ _ _ ih _ | inList _ _ _ _ _ _ _ _ ih
  | isNull _ _ _ _ _ ih =>
    obtain ⟨o, us, rfl, ho⟩ := ih
    exact ⟨o, us ++ _, rfl, ho⟩
  | not ho => exact ⟨_, _, rfl, beginsTerm_of_isNegation ho⟩
  | sign ho => exact ⟨_, _, rfl, beginsTerm_of_unaryOperator ho⟩
  | literal ho => exact ⟨_, _, rfl, beginsTerm_of_literal ho⟩
  | column ho | callEmpty ho | call ho => exact ⟨_, _, rfl, by rw [ho]; rfl⟩
  | parentheses ha => exact ⟨_, _, rfl, by rw [ha]; rfl⟩

theorem Derives.ne_nil {r : Rank} {d : Nat} {ts : List Token} {t : Term}
    (h : Derives r d ts t) : ts ≠ [] := by
  obtain ⟨o, us, rfl, -⟩ := h.head
  exact List.cons_ne_nil o us

theorem Separated.subset {kind : Token.Kind} {parts : List (List Token)} {all ts : List Token}
    (h : Separated kind parts all) (hts : ts ∈ parts) : ts ⊆ all := by
  induction h with
  | last us =>
    rw [List.mem_singleton.mp hts]
    exact List.Subset.refl us
  | more _ _ ih =>
    rcases List.mem_cons.mp hts with rfl | hts
    · exact List.subset_append_left _ _
    · exact List.subset_append_of_subset_right _ (List.subset_cons_of_subset _ (ih hts))

/-- What holds of every token of the parts and of every separator holds of every token. -/
theorem Separated.forall_mem {kind : Token.Kind} {parts : List (List Token)} {all : List Token}
    {P : Token → Prop} (h : Separated kind parts all) (hp : ∀ ts ∈ parts, ∀ o ∈ ts, P o)
    (hk : ∀ o : Token, o.kind = kind → P o) : ∀ o ∈ all, P o := by
  induction h with
  | last ts => exact hp ts (List.mem_singleton.mpr rfl)
  | more ho _ ih =>
    intro x hx
    rcases List.mem_append.mp hx with hx | hx
    · exact hp _ List.mem_cons_self x hx
    · rcases List.mem_cons.mp hx with rfl | hx
      · exact hk _ ho
      · exact ih (fun ts hts => hp ts (List.mem_cons_of_mem _ hts)) x hx

end RowFilter.Syntax
