import RowFilter.Proofs.Expression.Literal
import RowFilter.Proofs.Table.Built
import RowFilter.Proofs.Text.AsciiCase

/-!
The tokens of the text of an expression. Operators are written in parentheses, so that an expression
can be told from its tokens, but IN and IS NULL are written behind their operand without any.
-/

namespace RowFilter

open Syntax Token

/-! ## Expressions that their text shows -/

namespace Expression

/-- Written behind its operand, without parentheses around it. -/
def isSuffixed : Expression → Bool
  | inList .. | isNull .. => true
  | _ => false

/-- Without unary operators and with legible values only; what is not in parentheses stands at most
beside AND or OR, before a comparison or LIKE, before IN or IS NULL, in a list or in a call. -/
inductive Legible : Expression → Prop where
  | value {v : Value} (h : v.IsLegible) : Legible (.value v)
  | column (c : ColumnRef) : Legible (.column c)
  | operator {op : Operator} {left right : Expression} (hl : Legible left) (hr : Legible right)
      (hleft : left.isSuffixed = true → (op.isLogical || op.isComparison || op.isLike) = true)
      (hright : right.isSuffixed = true → op.isLogical = true) : Legible (.operator op left right)
  | function {f : Function} {arguments : List Expression} (h : ∀ e ∈ arguments, Legible e) :
      Legible (.function f arguments)
  | inList {operand : Expression} {items : List Expression} {negated exact : Bool}
      (h : Legible operand) (hitems : ∀ e ∈ items, Legible e) :
      Legible (.inList operand items negated exact)
  | isNull {operand : Expression} {negated : Bool} (h : Legible operand) :
      Legible (.isNull operand negated)

end Expression

/-! ## Kinds of tokens -/

/-- A negation that may be there. -/
def negationKinds (negated : Bool) : List Token.Kind :=
  if negated then [.keyword .NOT] else []

/-- The mark of an exact match that may be there. -/
def exactKinds (exact : Bool) : List Token.Kind :=
  if exact then [.keyword .BINARY] else []

namespace Operator

def kinds : Operator → List Token.Kind
  | multiply => [.symbol .star]
  | divide => [.symbol .slash]
  | modulus => [.symbol .percent]
  | add => [.symbol .plus]
  | subtract => [.symbol .minus]
  | shiftLeft => [.symbol .shiftLeft]
  | shiftRight => [.symbol .shiftRight]
  | bitwiseAnd => [.symbol .amp]
  | bitwiseOr => [.symbol .pipe]
  | bitwiseXor => [.symbol .caret]
  | less => [.symbol .less]
  | lessOrEqual => [.symbol .lessEqual]
  | greater => [.symbol .greater]
  | greaterOrEqual => [.symbol .greaterEqual]
  | equal => [.symbol .equal]
  | equalExact => [.symbol .tripleEqual]
  | notEqual => [.symbol .lessGreater]
  | notEqualExact => [.symbol .notDoubleEqual]
  | like => [.keyword .LIKE]
  | likeExact => [.keyword .LIKE, .keyword .BINARY]
  | notLike => [.keyword .NOT, .keyword .LIKE]
  | notLikeExact => [.keyword .NOT, .keyword .LIKE, .keyword .BINARY]
  | and => [.keyword .AND]
  | or => [.keyword .OR]

theorem adds_text (op : Operator) : Adds op.text.toList op.kinds := by
  have hlike : Adds "LIKE".toList [.keyword .LIKE] := adds_start (by decide +kernel) rfl
  have hbinary : Adds "BINARY".toList [.keyword .BINARY] := adds_start (by decide +kernel) rfl
  have hnot : Adds "NOT".toList [.keyword .NOT] := adds_start (by decide +kernel) rfl
  cases op with
  | like => exact hlike
  | likeExact => exact hlike.beside hbinary
  | notLike => exact hnot.beside hlike
  | notLikeExact => exact hnot.beside (hlike.beside hbinary)
  | _ => exact adds_start (by decide +kernel) rfl

end Operator

theorem Function.adds_name (f : Function) : Adds f.name.toList [.identifier f.name] := by
  cases f <;> exact adds_start (by decide +kernel) rfl

/-! ## Columns -/

/-- A column goes by the name it is resolved to. -/
theorem Table.WellFormed.resolve_name {t : Table} (ht : t.WellFormed) {name : String}
    {c : ColumnRef} (h : t.resolve name = .ok c) : t.resolve c.name = .ok c := by
  unfold Table.resolve at h
  split at h
  · next index column hcolumn =>
    cases h
    have hplace := (Table.column?_eq_some hcolumn).1
    rw [Table.resolve, ht.column?_of_getElem? hplace (Text.sameName_refl _)]
  · cases h

/-- The name of the column has a bracket in it only if the name has that it was resolved by. -/
theorem canBracket_of_resolve {t : Table} {name : String} {c : ColumnRef}
    (hname : CanBracket name) (h : t.resolve name = .ok c) : CanBracket c.name := by
  unfold Table.resolve at h
  split at h
  · next index column hcolumn =>
    cases h
    have hsame := (Table.column?_eq_some hcolumn).2
    exact fun hmem => hname ((Text.bracket_mem_iff_of_sameName hsame).mp hmem)
  · cases h

/-! ## Tokens of expressions -/

/-- The kind of the token that an operator in front of its operand is written as. -/
def UnaryOperator.kind : UnaryOperator → Token.Kind
  | plus => .symbol .plus
  | minus => .symbol .minus
  | not => .keyword .NOT
  | bitwiseNot => .symbol .tilde

namespace Expression

mutual

/-- The kinds of the tokens of the text. -/
def kinds : Expression → List Token.Kind
  | value v => [v.kind]
  | column c => [.identifier c.name]
  | unary op operand => op.kind :: operand.kinds
  | operator op left right =>
    .symbol .leftParen :: (left.kinds ++ (op.kinds ++ (right.kinds ++ [.symbol .rightParen])))
  | function f arguments =>
    .identifier f.name :: .symbol .leftParen :: (kindsList arguments ++ [.symbol .rightParen])
  | inList operand items negated exact =>
    operand.kinds ++ (negationKinds negated ++ (.keyword .IN :: (exactKinds exact ++
      (.symbol .leftParen :: (kindsList items ++ [.symbol .rightParen])))))
  | isNull operand negated =>
    operand.kinds ++ (.keyword .IS :: (negationKinds negated ++ [.keyword .NULL]))

def kindsList : List Expression → List Token.Kind
  | [] => []
  | [e] => e.kinds
  | e :: rest => e.kinds ++ (.symbol .comma :: kindsList rest)

end

/-- A word that may be there, and what follows it. -/
theorem adds_optional (word : String) {k : Token.Kind} (hword : Adds word.toList [k])
    (present : Bool) {s : List Char} {ks : List Token.Kind} (h : Adds s ks) :
    Adds ((if present then word ++ " " else "").toList ++ s)
      ((if present then [k] else []) ++ ks) := by
  cases present with
  | false => exact h
  | true =>
    have htext : (word ++ " ").toList ++ s = word.toList ++ ' ' :: s := by simp
    rw [if_pos rfl, if_pos rfl, htext]
    exact hword.beside h

theorem adds_negation (negated : Bool) {s : List Char} {ks : List Token.Kind} (h : Adds s ks) :
    Adds ((if negated then "NOT " else "").toList ++ s) (negationKinds negated ++ ks) :=
  adds_optional "NOT" (adds_start (by decide +kernel) rfl) negated h

theorem adds_exact (exact : Bool) {s : List Char} {ks : List Token.Kind} (h : Adds s ks) :
    Adds ((if exact then "BINARY " else "").toList ++ s) (exactKinds exact ++ ks) :=
  adds_optional "BINARY" (adds_start (by decide +kernel) rfl) exact h

theorem adds_textList {es : List Expression} (h : ∀ e ∈ es, Adds e.text.toList e.kinds) :
    Adds (textList es).toList (kindsList es) := by
  induction es with
  | nil => exact .nil
  | cons e rest ih =>
    obtain ⟨he, hrest⟩ := List.forall_mem_cons.mp h
    cases rest with
    | nil => exact he
    | cons e' rest =>
      have htext : (textList (e :: e' :: rest)).toList =
          e.text.toList ++ ',' :: ' ' :: (textList (e' :: rest)).toList := by
        simp [textList, toString]
      rw [htext]
      exact he.comma (ih hrest)

theorem adds_list {es : List Expression} (h : ∀ e ∈ es, Adds e.text.toList e.kinds) :
    Adds ('(' :: ((textList es).toList ++ [')']))
      (.symbol .leftParen :: (kindsList es ++ [.symbol .rightParen])) :=
  (adds_textList h).closed.parenthesis

/-- The text of an expression falls into these tokens, whatever ends the last of them. -/
theorem adds_text {t : Table} {e : Expression} (hl : e.Legible) (hc : e.Compiled t) :
    Adds e.text.toList e.kinds := by
  induction hl with
  | value hv =>
    cases hc with
    | value h => exact (Value.isWritten_of_value h hv).lexeme.adds
  | column c =>
    cases hc with
    | column hname h =>
      have htext : (text (.column c)).toList = '[' :: (c.name.toList ++ [']']) := by
        simp [text, toString]
      have hbracket := (isLexeme_bracket (canBracket_of_resolve hname h)).adds
      rwa [String.ofList_toList, ← htext] at hbracket
  | @operator op left right _ _ _ _ ihl ihr =>
    cases hc with
    | operator hl hr =>
      have htext : (text (.operator op left right)).toList = '(' :: (left.text.toList ++
          ' ' :: (op.text.toList ++ ' ' :: (right.text.toList ++ [')']))) := by
        simp [text, toString]
      rw [htext]
      exact ((ihl hl).beside (op.adds_text.beside (ihr hr).closed)).parenthesis
  | @function f arguments _ ih =>
    cases hc with
    | function _ h =>
      have htext : (text (.function f arguments)).toList =
          f.name.toList ++ '(' :: ((textList arguments).toList ++ [')']) := by
        simp [text, toString]
      rw [htext]
      exact f.adds_name.append (adds_list fun e he => ih e he (h e he))
        (by show '(' ∈ breaks; decide)
  | @inList operand items negated exact _ _ ih ihs =>
    cases hc with
    | inList h _ hitems =>
      have htext : (text (.inList operand items negated exact)).toList = operand.text.toList ++
          ' ' :: ((if negated then "NOT " else "").toList ++ ("IN".toList ++ ' ' ::
            ((if exact then "BINARY " else "").toList ++
              '(' :: ((textList items).toList ++ [')'])))) := by
        simp [text, toString]
      have hin : Adds "IN".toList [.keyword .IN] := adds_start (by decide +kernel) rfl
      rw [htext]
      exact (ih h).beside (adds_negation negated (hin.beside (adds_exact exact
        (adds_list fun e he => ihs e he (hitems e he)))))
  | @isNull operand negated _ ih =>
    cases hc with
    | isNull h =>
      have htext : (text (.isNull operand negated)).toList = operand.text.toList ++
          ' ' :: ("IS".toList ++ ' ' :: ((if negated then "NOT " else "").toList ++
            "NULL".toList)) := by
        simp [text, toString]
      have his : Adds "IS".toList [.keyword .IS] := adds_start (by decide +kernel) rfl
      have hnull : Adds "NULL".toList [.keyword .NULL] := adds_start (by decide +kernel) rfl
      rw [htext]
      exact (ih h).beside (his.beside (adds_negation negated hnull))

end Expression

end RowFilter
