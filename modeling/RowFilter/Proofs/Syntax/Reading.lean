import RowFilter.Proofs.Syntax.Layout
import RowFilter.Proofs.Syntax.Statements

/-!
Reading a text whose tokens are known: it succeeds exactly if the grammar derives the tokens, the
document is the derived one, and its nodes are laid out as that document.
-/

namespace RowFilter.Syntax

open Text (Position)

theorem ofTokens_eq_ok_iff {tokens : List Token} {finish : Position} {d : Document} :
    Document.ofTokens tokens finish = .ok d ↔
      d.position = here finish tokens ∧ DerivesStatements tokens d.statements := by
  rw [Document.ofTokens, ← statements_eq_ok_iff finish]
  cases hlist : statements finish tokens with
  | error e => simp [Except.map]
  | ok list =>
    constructor
    · rintro ⟨⟩
      exact ⟨rfl, rfl⟩
    · obtain ⟨position, list'⟩ := d
      rintro ⟨rfl, ⟨⟩⟩
      rfl

/-- The grammar derives at most one list of statements from a token list. -/
theorem DerivesStatements.unique {tokens : List Token} {list list' : List Statement}
    (h : DerivesStatements tokens list) (h' : DerivesStatements tokens list') : list = list' := by
  have hread := statements_of_derives .start h
  rw [statements_of_derives .start h'] at hread
  exact (Except.ok.inj hread).symm

theorem parse_of_tokenize {input : String} {tokens : List Token} {finish : Position}
    (h : Token.tokenize input = .ok (tokens, finish)) :
    Document.parse input = Document.ofTokens tokens finish := by
  rw [Document.parse, h]
  rfl

/-- What the grammar derives from the tokens of a text is what is read. -/
theorem parse_of_derives {input : String} {tokens : List Token} {finish : Position}
    {list : List Statement} (h : Token.tokenize input = .ok (tokens, finish))
    (hlist : DerivesStatements tokens list) :
    Document.parse input = .ok ⟨here finish tokens, list⟩ := by
  rw [parse_of_tokenize h]
  exact ofTokens_eq_ok_iff.mpr ⟨rfl, hlist⟩

/-- A text that falls into tokens is accepted exactly if the grammar derives a list of statements
from them. What is returned is the one document with those statements, and its arena holds it. -/
theorem parse_eq_ok_iff_derives {input : String} {tokens : List Token} {finish : Position}
    (h : Token.tokenize input = .ok (tokens, finish)) :
    ((∃ d, Document.parse input = .ok d) ↔ ∃ list, DerivesStatements tokens list) ∧
      (∀ d, Document.parse input = .ok d ↔
        d.position = here finish tokens ∧ DerivesStatements tokens d.statements) ∧
      ∀ d, Document.parse input = .ok d → (Arena.ofDocument d).Holds d := by
  rw [parse_of_tokenize h]
  refine ⟨⟨?_, ?_⟩, fun d => ofTokens_eq_ok_iff, fun d _ => Arena.holds_ofDocument d⟩
  · rintro ⟨d, hd⟩
    exact ⟨d.statements, (ofTokens_eq_ok_iff.mp hd).2⟩
  · rintro ⟨list, hlist⟩
    exact ⟨⟨here finish tokens, list⟩, ofTokens_eq_ok_iff.mpr ⟨rfl, hlist⟩⟩

/-- The text `NOT A=1` falls into four tokens, and the grammar decides what it is read as. -/
theorem parse_negation_derives :
    Token.tokenize "NOT A=1" =
        .ok ([⟨.keyword .NOT, "NOT", ⟨1, 1⟩⟩, ⟨.identifier "A", "A", ⟨1, 5⟩⟩,
          ⟨.symbol .equal, "=", ⟨1, 6⟩⟩, ⟨.integer "1", "1", ⟨1, 7⟩⟩], ⟨1, 8⟩) ∧
      ((∃ d, Document.parse "NOT A=1" = .ok d) ↔
        ∃ list, DerivesStatements
          [⟨.keyword .NOT, "NOT", ⟨1, 1⟩⟩, ⟨.identifier "A", "A", ⟨1, 5⟩⟩,
            ⟨.symbol .equal, "=", ⟨1, 6⟩⟩, ⟨.integer "1", "1", ⟨1, 7⟩⟩] list) := by
  have htokens : Token.tokenize "NOT A=1" =
      .ok ([⟨.keyword .NOT, "NOT", ⟨1, 1⟩⟩, ⟨.identifier "A", "A", ⟨1, 5⟩⟩,
        ⟨.symbol .equal, "=", ⟨1, 6⟩⟩, ⟨.integer "1", "1", ⟨1, 7⟩⟩], ⟨1, 8⟩) := by
    decide +kernel
  exact ⟨htokens, (parse_eq_ok_iff_derives htokens).1⟩

end RowFilter.Syntax
