import RowFilter.Proofs.Query.Recased
import RowFilter.Proofs.Token.Spacing

/-!
Layout carries no meaning. A blank and any gap may be added behind a token or in front of a text:
the text falls into the same tokens, and what is read from them is the same but for positions.
-/

namespace RowFilter

open Syntax

/-- Documents that are the same but for positions: with all positions taken out and all names as
they are, their statements are equal. -/
def Syntax.Document.SameButForPositions (d d' : Document) : Prop :=
  d'.statements.map (Statement.spelled id) = d.statements.map (Statement.spelled id)

theorem matchesUpTo_of_written {ts us : List Token}
    (h : ts.map Token.written = us.map Token.written) (f : String → String) :
    MatchesUpTo f ts us := by
  have hkinds := congrArg (List.map fun content => content.1.rename f) h
  rwa [List.map_map, List.map_map] at hkinds

/-- A gap that is added behind a token, with a blank in front of it, changes neither the kinds of
the tokens nor their texts. Both texts can be parsed or neither can, and the documents differ in
positions only. -/
theorem parse_of_gap {u v g : String} {tokens : List Token} {finish : Text.Position}
    (h : Token.tokenize (u ++ v) = .ok (tokens, finish))
    (hu : Token.EndsWithToken [] u.toList tokens) (hg : Token.IsGap g.toList) :
    (∃ tokens' finish', Token.tokenize (u ++ " " ++ g ++ v) = .ok (tokens', finish') ∧
      tokens'.map Token.written = tokens.map Token.written) ∧
    ((∃ d d', Document.parse (u ++ v) = .ok d ∧ Document.parse (u ++ " " ++ g ++ v) = .ok d' ∧
      d.SameButForPositions d') ∨
    ∃ e e', Document.parse (u ++ v) = .error e ∧
      Document.parse (u ++ " " ++ g ++ v) = .error e') := by
  obtain ⟨tokens', finish', h', hwritten⟩ := Token.tokenize_of_gap h hu hg
  refine ⟨⟨tokens', finish', h', hwritten⟩, ?_⟩
  rw [parse_of_tokenize h, parse_of_tokenize h']
  exact ofTokens_of_matchesUpTo (matchesUpTo_of_written hwritten id)

/-- A literal with a doubled quote in front of the added comments, and a symbol behind them. -/
theorem parse_of_added_comments :
    Token.tokenize ("'it''s'" ++ "<>[a]--") = .ok ([⟨.string "it's", "'it''s'", ⟨1, 1⟩⟩,
      ⟨.symbol .lessGreater, "<>", ⟨1, 8⟩⟩, ⟨.identifier "a", "[a]", ⟨1, 10⟩⟩], ⟨1, 15⟩) ∧
    ∃ tokens finish,
      Token.tokenize ("'it''s'" ++ " " ++ "/* * */-- c\n" ++ "<>[a]--") = .ok (tokens, finish) ∧
      tokens.map Token.written = [(.string "it's", "'it''s'"), (.symbol .lessGreater, "<>"),
        (.identifier "a", "[a]")] := by
  have htokens : Token.tokenize ("'it''s'" ++ "<>[a]--") =
      .ok ([⟨.string "it's", "'it''s'", ⟨1, 1⟩⟩, ⟨.symbol .lessGreater, "<>", ⟨1, 8⟩⟩,
        ⟨.identifier "a", "[a]", ⟨1, 10⟩⟩], ⟨1, 15⟩) := by
    decide +kernel
  have hends : Token.EndsWithToken [] "'it''s'".toList [⟨.string "it's", "'it''s'", ⟨1, 1⟩⟩,
      ⟨.symbol .lessGreater, "<>", ⟨1, 8⟩⟩, ⟨.identifier "a", "[a]", ⟨1, 10⟩⟩] :=
    .inr ⟨_, List.mem_cons_self, [], rfl, rfl⟩
  have hgap : Token.IsGap "/* * */-- c\n".toList := by
    have hcomments : Token.IsGap
        ('/' :: '*' :: ([' ', '*', ' '] ++ '*' :: '/' :: '-' :: '-' :: ([' ', 'c'] ++ ['\n']))) :=
      .block (by decide) (.line (by decide) .nil)
    simpa using hcomments
  exact ⟨htokens, (parse_of_gap htokens hends hgap).1⟩

end RowFilter
