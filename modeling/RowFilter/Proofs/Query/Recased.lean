import RowFilter.Proofs.Query.Layout
import RowFilter.Proofs.Token.Recased

/-!
Keywords and names in any case. Two texts that differ in the case of letters within their keywords
and names are bound alike: either both fail, with errors of the same kind, or both have the same
trees, and so they select the same rows and have the same values.
-/

namespace RowFilter

open Syntax
open Text (lowerName)

/-! ## Kinds of errors -/

/-- What an error is about, whatever its details. -/
inductive ErrorKind where
  | lexical
  | grammar
  | bind
  | evaluation
  | configuration
  | use
deriving DecidableEq, Repr

def Error.kind : Error → ErrorKind
  | .lexical .. => .lexical
  | .grammar .. => .grammar
  | .bind _ => .bind
  | .evaluation .. => .evaluation
  | .configuration _ => .configuration
  | .use _ => .use

/-! ## Names -/

theorem Function.ofName?_lowerName (name : String) :
    Function.ofName? (lowerName name) = Function.ofName? name := by
  rw [Function.ofName?, lowerName, String.toList_ofList, Text.lowerAscii_lowerAscii,
    Function.ofName?]

theorem Table.column?_lowerName (t : Table) (name : String) :
    t.column? (lowerName name) = t.column? name :=
  Table.column?_congr (Text.sameName_iff.mpr (Text.key_lowerName name))

theorem Scope.table?_lowerName (scope : Scope) (name : String) :
    scope.table? (lowerName name) = scope.table? name := by
  cases scope with
  | table t => rw [Scope.table?, Scope.table?, Text.sameName_lowerName]
  | dataSet d =>
    show d.table? (lowerName name) = d.table? name
    simp only [DataSet.table?, Text.sameName_lowerName]

/-- Names are found in any case; if they are not, the errors are of the same kind. -/
theorem blind_lowerName : Blind lowerName Error.kind where
  column t name := by
    rw [Table.resolve, Table.resolve, t.column?_lowerName]
    split
    · exact .refl _
    · exact .error rfl
  function name received := by
    rw [Binding.calledFunction, Binding.calledFunction, Function.ofName?_lowerName]
    split
    · exact .error rfl
    · exact .refl _
  table scope name := by
    rw [Scope.filterTable, Scope.filterTable, scope.table?_lowerName]
    split
    · exact .refl _
    · exact .error rfl

/-! ## Texts -/

theorem ofTokens_of_matchesUpTo {f : String → String} {ts us : List Token}
    {p q : Text.Position} (h : MatchesUpTo f ts us) :
    (∃ d d', Document.ofTokens us q = .ok d ∧ Document.ofTokens ts p = .ok d' ∧
      d'.statements.map (Statement.spelled f) = d.statements.map (Statement.spelled f)) ∨
    ∃ e e', Document.ofTokens us q = .error e ∧ Document.ofTokens ts p = .error e' := by
  cases hus : Document.ofTokens us q with
  | ok d =>
    obtain ⟨list, hlist, hspelled⟩ := (ofTokens_eq_ok_iff.mp hus).2.of_matchesUpTo h
    exact .inl ⟨d, ⟨here p ts, list⟩, rfl, ofTokens_eq_ok_iff.mpr ⟨rfl, hlist⟩, hspelled⟩
  | error e =>
    cases hts : Document.ofTokens ts p with
    | ok d' =>
      -- tokens that can be read one way can be read the other way
      obtain ⟨list, hlist, -⟩ := (ofTokens_eq_ok_iff.mp hts).2.of_matchesUpTo h.symm
      have hread : Document.ofTokens us q = .ok ⟨here q us, list⟩ :=
        ofTokens_eq_ok_iff.mpr ⟨rfl, hlist⟩
      rw [hus] at hread
      cases hread
    | error e' => exact .inr ⟨e, e', rfl, rfl⟩

theorem Error.IsGrammar.kind_eq {e : Error} (h : e.IsGrammar) : e.kind = .grammar := by
  cases e with
  | grammar => rfl
  | _ => cases h

section

variable {text text' : String} {tokens : List Token} {finish : Text.Position}

/-- Texts that differ in the case of keywords and names are bound alike. -/
theorem sameUpTo_bindText (h : Token.tokenize text = .ok (tokens, finish))
    (hr : Token.Recases .start text.toList tokens text'.toList) (scope : Scope)
    (options : Options) :
    (bindText text' scope options).SameUpTo Error.kind (bindText text scope options) := by
  obtain ⟨tokens', h', hnames⟩ := Token.tokenize_of_recases h hr
  have hparse := parse_of_tokenize h
  have hparse' := parse_of_tokenize h'
  rcases ofTokens_of_matchesUpTo (p := finish) (q := finish) hnames with
    ⟨d, d', hd, hd', hspelled⟩ | ⟨e, e', he, he'⟩
  · rw [bindText_eq, bindText_eq, hparse, hparse', hd, hd']
    dsimp only
    rw [bind_ofDocument, bind_ofDocument]
    exact statements_of_spelled_eq blind_lowerName hspelled scope options
  · rw [bindText_eq, bindText_eq, hparse, hparse', he, he']
    have hkind := (fails_ofTokens finish tokens e he).kind_eq
    have hkind' := (fails_ofTokens finish tokens' e' he').kind_eq
    exact ⟨.error (hkind'.trans hkind.symm), rfl⟩

theorem Table.sameUpTo_onlyTree (t : Table) (text text' : String) (list : List ExpressionTree) :
    SameUpTo Error.kind (t.onlyTree text' list) (t.onlyTree text list) := by
  match list with
  | [] => exact .error rfl
  | [tree] => exact .ok tree
  | _ :: _ :: _ => exact .error rfl

/-- A text that is bound like one with a tree has that tree. -/
theorem Table.tree_eq_of_sameUpTo {t : Table} {quiet : Bool} {tree : ExpressionTree}
    (h : (RowFilter.bindText text' (.table t) (t.queryOptions quiet)).SameUpTo Error.kind
      (RowFilter.bindText text (.table t) (t.queryOptions quiet)))
    (htree : (t.tree text quiet).1 = .ok tree) : t.tree text' quiet = t.tree text quiet := by
  rw [Table.tree, Logged.check_fst] at htree
  obtain ⟨list, hlist, honly⟩ := bind_eq_ok_iff.mp htree
  obtain ⟨b, hb, -⟩ : ∃ b, (t.bindText text quiet).1 = .ok b ∧ Except.ok b.trees = .ok list := by
    rw [Table.trees, Logged.check_fst] at hlist
    exact bind_eq_ok_iff.mp hlist
  have hbound : t.bindText text' quiet = t.bindText text quiet := by
    rw [t.bindText_fst_eq] at hb
    rw [Table.bindText, Table.bindText, h.eq_of_ok hb]
    -- only errors are reported with the text
    split
    · rfl
    · next heq =>
      rw [heq] at hb
      cases hb
  have htrees : t.trees text' quiet = t.trees text quiet := by
    rw [Table.trees, Table.trees, hbound]
  rw [Table.tree, Table.tree, htrees]
  refine Logged.check_congr hlist ?_
  rw [honly, Table.onlyTree_eq_ok_iff]
  exact Table.onlyTree_eq_ok_iff.mp honly

/-- Case-insensitivity: if letters within the keywords and names of a text change their case, either
binding fails as before, with an error of the same kind, or it gives the same trees. If the text has
a single tree, the same rows are selected, the values on the rows and the errors there are the same,
and the same is reported. -/
theorem query_of_recases (h : Token.tokenize text = .ok (tokens, finish))
    (hr : Token.Recases .start text.toList tokens text'.toList) :
    (∀ scope options,
      (bindText text' scope options).SameUpTo Error.kind (bindText text scope options)) ∧
    ∀ (t : Table) (quiet : Bool),
      SameUpTo Error.kind (t.trees text' quiet).1 (t.trees text quiet).1 ∧
      SameUpTo Error.kind (t.tree text' quiet).1 (t.tree text quiet).1 ∧
      ∀ tree, (t.tree text quiet).1 = .ok tree →
        ∀ clock, t.select clock text' quiet = t.select clock text quiet ∧
          ∀ row, t.evaluate clock row text' quiet = t.evaluate clock row text quiet := by
  have hbind := sameUpTo_bindText h hr
  refine ⟨hbind, fun t quiet => ?_⟩
  have htrees : SameUpTo Error.kind (t.trees text' quiet).1 (t.trees text quiet).1 := by
    rw [Table.trees, Table.trees, Logged.check_fst, Logged.check_fst, t.bindText_fst_eq,
      t.bindText_fst_eq]
    exact (hbind _ _).1.bind fun _ => .refl _
  refine ⟨htrees, ?_, fun tree htree clock => ?_⟩
  · rw [Table.tree, Table.tree, Logged.check_fst, Logged.check_fst]
    exact htrees.bind fun list => t.sameUpTo_onlyTree text text' list
  · have hown := Table.tree_eq_of_sameUpTo (hbind _ _) htree
    constructor
    · rw [Table.select, Table.select, hown]
    · intro row
      rw [Table.evaluate, Table.evaluate, hown]

end

/-- `not [ON]` selects the gauges that `NOT [On]` selects. -/
theorem query_of_recased_negation :
    Token.tokenize "NOT [On]" = .ok ([⟨.keyword .NOT, "NOT", ⟨1, 1⟩⟩,
        ⟨.identifier "On", "[On]", ⟨1, 5⟩⟩], ⟨1, 9⟩) ∧
      Token.Recases .start "NOT [On]".toList [⟨.keyword .NOT, "NOT", ⟨1, 1⟩⟩,
        ⟨.identifier "On", "[On]", ⟨1, 5⟩⟩] "not [ON]".toList ∧
      (gauges.tree "NOT [On]" true).1 =
        .ok ⟨"Gauges", -1, [], some (.unary .not (.column ⟨"On", 0⟩))⟩ ∧
      gauges.select .millennium "not [ON]" true = gauges.select .millennium "NOT [On]" true := by
  have htokens : Token.tokenize "NOT [On]" = .ok ([⟨.keyword .NOT, "NOT", ⟨1, 1⟩⟩,
      ⟨.identifier "On", "[On]", ⟨1, 5⟩⟩], ⟨1, 9⟩) := by
    decide +kernel
  have hword : Token.Respells ⟨.keyword .NOT, "NOT", ⟨1, 1⟩⟩ ['n', 'o', 't'] :=
    ⟨by decide, by decide⟩
  have hname : Token.Respells ⟨.identifier "On", "[On]", ⟨1, 5⟩⟩ ['[', 'O', 'N', ']'] :=
    ⟨by decide, by decide⟩
  have hrecases : Token.Recases .start "NOT [On]".toList [⟨.keyword .NOT, "NOT", ⟨1, 1⟩⟩,
      ⟨.identifier "On", "[On]", ⟨1, 5⟩⟩] "not [ON]".toList :=
    Token.Recases.token (g := []) rfl hword (.token (g := [' ']) rfl hname (.gap _ []))
  have hcolumn : Derives (.level .bitwise) 1 [⟨.identifier "On", "[On]", ⟨1, 5⟩⟩]
      (.column ⟨1, 5⟩ "On") :=
    .level (.first (c := .bitwise) (.level (.first (c := .additive) (.level
      (.first (c := .multiplicative) (.unsigned (.column rfl)))))))
  have hterm : DerivesTerm [⟨.keyword .NOT, "NOT", ⟨1, 1⟩⟩, ⟨.identifier "On", "[On]", ⟨1, 5⟩⟩]
      (.not ⟨1, 1⟩ (.column ⟨1, 5⟩ "On")) :=
    .level (.first (c := .or) (.level (.first (c := .and) (.not rfl (by decide)
      (.condition rfl (.predicate (.value hcolumn)))))))
  have hstatement := DerivesStatement.expression (fun h => absurd h (List.cons_ne_nil _ _)) hterm
  have hparse := parse_of_derives htokens (.statement hstatement rfl .nil)
  have htree : (gauges.tree "NOT [On]" true).1 =
      .ok ⟨"Gauges", -1, [], some (.unary .not (.column ⟨"On", 0⟩))⟩ := by
    refine Table.tree_eq_ok_iff.mpr ⟨_, _, hparse, rfl, ?_⟩
    rfl
  exact ⟨htokens, hrecases, htree,
    (((query_of_recases htokens hrecases).2 gauges true).2.2 _ htree .millennium).1⟩

end RowFilter
