import RowFilter.Proofs.Syntax.Height
import RowFilter.Proofs.Token.Append
import Mathlib.Order.Bounds.Defs

/-!
Texts with expressions as high as they can be. Every level is filled with operators and the whole is
put in parentheses, as the first operand of the next level; a call starts at its own level anew. With
calls inside calls there is no bound.
-/

namespace RowFilter.Syntax

open Text (Position)

/-! ## Tall phrases -/

/-- A kind that begins a value and names no row. -/
def beginsValue (k : Token.Kind) : Bool := !isNegation k && (identifier? k).isNone

/-- Tokens of some kinds are a phrase of a rank, with a term of the given height and depth of
calls. -/
structure Stands (r : Rank) (d : Nat) (kinds : List Token.Kind) (height calls : Nat) : Prop where
  head : ∃ first rest, kinds = first :: rest ∧ beginsValue first = true
  derives : ∀ ts, ts.map Token.kind = kinds →
    ∃ t, Derives r d ts t ∧ t.height = height ∧ t.callDepth = calls

/-- So many operators of a kind, each with the number one behind it. -/
def operations (operator : Token.Kind) (n : Nat) : List Token.Kind :=
  (List.replicate n [operator, .integer "1"]).flatten

/-- Some kinds with `n` operators of every level behind them. -/
def stacked (kinds : List Token.Kind) (n : Nat) : List Token.Kind :=
  kinds ++ operations (.symbol .star) n ++ operations (.symbol .plus) n ++
    operations (.symbol .amp) n ++ operations (.symbol .equal) n ++ operations (.keyword .AND) n ++
      operations (.keyword .OR) n

/-- The last operator, and what comes before it. -/
theorem split_operations {kinds : List Token.Kind} {operator : Token.Kind} {n : Nat}
    {ts : List Token} (h : ts.map Token.kind = kinds ++ operations operator (n + 1)) :
    ∃ us o one, ts = us ++ [o, one] ∧ us.map Token.kind = kinds ++ operations operator n ∧
      o.kind = operator ∧ one.kind = .integer "1" := by
  have hlast : operations operator (n + 1) = operations operator n ++ [operator, .integer "1"] := by
    rw [operations, List.replicate_succ', List.flatten_append, List.flatten_singleton, operations]
  rw [hlast, ← List.append_assoc] at h
  obtain ⟨us, vs, rfl, hus, hvs⟩ := List.map_eq_append_iff.mp h
  obtain ⟨o, ws, rfl, ho, hws⟩ := List.map_eq_cons_iff.mp hvs
  obtain ⟨one, rfl, hone⟩ := List.map_eq_singleton_iff.mp hws
  exact ⟨us, o, one, rfl, hus, ho, hone⟩

namespace Stands

variable {d h calls n : Nat} {kinds : List Token.Kind}

theorem head_append (hs : ∃ first rest, kinds = first :: rest ∧ beginsValue first = true)
    (more : List Token.Kind) :
    ∃ first rest, kinds ++ more = first :: rest ∧ beginsValue first = true := by
  obtain ⟨first, rest, rfl, hfirst⟩ := hs
  exact ⟨first, rest ++ more, rfl, hfirst⟩

/-- With operators of a chain behind it, a phrase gets higher by their number. -/
theorem chain {c : Chain} (hs : Stands c.operandRank d kinds h calls) {k : Token.Kind}
    {op : Operator} (hk : c.operator? k = some op) (hn : d + n ≤ maxDepth) :
    Stands (.level c) d (kinds ++ operations k n) (h + n) calls := by
  refine ⟨head_append hs.head _, fun ts hts => ?_⟩
  have hlinks : ∃ t, Derives (.links c n) d ts t ∧ t.height = h + n ∧ t.callDepth = calls := by
    induction n generalizing ts with
    | zero =>
      obtain ⟨t, ht, hheight⟩ := hs.derives ts (hts.trans (List.append_nil _))
      exact ⟨t, .first ht, hheight⟩
    | succ n ih =>
      obtain ⟨us, o, one, rfl, hus, ho, hone⟩ := split_operations hts
      obtain ⟨t, ht, hheight, hcalls⟩ := ih (by omega) us hus
      refine ⟨_, .link ht (ho ▸ hk) hn (.number hone _ c), ?_, ?_⟩
      · rw [Term.height_join, hheight, Term.height]
        omega
      · rw [Term.callDepth_join, hcalls, Term.callDepth]
        omega
  obtain ⟨t, ht, hheight⟩ := hlinks
  exact ⟨t, .level ht, hheight⟩

/-- The same with comparisons. -/
theorem comparisons (hs : Stands (.level .bitwise) d kinds h calls) (hn : d + n ≤ maxDepth) :
    Stands .negation d (kinds ++ operations (.symbol .equal) n) (h + n) calls := by
  refine ⟨head_append hs.head _, fun ts hts => ?_⟩
  have hsuffixed : ∃ t, Derives (.suffixed n) d ts t ∧ t.height = h + n ∧ t.callDepth = calls := by
    induction n generalizing ts with
    | zero =>
      obtain ⟨t, ht, hheight⟩ := hs.derives ts (hts.trans (List.append_nil _))
      exact ⟨t, .value ht, hheight⟩
    | succ n ih =>
      obtain ⟨us, o, one, rfl, hus, ho, hone⟩ := split_operations hts
      obtain ⟨t, ht, hheight, hcalls⟩ := ih (by omega) us hus
      have hright : Derives (.level .bitwise) (d + (n + 1)) [one] _ :=
        .level (.first (c := .bitwise) (.number hone _ .bitwise))
      have hequal : comparison? o.kind = some .equal := by rw [ho]; rfl
      refine ⟨_, .comparison ht hequal hn hright, ?_, ?_⟩
      · rw [Term.height, hheight, Term.height]
        omega
      · rw [Term.callDepth, hcalls, Term.callDepth]
        omega
  obtain ⟨t, ht, hheight⟩ := hsuffixed
  -- the phrase begins with no negation, so it is a condition
  obtain ⟨first, rest, hkinds, hfirst⟩ := head_append hs.head (operations (.symbol .equal) n)
  obtain ⟨o, us, rfl, ho, -⟩ := List.map_eq_cons_iff.mp (hts.trans hkinds)
  rw [← ho, beginsValue, Bool.and_eq_true, Bool.not_eq_true'] at hfirst
  exact ⟨t, .condition hfirst.1 (.predicate ht), hheight⟩

theorem number (d : Nat) : Stands .signed d [.integer "1"] 0 0 := by
  refine ⟨⟨_, _, rfl, rfl⟩, fun ts hts => ?_⟩
  obtain ⟨o, rfl, ho⟩ := List.map_eq_singleton_iff.mp hts
  exact ⟨_, .number ho d .multiplicative, rfl, rfl⟩

theorem minus (hs : Stands .signed (d + 1) kinds h calls) (hd : d + 1 ≤ maxDepth) :
    Stands .signed d (.symbol .minus :: kinds) (h + 1) calls := by
  refine ⟨⟨_, _, rfl, rfl⟩, fun ts hts => ?_⟩
  obtain ⟨o, us, rfl, ho, hus⟩ := List.map_eq_cons_iff.mp hts
  obtain ⟨t, ht, hheight, hcalls⟩ := hs.derives us hus
  have hminus : unaryOperator? o.kind = some .minus := by rw [ho]; rfl
  refine ⟨_, .sign hminus hd ht, ?_, ?_⟩
  · rw [Term.height, hheight]
  · rw [Term.callDepth, hcalls]

theorem parentheses (hs : Stands (.level .or) (d + 1) kinds h calls) (hd : d + 1 ≤ maxDepth) :
    Stands .signed d (.symbol .leftParen :: kinds ++ [.symbol .rightParen]) h calls := by
  refine ⟨⟨_, _, rfl, rfl⟩, fun ts hts => ?_⟩
  obtain ⟨a, us, rfl, ha, hus⟩ := List.map_eq_cons_iff.mp hts
  obtain ⟨vs, ws, rfl, hvs, hws⟩ := List.map_eq_append_iff.mp hus
  obtain ⟨z, rfl, hz⟩ := List.map_eq_singleton_iff.mp hws
  obtain ⟨t, ht, hheight⟩ := hs.derives vs hvs
  exact ⟨t, .unsigned (.parentheses ha hd ht hz), hheight⟩

theorem call (hs : Stands (.level .or) d kinds h calls) :
    Stands .signed d
      (.identifier "ABS" :: .symbol .leftParen :: kinds ++ [.symbol .rightParen]) (h + 1)
      (calls + 1) := by
  refine ⟨⟨_, _, rfl, rfl⟩, fun ts hts => ?_⟩
  obtain ⟨o, us, rfl, ho, hus⟩ := List.map_eq_cons_iff.mp hts
  obtain ⟨a, vs, rfl, ha, hvs⟩ := List.map_eq_cons_iff.mp hus
  obtain ⟨ws, xs, rfl, hws, hxs⟩ := List.map_eq_append_iff.mp hvs
  obtain ⟨z, rfl, hz⟩ := List.map_eq_singleton_iff.mp hxs
  obtain ⟨t, ht, hheight, hcalls⟩ := hs.derives ws hws
  have hitems : ∀ i ∈ [(ws, t)], Derives (.level .or) d i.1 i.2 := by
    intro i hi
    rw [List.mem_singleton.mp hi]
    exact ht
  refine ⟨_, .unsigned (.call ho ha (.last ws) hitems hz), ?_, ?_⟩
  · show max t.height 0 + 1 = h + 1
    rw [hheight, Nat.max_zero]
  · show max t.callDepth 0 + 1 = calls + 1
    rw [hcalls, Nat.max_zero]

/-- A value gets higher by six times as many operators as there are of each level. -/
theorem stack (hs : Stands .signed d kinds h calls) (hn : d + n ≤ maxDepth) :
    Stands (.level .or) d (stacked kinds n) (h + 6 * n) calls := by
  have hproduct := hs.chain (c := .multiplicative) (k := .symbol .star) rfl hn
  have hsum := hproduct.chain (c := .additive) (k := .symbol .plus) rfl hn
  have hbits := hsum.chain (c := .bitwise) (k := .symbol .amp) rfl hn
  have hcondition := hbits.comparisons hn
  have hboth := hcondition.chain (c := .and) (k := .keyword .AND) rfl hn
  have heither := hboth.chain (c := .or) (k := .keyword .OR) rfl hn
  rw [show h + 6 * n = h + n + n + n + n + n + n by omega]
  exact heither

/-- A value is a whole expression. -/
theorem alone (hs : Stands .signed d kinds h calls) (hd : d ≤ maxDepth) :
    Stands (.level .or) d kinds h calls := by
  have hstack := hs.stack (n := 0) hd
  have hkinds : stacked kinds 0 = kinds := by simp [stacked, operations]
  rw [hkinds] at hstack
  exact hstack

end Stands

/-! ## Texts of tall phrases -/

/-- The kind of some word. -/
def Spellable (k : Token.Kind) : Prop := ∃ word, Token.Spells word k

/-- Kinds that are all spelled by words are those of a text, with each word on its line. -/
theorem exists_tokenize_of_spellable {kinds : List Token.Kind} (h : ∀ k ∈ kinds, Spellable k) :
    ∃ input tokens finish, Token.tokenize input = .ok (tokens, finish) ∧
      tokens.map Token.kind = kinds := by
  have hwords : ∃ words : List (String × Token.Kind), words.map (·.2) = kinds ∧
      ∀ w ∈ words, Token.Spells w.1 w.2 := by
    induction kinds with
    | nil => exact ⟨[], rfl, nofun⟩
    | cons k kinds ih =>
      rw [List.forall_mem_cons] at h
      obtain ⟨⟨word, hword⟩, hrest⟩ := h
      obtain ⟨words, rfl, hwords⟩ := ih hrest
      exact ⟨(word, k) :: words, rfl, List.forall_mem_cons.mpr ⟨hword, hwords⟩⟩
  obtain ⟨words, rfl, hwords⟩ := hwords
  exact ⟨_, Token.tokenize_lines hwords⟩

/-- A phrase without anything around it is the only expression of its text. -/
theorem Stands.parse {h calls : Nat} {kinds : List Token.Kind}
    (hs : Stands (.level .or) 0 kinds h calls) {input : String} {tokens : List Token}
    {finish : Position} (htokens : Token.tokenize input = .ok (tokens, finish))
    (hkinds : tokens.map Token.kind = kinds) :
    ∃ d e, Document.parse input = .ok d ∧ e ∈ d.terms ∧ e.height = h ∧ e.callDepth = calls := by
  obtain ⟨e, he, hheight, hcalls⟩ := hs.derives tokens hkinds
  obtain ⟨first, rest, rfl, hfirst⟩ := hs.head
  obtain ⟨o, ts, rfl, ho, -⟩ := List.map_eq_cons_iff.mp hkinds
  rw [← ho, beginsValue, Bool.and_eq_true, Option.isNone_iff_eq_none] at hfirst
  have hstatement : DerivesStatement (o :: ts) (.expression o.position e) :=
    .expression (fun _ => hfirst.2) he
  have hstatements : DerivesStatements (o :: ts) [.expression o.position e] := by
    rw [← List.append_nil (o :: ts)]
    exact .statement hstatement rfl .nil
  exact ⟨_, e, parse_of_derives htokens hstatements, List.mem_singleton.mpr rfl, hheight, hcalls⟩

theorem forall_mem_operations {P : Token.Kind → Prop} {k : Token.Kind} (hk : P k)
    (hone : P (.integer "1")) (n : Nat) : ∀ x ∈ operations k n, P x := by
  intro x hx
  obtain ⟨l, hl, hx⟩ := List.mem_flatten.mp hx
  rw [List.eq_of_mem_replicate hl] at hx
  rcases List.mem_cons.mp hx with rfl | hx
  · exact hk
  · rw [List.mem_singleton.mp hx]
    exact hone

theorem spellable_stacked {kinds : List Token.Kind} (h : ∀ k ∈ kinds, Spellable k) (n : Nat) :
    ∀ k ∈ stacked kinds n, Spellable k := by
  have hone : Spellable (.integer "1") := ⟨"1", by decide +kernel⟩
  have hstar : Spellable (.symbol .star) := ⟨"*", by decide +kernel⟩
  have hplus : Spellable (.symbol .plus) := ⟨"+", by decide +kernel⟩
  have hamp : Spellable (.symbol .amp) := ⟨"&", by decide +kernel⟩
  have hequal : Spellable (.symbol .equal) := ⟨"=", by decide +kernel⟩
  have hand : Spellable (.keyword .AND) := ⟨"AND", by decide +kernel⟩
  have hor : Spellable (.keyword .OR) := ⟨"OR", by decide +kernel⟩
  simp only [stacked, List.forall_mem_append]
  exact ⟨⟨⟨⟨⟨⟨h, forall_mem_operations hstar hone n⟩, forall_mem_operations hplus hone n⟩,
    forall_mem_operations hamp hone n⟩, forall_mem_operations hequal hone n⟩,
    forall_mem_operations hand hone n⟩, forall_mem_operations hor hone n⟩

/-- Kinds that are enclosed in other ones. -/
theorem spellable_enclosed {opening kinds : List Token.Kind} (ho : ∀ k ∈ opening, Spellable k)
    (h : ∀ k ∈ kinds, Spellable k) :
    ∀ k ∈ opening ++ kinds ++ [.symbol .rightParen], Spellable k := by
  have hclose : Spellable (.symbol .rightParen) := ⟨")", by decide +kernel⟩
  simp only [List.forall_mem_append]
  exact ⟨⟨ho, h⟩, List.forall_mem_singleton.mpr hclose⟩

/-- With at least one level left there is a phrase without calls that is as high as it can be: in
parentheses, it is the first operand of the next one. -/
theorem exists_stands_limit {w : Nat} (hw : w + 1 ≤ maxDepth) :
    ∃ kinds, (∀ k ∈ kinds, Spellable k) ∧
      Stands (.level .or) (maxDepth - (w + 1)) kinds (3 * (w + 1) * (w + 2) + 1) 0 := by
  induction w with
  | zero =>
    have hone : Spellable (.integer "1") := ⟨"1", by decide +kernel⟩
    have hminus : Spellable (.symbol .minus) := ⟨"-", by decide +kernel⟩
    have hkinds : ∀ k ∈ [.symbol .minus, .integer "1"], Spellable k :=
      List.forall_mem_cons.mpr ⟨hminus, List.forall_mem_singleton.mpr hone⟩
    have hsigned := (Stands.number (maxDepth - 1 + 1)).minus (by omega)
    exact ⟨_, spellable_stacked hkinds 1, hsigned.stack (by omega)⟩
  | succ w ih =>
    obtain ⟨kinds, hkinds, hstands⟩ := ih (by omega)
    have hopen : Spellable (.symbol .leftParen) := ⟨"(", by decide +kernel⟩
    rw [show maxDepth - (w + 1) = maxDepth - (w + 1 + 1) + 1 by omega] at hstands
    have henclosed := spellable_enclosed (List.forall_mem_singleton.mpr hopen) hkinds
    have hstack := (hstands.parentheses (by omega)).stack (n := w + 2) (by omega)
    refine ⟨_, spellable_stacked henclosed (w + 2), ?_⟩
    rw [show 3 * (w + 1 + 1) * (w + 1 + 2) + 1 = 3 * (w + 1) * (w + 2) + 1 + 6 * (w + 2) by ring]
    exact hstack

/-- Every call leaves room for the operators of all levels once more. -/
theorem exists_stands_calls (calls : Nat) :
    ∃ kinds, (∀ k ∈ kinds, Spellable k) ∧
      Stands (.level .or) 0 kinds (heightLimit calls) calls := by
  induction calls with
  | zero => exact exists_stands_limit (w := 127) (by decide)
  | succ calls ih =>
    obtain ⟨kinds, hkinds, hstands⟩ := ih
    have hname : Spellable (.identifier "ABS") := ⟨"ABS", by decide +kernel⟩
    have hopen : Spellable (.symbol .leftParen) := ⟨"(", by decide +kernel⟩
    have hopening : ∀ k ∈ [.identifier "ABS", .symbol .leftParen], Spellable k :=
      List.forall_mem_cons.mpr ⟨hname, List.forall_mem_singleton.mpr hopen⟩
    have hstack := hstands.call.stack (n := maxDepth) (Nat.le_of_eq (Nat.zero_add _))
    refine ⟨_, spellable_stacked (spellable_enclosed hopening hkinds) maxDepth, ?_⟩
    rw [show heightLimit (calls + 1) = heightLimit calls + 1 + 6 * maxDepth by
      simp only [heightLimit, maxDepth]; omega]
    exact hstack

/-! ## The greatest height -/

/-- Some text is read as an expression of that very height, for any number of calls. -/
theorem isGreatest_height (calls : Nat) :
    IsGreatest {n | ∃ input d e, Document.parse input = .ok d ∧ e ∈ d.terms ∧
      e.callDepth = calls ∧ e.height = n} (heightLimit calls) := by
  constructor
  · obtain ⟨kinds, hkinds, hstands⟩ := exists_stands_calls calls
    obtain ⟨input, tokens, finish, htokens, hmap⟩ := exists_tokenize_of_spellable hkinds
    obtain ⟨d, e, hparse, he, hheight, hcalls⟩ := hstands.parse htokens hmap
    exact ⟨input, d, e, hparse, he, hcalls, hheight⟩
  · rintro n ⟨input, d, e, hparse, he, rfl, rfl⟩
    obtain ⟨us, hus⟩ := Document.exists_derives hparse he
    rw [← limit_whole]
    exact hus.height_le_limit

/-! ## Calls inside calls -/

/-- The words of a number inside so many calls, with the kinds of their tokens. -/
def nestedCalls : Nat → List (String × Token.Kind)
  | 0 => [("1", .integer "1")]
  | n + 1 => ("ABS", .identifier "ABS") :: ("(", .symbol .leftParen) :: nestedCalls n ++
      [(")", .symbol .rightParen)]

theorem spells_nestedCalls (n : Nat) : ∀ w ∈ nestedCalls n, Token.Spells w.1 w.2 := by
  induction n with
  | zero => exact List.forall_mem_singleton.mpr (by decide +kernel)
  | succ n ih =>
    have hopening : ∀ w ∈ [("ABS", .identifier "ABS"), ("(", Token.Kind.symbol .leftParen)],
        Token.Spells w.1 w.2 := by
      decide +kernel
    have hclosing : ∀ w ∈ [(")", Token.Kind.symbol .rightParen)], Token.Spells w.1 w.2 := by
      decide +kernel
    exact List.forall_mem_append.mpr ⟨List.forall_mem_append.mpr ⟨hopening, ih⟩, hclosing⟩

theorem stands_nestedCalls (n : Nat) : Stands .signed 0 ((nestedCalls n).map (·.2)) n n := by
  induction n with
  | zero => exact .number 0
  | succ n ih =>
    have hcall := (ih.alone (Nat.zero_le maxDepth)).call
    simpa [nestedCalls] using hcall

/-- Calls may stand inside one another to any depth. -/
theorem exists_parse_nestedCalls (n : Nat) :
    ∃ d e, Document.parse (Token.lines ((nestedCalls n).map (·.1))) = .ok d ∧ e ∈ d.terms ∧
      e.height = n := by
  obtain ⟨tokens, finish, htokens, hkinds⟩ := Token.tokenize_lines (spells_nestedCalls n)
  obtain ⟨d, e, hparse, he, hheight, -⟩ :=
    ((stands_nestedCalls n).alone (Nat.zero_le maxDepth)).parse htokens hkinds
  exact ⟨d, e, hparse, he, hheight⟩

/-- A number inside 129 calls is read, and is higher than the levels are many. -/
theorem exists_height_gt_maxDepth :
    ∃ d e, Document.parse (Token.lines ((nestedCalls 129).map (·.1))) = .ok d ∧ e ∈ d.terms ∧
      maxDepth < e.height := by
  obtain ⟨d, e, hparse, he, hheight⟩ := exists_parse_nestedCalls 129
  exact ⟨d, e, hparse, he, by rw [hheight]; decide⟩

end RowFilter.Syntax
