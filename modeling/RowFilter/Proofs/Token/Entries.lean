import RowFilter.Proofs.Outcome
import RowFilter.Proofs.Token.Front
import RowFilter.Proofs.Token.Gap

/-!
Nothing of a text is lost when it falls into tokens. The text is gaps with the tokens between them,
the end of the text stands behind the last gap, and each of them has the position that counting line
breaks and characters gives.
-/

namespace RowFilter

namespace Text.Position

/-- Where a text ends: its line is one more than the number of its line breaks, its column one more
than the number of characters behind the last of them. -/
def after (s : List Char) : Position :=
  ⟨1 + s.count '\n', 1 + (s.reverse.takeWhile (· ≠ '\n')).length⟩

theorem after_concat (s : List Char) (c : Char) : after (s ++ [c]) = (after s).next c := by
  unfold next
  split
  · next hc => simp [after, hc, Nat.add_assoc]
  · next hc => simp [after, hc, Nat.add_assoc]

/-- Counting goes on from where a text ends. -/
theorem advance_after (s t : List Char) : (after s).advance t = after (s ++ t) := by
  induction t generalizing s with
  | nil => rw [List.append_nil]; rfl
  | cons c t ih => rw [advance_cons, ← after_concat, ih, List.append_assoc, List.singleton_append]

/-- Two parts of a text that end at the same position are the same part. -/
theorem eq_of_after_eq {a b s t : List Char} (h : a ++ s = b ++ t) (hp : after a = after b) :
    a = b := by
  refine prefix_eq_of_advance_eq (p := after []) h ?_
  rw [advance_after, advance_after]
  exact hp

end Text.Position

namespace Token

open Text (Position)

/-- A token, or the end of the text. -/
inductive Entry where
  | token (t : Token)
  | ending (position : Position)
deriving DecidableEq, Repr

namespace Entry

/-- The source text as written; nothing is written at the end. -/
def text : Entry → String
  | token t => t.text
  | ending _ => ""

def position : Entry → Position
  | token t => t.position
  | ending position => position

def isEnding : Entry → Bool
  | token _ => false
  | ending _ => true

/-- What is passed over in front of an entry: in front of the end the last comment may be open. -/
def Follows : Entry → List Char → Prop
  | token _, g => IsGap g
  | ending _, g => IsLastGap g

end Entry

/-- The tokens of a text with its end behind them. -/
def entries (input : String) : Except Error (List Entry) :=
  (tokenize input).map fun (tokens, finish) => tokens.map .token ++ [.ending finish]

/-- Behind the text `before` stands a text that is, in order, gaps and the texts of entries, each
entry at its position. -/
inductive FallsInto : List Char → List Char → List Entry → Prop where
  | nil (before : List Char) : FallsInto before [] []
  | cons {before g s : List Char} {e : Entry} {es : List Entry} (hgap : e.Follows g)
      (hposition : e.position = .after (before ++ g))
      (h : FallsInto (before ++ (g ++ e.text.toList)) s es) :
      FallsInto before (g ++ (e.text.toList ++ s)) (e :: es)

/-- A text without tokens is the gap in front of its end. -/
theorem streamFrom_eq_nil {p finish : Position} {s : List Char}
    (h : streamFrom p s = ⟨[], .ok finish⟩) : IsLastGap s ∧ finish = p.advance s := by
  cases falls s with
  | opened hgap =>
    rw [streamFrom_of_open p hgap] at h
    cases h
  | ended hgap hend =>
    rw [streamFrom_of_end p hgap hend] at h
    obtain ⟨g, r, hg⟩ := exists_passesOver hgap
    have hr : r = [] := by rw [← hend, ← hg.length, hg.text, List.drop_left]
    have hs : s = g := by rw [hg.text, hr, List.append_nil]
    cases h
    rw [← hg.length, hs, List.take_length]
    exact ⟨hg.last, rfl⟩
  | faulty hgap hnext hfault =>
    obtain ⟨e, hp⟩ := streamFrom_of_fault p hgap hnext hfault
    rw [hp] at h
    cases h
  | token hgap hnext hread =>
    rw [streamFrom_of_token p hgap hnext hread] at h
    cases h

/-- How a text begins that falls into a token and more: with a gap and the characters `c :: w` of
the token, which are read there. -/
structure Begins (p : Position) (s g : List Char) (c : Char) (w behind : List Char) (o : Token) :
    Prop where
  text : s = g ++ c :: (w ++ behind)
  gap : IsGap g
  start : gapLength (c :: (w ++ behind)) = .ok 0
  read : readStart c (w ++ behind) = .token o.kind (w.length + 1)
  token : o.text.toList = c :: w
  position : o.position = p.advance g

theorem exists_begins {p finish : Position} {s : List Char} {o : Token} {ts : List Token}
    (h : streamFrom p s = ⟨o :: ts, .ok finish⟩) :
    ∃ g c w behind, Begins p s g c w behind o ∧
      streamFrom ((p.advance g).advance (c :: w)) behind = ⟨ts, .ok finish⟩ := by
  obtain ⟨n, c, r, length, hgap, hnext, hread, htext, hposition, hrest⟩ := streamFrom_eq_cons h
  obtain ⟨g, behind, hg⟩ := exists_passesOver hgap
  have hbehind : behind = c :: r := by rw [← hnext, ← hg.length, hg.text, List.drop_left]
  have htake : s.take n = g := by rw [← hg.length, hg.text, List.take_left]
  have hclosed : IsGap g := hg.closed (by rw [hbehind]; exact List.cons_ne_nil c r)
  have hr : r.take (length - 1) ++ r.drop (length - 1) = r := List.take_append_drop _ r
  have hlength : length = (r.take (length - 1)).length + 1 := by
    have hpos := pos_of_readStart hread
    have hle := (readStart_append_break [] (b := '\n') (by decide) hread).2
    rw [List.length_take]
    omega
  rw [htake] at hposition
  rw [hposition, htext] at hrest
  refine ⟨g, c, r.take (length - 1), r.drop (length - 1), ?_, hrest⟩
  rw [hlength] at hread
  exact { text := by rw [hr, ← hbehind, hg.text]
          gap := hclosed
          start := by
            -- the gap ends in front of the token
            rw [hg.text, gapLength_append_of_isGap hclosed, hbehind] at hgap
            obtain ⟨k, hk, hn⟩ := shift_eq_ok hgap
            have hzero : k = 0 := by
              have := hg.length
              omega
            rw [hr, hk, hzero]
          read := by rw [hr]; exact hread
          token := htext
          position := hposition }

/-- Each token takes the gap in front of it and its own characters off the text. -/
theorem fallsInto_of_streamFrom {before s : List Char} {ts : List Token} {finish : Position}
    (h : streamFrom (.after before) s = ⟨ts, .ok finish⟩) :
    FallsInto before s (ts.map .token ++ [.ending finish]) := by
  induction ts generalizing before s with
  | nil =>
    obtain ⟨hgap, hfinish⟩ := streamFrom_eq_nil h
    rw [Position.advance_after] at hfinish
    have hend := FallsInto.cons (e := .ending finish) hgap hfinish (.nil _)
    simpa [Entry.text] using hend
  | cons o ts ih =>
    obtain ⟨g, c, w, behind, hbegins, hrest⟩ := exists_begins h
    have hposition := hbegins.position
    rw [Position.advance_after] at hposition
    rw [Position.advance_after, Position.advance_after, List.append_assoc, ← hbegins.token] at hrest
    have htext : s = g ++ (o.text.toList ++ behind) := by rw [hbegins.token, hbegins.text]; rfl
    rw [htext]
    exact FallsInto.cons (e := .token o) hbegins.gap hposition (ih hrest)

/-- No token is empty. -/
theorem text_ne_of_streamFrom {p finish : Position} {s : List Char} {ts : List Token}
    (h : streamFrom p s = ⟨ts, .ok finish⟩) : ∀ t ∈ ts, t.text ≠ "" := by
  induction ts generalizing p s with
  | nil => exact nofun
  | cons o ts ih =>
    obtain ⟨n, c, r, length, -, -, -, htext, -, hrest⟩ := streamFrom_eq_cons h
    refine List.forall_mem_cons.mpr ⟨?_, ih hrest⟩
    intro hempty
    rw [hempty] at htext
    cases htext

theorem streamFrom_of_tokenize {input : String} {ts : List Token} {finish : Position}
    (h : tokenize input = .ok (ts, finish)) :
    streamFrom .start input.toList = ⟨ts, .ok finish⟩ := by
  obtain ⟨htokens, hfinish⟩ := tokenize_eq_ok_iff.mp h
  rw [← htokens, ← hfinish]
  rfl

theorem exists_of_entries {input : String} {es : List Entry} (h : entries input = .ok es) :
    ∃ ts finish, tokenize input = .ok (ts, finish) ∧ es = ts.map .token ++ [.ending finish] := by
  unfold entries at h
  cases htokens : tokenize input with
  | error e =>
    rw [htokens] at h
    cases h
  | ok result =>
    rw [htokens] at h
    cases h
    exact ⟨result.1, result.2, rfl, rfl⟩

/-- A text that can be read is its entries with gaps in front of them, each entry where its position
says. The end of the text is the last entry and the only one without characters. -/
theorem fallsInto_of_entries {input : String} {es : List Entry} (h : entries input = .ok es) :
    FallsInto [] input.toList es ∧
      (∃ (ts : List Token) (finish : Position), es = ts.map .token ++ [.ending finish]) ∧
      ∀ e ∈ es, e.text = "" ↔ e.isEnding = true := by
  obtain ⟨ts, finish, htokens, rfl⟩ := exists_of_entries h
  have hstream := streamFrom_of_tokenize htokens
  refine ⟨fallsInto_of_streamFrom hstream, ⟨ts, finish, rfl⟩, fun e he => ?_⟩
  rcases List.mem_append.mp he with he | he
  · obtain ⟨t, ht, rfl⟩ := List.mem_map.mp he
    exact iff_of_false (text_ne_of_streamFrom hstream t ht) Bool.false_ne_true
  · rw [List.mem_singleton.mp he]
    exact iff_of_true rfl rfl

/-- Comments in front of a literal with a doubled quote and a line break, and an open one at the
end. -/
theorem entries_of_commented :
    entries "a -- b\n/* * */'it''s\n' +-- c" = .ok [
      .token ⟨.identifier "a", "a", ⟨1, 1⟩⟩, .token ⟨.string "it's\n", "'it''s\n'", ⟨2, 8⟩⟩,
      .token ⟨.symbol .plus, "+", ⟨3, 3⟩⟩, .ending ⟨3, 8⟩] ∧
    FallsInto [] "a -- b\n/* * */'it''s\n' +-- c".toList [
      .token ⟨.identifier "a", "a", ⟨1, 1⟩⟩, .token ⟨.string "it's\n", "'it''s\n'", ⟨2, 8⟩⟩,
      .token ⟨.symbol .plus, "+", ⟨3, 3⟩⟩, .ending ⟨3, 8⟩] :=
  ⟨by decide +kernel, (fallsInto_of_entries (by decide +kernel)).1⟩

end Token

end RowFilter
