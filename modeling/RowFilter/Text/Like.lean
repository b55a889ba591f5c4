import RowFilter.Text.CaseMap

/-!
Matching a text against a LIKE pattern. In a pattern `%` stands for one or more characters and `_`
for exactly one; every other character stands for itself. The whole text has to match.

The search goes through text and pattern once and gives a run of wildcards as little as it can. It
remembers the last run only: where it gets stuck, it gives that run one character more and goes on
from there.
-/

namespace RowFilter.Text

/-- What an element of an expanded pattern stands for. -/
inductive Wildcard where
  | char (c : Char)
  | one
  /-- Any number of characters, also none. -/
  | run
deriving DecidableEq, Repr

namespace Wildcard

/-- A `%` takes one character at least. -/
def ofChar : Char → List Wildcard
  | '%' => [one, run]
  | '_' => [one]
  | c => [char c]

/-- Does the element take this character and end with it? -/
def takes : Wildcard → Char → Bool
  | char d, c => d == c
  | one, _ => true
  | run, _ => false

end Wildcard

/-- Where to go back to from a text and a pattern: the pattern after its last run, and the text
this was tried on. Since then each element of the pattern took one character. -/
structure Retry (text : List Char) (pattern : List Wildcard) where
  lastText : List Char
  lastPattern : List Wildcard
  taken : ∃ (u : List Char) (q : List Wildcard), lastText = u ++ text ∧
    lastPattern = q ++ pattern ∧ u.length = q.length ∧ .run ∉ q

namespace Retry

variable {text : List Char} {pattern : List Wildcard}

/-- The text where a run was met, with the pattern after it. -/
def here (text : List Char) (pattern : List Wildcard) : Retry text pattern :=
  ⟨text, pattern, [], [], rfl, rfl, rfl, by simp⟩

/-- Another element has taken its character. -/
def pass {c : Char} {w : Wildcard} (r : Retry (c :: text) (w :: pattern)) (h : w.takes c) :
    Retry text pattern where
  lastText := r.lastText
  lastPattern := r.lastPattern
  taken := by
    obtain ⟨u, q, ht, hp, hlength, hrun⟩ := r.taken
    have hw : .run ≠ w := by rintro rfl; exact Bool.noConfusion h
    exact ⟨u ++ [c], q ++ [w], by simp [ht], by simp [hp], by simp [hlength], by simp [hrun, hw]⟩

theorem length_text_le (r : Retry text pattern) : text.length ≤ r.lastText.length := by
  obtain ⟨u, q, ht, -⟩ := r.taken
  simp [ht]

theorem length_pattern_le (r : Retry text pattern) : pattern.length ≤ r.lastPattern.length := by
  obtain ⟨u, q, -, hp, -⟩ := r.taken
  simp [hp]

end Retry

/-- A search under way: what is left of text and pattern. -/
structure Search where
  text : List Char
  pattern : List Wildcard
  retry : Option (Retry text pattern)

namespace Search

/-- Gives the last run one character more. -/
def again {text : List Char} {pattern : List Wildcard} : Option (Retry text pattern) → Search ⊕ Bool
  | none => .inr false
  | some r => .inl ⟨r.lastText.tail, r.lastPattern, some (.here r.lastText.tail r.lastPattern)⟩

/-- One round: where the search stands after it, or its answer. -/
def step : Search → Search ⊕ Bool
  | ⟨[], pattern, _⟩ => .inr (pattern.all (· = .run))
  | ⟨c :: text, .run :: pattern, _⟩ => .inl ⟨c :: text, pattern, some (.here (c :: text) pattern)⟩
  | ⟨c :: text, w :: pattern, retry⟩ =>
    if h : w.takes c then .inl ⟨text, pattern, retry.map (·.pass h)⟩ else again retry
  | ⟨_ :: _, [], retry⟩ => again retry

/-- What gets smaller with each round, in lexicographic order: the pattern after the last run, the
text it is tried on and the text that is left. Before the first run the pattern that is left stands
for the pattern after it. -/
def size (f : Search) : Nat × Nat × Nat :=
  match f.retry with
  | none => (f.pattern.length, 0, f.text.length)
  | some r => (r.lastPattern.length, r.lastText.length, f.text.length)

/-- The search was at a character of the text when it got stuck, so the last run can take one more. -/
theorem size_again {c : Char} {text : List Char} {pattern : List Wildcard}
    {retry : Option (Retry (c :: text) pattern)} {g : Search} (h : again retry = .inl g) :
    Prod.Lex (· < ·) (Prod.Lex (· < ·) (· < ·)) g.size (size ⟨c :: text, pattern, retry⟩) := by
  cases retry with
  | none => simp [again] at h
  | some r =>
    obtain rfl := Sum.inl.inj h
    have hlength := r.length_text_le
    rw [List.length_cons] at hlength
    apply Prod.Lex.right
    apply Prod.Lex.left
    show r.lastText.tail.length < r.lastText.length
    rw [List.length_tail]
    omega

theorem size_step {f g : Search} (h : f.step = .inl g) :
    Prod.Lex (· < ·) (Prod.Lex (· < ·) (· < ·)) g.size f.size := by
  revert h
  fun_cases step f with
  | case1 pattern retry => intro h; simp at h
  | case2 c text pattern retry =>
    rintro ⟨⟩
    apply Prod.Lex.left
    cases retry with
    | none => exact Nat.lt_succ_self pattern.length
    | some r => exact r.length_pattern_le
  | case3 c text w pattern retry hrun h =>
    rintro ⟨⟩
    cases retry with
    | none => apply Prod.Lex.left; simp
    | some r =>
      apply Prod.Lex.right
      apply Prod.Lex.right
      simp
  | case4 c text w pattern retry hrun h => exact size_again
  | case5 c text retry => exact size_again

/-- Goes on to the answer. -/
def run (f : Search) : Bool :=
  match _h : f.step with
  | .inl g => g.run
  | .inr answer => answer
termination_by f.size
decreasing_by exact size_step _h

end Search

/-- The characters that are compared: those of the text, or their lowercase. -/
def likeFold (exact : Bool) (s : List Char) : List Char :=
  if exact then s else foldCase s

namespace Search

def start (text pattern : List Char) (exact : Bool) : Search :=
  ⟨likeFold exact text, (likeFold exact pattern).flatMap Wildcard.ofChar, none⟩

end Search

/-- Does the text match the pattern? Case counts only in an exact match. -/
def like (text pattern : List Char) (exact : Bool) : Bool :=
  (Search.start text pattern exact).run

end RowFilter.Text
