import RowFilter.Proofs.Text.AsciiCase
import RowFilter.Proofs.Token.Append

/-!
The case of ASCII letters and the scanners. No scanner sees it: a text in lowercase has its gaps and
its tokens where the text has them, and what the tokens hold is in lowercase.
-/

namespace RowFilter.Token

open Text (lowerAscii lowerName)

/-! ## Scanners -/

theorem isWordChar_toLower (c : Char) : isWordChar c.toLower = isWordChar c :=
  Text.apply_toLower isWordChar (by decide) c

theorem isWordStart_toLower (c : Char) : isWordStart c.toLower = isWordStart c :=
  Text.apply_toLower isWordStart (by decide) c

/-! ### Gaps -/

theorem blockLength?_lowerAscii (s : List Char) :
    blockLength? (lowerAscii s) = blockLength? s := by
  induction s using blockLength?.induct with
  | case1 tail => rfl
  | case2 c s hother ih =>
    -- no mark is made of letters
    have hlower : ∀ tail, c.toLower = '*' → lowerAscii s = '/' :: tail → False := by
      intro tail hc hs
      obtain ⟨r, hr, -⟩ := Text.lowerAscii_eq_cons (by rfl) hs
      exact hother r ((Text.toLower_eq_iff (by rfl)).mp hc) hr
    rw [Text.lowerAscii_cons, blockLength?.eq_2 _ _ hlower, blockLength?.eq_2 _ _ hother, ih]
  | case3 => rfl

theorem gapLength_lowerAscii (s : List Char) : gapLength (lowerAscii s) = gapLength s := by
  -- the marks of comments are no letters: a text that begins no comment still begins none
  have hother {c : Char} {r : List Char} (d e : Char) (hd : d.isAlpha = false)
      (he : e.isAlpha = false) (h : ∀ u, c = d → r = e :: u → False) :
      ∀ u, c.toLower = d → lowerAscii r = e :: u → False := by
    intro u hc hr
    obtain ⟨v, hv, -⟩ := Text.lowerAscii_eq_cons he hr
    exact h v ((Text.toLower_eq_iff hd).mp hc) hv
  induction s using gapLength.induct with
  | case1 r k =>
    rename_i ih
    have hline : (lowerAscii r).takeWhile (· ≠ '\n') = lowerAscii (r.takeWhile (· ≠ '\n')) := by
      apply Text.takeWhile_lowerAscii
      intro c
      simp only [ne_eq, Text.toLower_eq_iff (d := '\n') rfl]
    show gapLength ('-' :: '-' :: lowerAscii r) = _
    rw [gapLength_line, gapLength_line, hline, Text.length_lowerAscii, Text.drop_lowerAscii, ih]
  | case2 r k hblock ih =>
    show gapLength ('/' :: '*' :: lowerAscii r) = _
    rw [gapLength_block, gapLength_block, blockLength?_lowerAscii, hblock]
    dsimp only
    rw [Text.drop_lowerAscii, ih]
  | case3 r hblock =>
    show gapLength ('/' :: '*' :: lowerAscii r) = _
    rw [gapLength_block, gapLength_block, blockLength?_lowerAscii, hblock]
  | case4 c r hdash hslash hblank ih =>
    rw [Text.lowerAscii_cons, gapLength_cons (hother _ _ rfl rfl hdash) (hother _ _ rfl rfl hslash),
      gapLength_cons hdash hslash, Text.isBlank_toLower, ih]
  | case5 c r hdash hslash hblank =>
    rw [Text.lowerAscii_cons, gapLength_cons (hother _ _ rfl rfl hdash) (hother _ _ rfl rfl hslash),
      gapLength_cons hdash hslash, Text.isBlank_toLower, if_neg hblank, if_neg hblank]
  | case6 => rfl

/-! ### Identifiers -/

theorem afterMark?_lowerAscii {mark : Char} (hmark : mark.isAlpha = false) (s : List Char) :
    afterMark? mark (lowerAscii s) = (afterMark? mark s).map lowerAscii := by
  cases s with
  | nil => rfl
  | cons c s =>
    have hhead : some c.toLower = some mark ↔ some c = some mark := by
      rw [Option.some_inj, Option.some_inj, Text.toLower_eq_iff hmark]
    rw [Text.lowerAscii_cons, afterMark?, afterMark?, List.head?_cons, List.head?_cons]
    by_cases hc : some c = some mark
    · rw [if_pos hc, if_pos (hhead.mpr hc)]
      rfl
    · rw [if_neg hc, if_neg (mt hhead.mp hc)]
      rfl

theorem afterGroups?_lowerAscii (s : List Char) (groups : List Nat) :
    afterGroups? (lowerAscii s) groups = (afterGroups? s groups).map lowerAscii := by
  induction groups generalizing s with
  | nil => rfl
  | cons n groups ih =>
    have hall (t : List Char) : (lowerAscii t).all Guid.isHexDigit = t.all Guid.isHexDigit :=
      Text.all_lowerAscii Text.isHexDigit_toLower t
    cases groups with
    | nil =>
      rw [afterGroups?, afterGroups?, Text.take_lowerAscii, Text.drop_lowerAscii,
        Text.length_lowerAscii, hall]
      split <;> rfl
    | cons m groups =>
      rw [afterGroups?_cons_cons, afterGroups?_cons_cons, Text.take_lowerAscii,
        Text.drop_lowerAscii, Text.length_lowerAscii, hall, afterMark?_lowerAscii rfl]
      split
      · cases afterMark? '-' (s.drop n) with
        | none => rfl
        | some r => exact ih r
      · rfl

theorem afterGuid?_lowerAscii (s : List Char) :
    afterGuid? (lowerAscii s) = (afterGuid? s).map lowerAscii := by
  cases s with
  | nil => rfl
  | cons c r =>
    by_cases hc : c = '\x7b'
    · have hbrace : lowerAscii ('\x7b' :: r) = '\x7b' :: lowerAscii r := rfl
      rw [hc, hbrace, afterGuid?_brace, afterGuid?_brace, afterGroups?_lowerAscii]
      cases afterGroups? r guidGroups with
      | none => rfl
      | some rest => exact afterMark?_lowerAscii rfl rest
    · rw [Text.lowerAscii_cons, afterGuid?_of_ne (Text.toLower_ne rfl hc), afterGuid?_of_ne hc]
      exact afterGroups?_lowerAscii (c :: r) guidGroups

theorem guidLength?_lowerAscii (s : List Char) : guidLength? (lowerAscii s) = guidLength? s := by
  rw [guidLength?_eq, guidLength?_eq, afterGuid?_lowerAscii]
  cases afterGuid? s with
  | none => rfl
  | some rest =>
    rw [Option.map_some, Option.filter_some, Option.filter_some,
      Text.any_head?_lowerAscii isWordChar_toLower]
    split
    · simp only [Option.map_some, Text.length_lowerAscii]
    · rfl

/-! ### Words, keys and numbers -/

theorem wordLength_lowerAscii (s : List Char) : wordLength (lowerAscii s) = wordLength s := by
  rw [wordLength, Text.takeWhile_lowerAscii isWordChar_toLower, Text.length_lowerAscii, wordLength]

theorem digits_lowerAscii (s : List Char) :
    ((lowerAscii s).takeWhile Char.isDigit).length = (s.takeWhile Char.isDigit).length := by
  rw [Text.takeWhile_lowerAscii Text.isDigit_toLower, Text.length_lowerAscii]

theorem measurementKeyLength?_lowerAscii (s : List Char) :
    measurementKeyLength? (lowerAscii s) = measurementKeyLength? s := by
  unfold measurementKeyLength?
  dsimp only
  rw [Text.any_head?_lowerAscii isWordStart_toLower, wordLength_lowerAscii, Text.drop_lowerAscii]
  split
  · cases s.drop (wordLength s) with
    | nil => rfl
    | cons c r =>
      by_cases hc : c = ':'
      · have hlower : ':'.toLower = ':' := rfl
        simp only [Text.lowerAscii_cons, hc, hlower, digits_lowerAscii]
      · simp [hc, Text.toLower_ne (d := ':') rfl hc]
  · rfl

theorem startsNumber_lowerAscii (s : List Char) :
    startsNumber (lowerAscii s) = startsNumber s := by
  rcases s with _ | ⟨c, _ | ⟨d, r⟩⟩
  · rfl
  · by_cases hc : c = '.'
    · rw [hc]
      rfl
    · simp [startsNumber, Text.isDigit_toLower]
  · by_cases hc : c = '.'
    · rw [hc]
      exact Text.isDigit_toLower d
    · simp [startsNumber, hc, Text.toLower_ne (d := '.') rfl hc, Text.isDigit_toLower]

theorem hexLength_lowerAscii (s : List Char) : hexLength (lowerAscii s) = hexLength s := by
  have hmark (c : Char) : (c.toLower = 'x' || c.toLower = 'X') = (c = 'x' || c = 'X') :=
    Text.apply_toLower (fun c => decide (c = 'x') || decide (c = 'X')) (by decide) c
  rcases s with _ | ⟨c, _ | ⟨d, r⟩⟩
  · rfl
  · by_cases hc : c = '0'
    · rw [hc]
      rfl
    · simp [hexLength]
  · by_cases hc : c = '0'
    · rw [hc]
      show hexLength ('0' :: d.toLower :: lowerAscii r) = _
      simp only [hexLength, hmark, Text.takeWhile_lowerAscii Text.isHexDigit_toLower,
        Text.length_lowerAscii]
    · simp [hexLength, hc, Text.toLower_ne (d := '0') rfl hc]

theorem digitsLength_lowerAscii (s : List Char) :
    digitsLength (lowerAscii s) = digitsLength s := by
  unfold digitsLength
  dsimp only
  rw [digits_lowerAscii, Text.drop_lowerAscii]
  cases s.drop (s.takeWhile Char.isDigit).length with
  | nil => rfl
  | cons c r =>
    by_cases hc : c = '.'
    · have hlower : '.'.toLower = '.' := rfl
      simp only [Text.lowerAscii_cons, hc, hlower, digits_lowerAscii]
    · simp [hc, Text.toLower_ne (d := '.') rfl hc]

theorem exponentLength_lowerAscii (s : List Char) :
    exponentLength (lowerAscii s) = exponentLength s := by
  have hmark (c : Char) : (c.toLower = 'e' || c.toLower = 'E') = (c = 'e' || c = 'E') :=
    Text.apply_toLower (fun c => decide (c = 'e') || decide (c = 'E')) (by decide) c
  have hsign (c : Char) : (c.toLower = '+' || c.toLower = '-') = (c = '+' || c = '-') :=
    Text.apply_toLower (fun c => decide (c = '+') || decide (c = '-')) (by decide) c
  rcases s with _ | ⟨c, _ | ⟨d, r⟩⟩
  · rfl
  · simp [exponentLength]
  · simp only [Text.lowerAscii_cons, exponentLength, hmark, hsign]
    simp only [← Text.lowerAscii_cons, Text.drop_lowerAscii, digits_lowerAscii]

theorem numberLength_lowerAscii (s : List Char) :
    numberLength (lowerAscii s) = numberLength s := by
  unfold numberLength
  dsimp only
  rw [hexLength_lowerAscii, digitsLength_lowerAscii, Text.drop_lowerAscii,
    exponentLength_lowerAscii]

/-! ### Quoted literals and symbols -/

theorem readDelimited?_lowerAscii {closing : Char} (hclosing : closing.isAlpha = false)
    (doubled : Bool) (s : List Char) :
    readDelimited? closing doubled (lowerAscii s) =
      (readDelimited? closing doubled s).map fun (content, n) => (lowerAscii content, n) := by
  have hlower : closing.toLower = closing := (Text.toLower_eq_iff hclosing).mpr rfl
  have hmark (d : Char) : (d.toLower = closing) = (d = closing) :=
    propext (Text.toLower_eq_iff hclosing)
  induction s using readDelimited?.induct closing doubled with
  | case1 => rfl
  | case2 d rest hd ih =>
    simp only [Text.lowerAscii_cons, readDelimited?, hlower, hmark, if_true, hd, ih,
      Option.map_map, Function.comp_def]
  | case3 d rest hd =>
    simp only [Text.lowerAscii_cons, readDelimited?, hlower, hmark, if_true, hd]
    rfl
  | case4 =>
    simp only [Text.lowerAscii_cons, Text.lowerAscii_nil, readDelimited?, hlower, if_true]
    rfl
  | case5 c rest hc ih =>
    rw [Text.lowerAscii_cons, readDelimited?_cons (Text.toLower_ne hclosing hc),
      readDelimited?_cons hc, ih, Option.map_map, Option.map_map]
    rfl

theorem isPrefixOf_lowerAscii {w : List Char} (hw : w.all (!·.isAlpha) = true) (s : List Char) :
    w.isPrefixOf (lowerAscii s) = w.isPrefixOf s := by
  induction w generalizing s with
  | nil => rfl
  | cons a w ih =>
    rw [List.all_cons, Bool.and_eq_true, Bool.not_eq_true'] at hw
    cases s with
    | nil => rfl
    | cons c s =>
      have hhead : (a == c.toLower) = (a == c) := by
        rw [Bool.eq_iff_iff, beq_iff_eq, beq_iff_eq, eq_comm, Text.toLower_eq_iff hw.1, eq_comm]
      simp only [Text.lowerAscii_cons, List.isPrefixOf, hhead, ih hw.2]

/-- No symbol has a letter in it. -/
theorem atStart?_lowerAscii (s : List Char) :
    Symbol.atStart? (lowerAscii s) = Symbol.atStart? s := by
  have hspellings : Symbol.spellings.all (·.1.all (!·.isAlpha)) = true := by decide
  have hfind (l : List (List Char × Symbol)) (hl : l.all (·.1.all (!·.isAlpha)) = true) :
      l.find? (·.1.isPrefixOf (lowerAscii s)) = l.find? (·.1.isPrefixOf s) := by
    induction l with
    | nil => rfl
    | cons spelling l ih =>
      rw [List.all_cons, Bool.and_eq_true] at hl
      simp only [List.find?_cons, isPrefixOf_lowerAscii hl.1, ih hl.2]
  rw [Symbol.atStart?, hfind _ hspellings, Symbol.atStart?]

/-! ## Tokens -/

/-- The kind of a token with what it holds in lowercase. -/
def Kind.lowered : Kind → Kind
  | .keyword k => .keyword k
  | .symbol s => .symbol s
  | .identifier name => .identifier (lowerName name)
  | .integer text => .integer (lowerName text)
  | .numeric text => .numeric (lowerName text)
  | .string content => .string (lowerName content)
  | .guid text => .guid (lowerName text)
  | .dateTime content => .dateTime (lowerName content)
  | .measurementKey text => .measurementKey (lowerName text)
  | .pointTag content => .pointTag (lowerName content)

def Reading.lowered : Reading → Reading
  | .token kind length => .token kind.lowered length
  | .unexpected length passed => .unexpected length passed
  | .unterminated what => .unterminated what

theorem ofList_lowerAscii (s : List Char) :
    String.ofList (lowerAscii s) = lowerName (String.ofList s) := by
  rw [lowerName, String.toList_ofList]

theorem readNumber_lowerAscii (s : List Char) :
    readNumber (lowerAscii s) = (readNumber s).lowered := by
  have hmark (c : Char) : (decide (c.toLower = '.') || decide (c.toLower = 'e') ||
      decide (c.toLower = 'E')) = (decide (c = '.') || decide (c = 'e') || decide (c = 'E')) :=
    Text.apply_toLower (fun c => decide (c = '.') || decide (c = 'e') || decide (c = 'E'))
      (by decide) c
  have hmarks (t : List Char) : (lowerAscii t).any
      (fun c => decide (c = '.') || decide (c = 'e') || decide (c = 'E')) =
      t.any fun c => decide (c = '.') || decide (c = 'e') || decide (c = 'E') := by
    rw [lowerAscii, List.any_map]
    exact congrArg t.any (funext hmark)
  unfold readNumber
  dsimp only
  rw [numberLength_lowerAscii, hexLength_lowerAscii, Text.drop_lowerAscii, Text.take_lowerAscii,
    Text.any_head?_lowerAscii isWordChar_toLower, hmarks, ofList_lowerAscii]
  split
  · rfl
  · split <;> rfl

theorem ofWord?_lowerAscii (word : List Char) :
    Keyword.ofWord? (lowerAscii word) = Keyword.ofWord? word := by
  rw [Keyword.ofWord?, Text.lowerAscii_lowerAscii, Keyword.ofWord?]

theorem readWord_lowerAscii (s : List Char) :
    readWord (lowerAscii s) = (readWord s).lowered := by
  unfold readWord
  dsimp only
  rw [wordLength_lowerAscii, Text.take_lowerAscii, ofWord?_lowerAscii, ofList_lowerAscii]
  split <;> rfl

theorem readQuoted_lowerAscii {closing : Char} (hclosing : closing.isAlpha = false)
    (doubled : Bool) {kind : String → Kind}
    (hkind : ∀ content, (kind content).lowered = kind (lowerName content)) (what : String)
    (s : List Char) : readQuoted closing doubled kind what (lowerAscii s) =
      (readQuoted closing doubled kind what s).lowered := by
  unfold readQuoted
  rw [readDelimited?_lowerAscii hclosing]
  cases readDelimited? closing doubled s with
  | none => rfl
  | some found =>
    obtain ⟨content, n⟩ := found
    rw [Option.map_some]
    dsimp only
    rw [ofList_lowerAscii, ← hkind]
    rfl

theorem readSymbol_lowerAscii (s : List Char) :
    readSymbol (lowerAscii s) = (readSymbol s).lowered := by
  unfold readSymbol
  rw [atStart?_lowerAscii]
  split <;> rfl

/-- What stands at the start of a text stands, in lowercase, at the start of the text in lowercase. -/
theorem readStart_lowerAscii (c : Char) (r : List Char) :
    readStart c.toLower (lowerAscii r) = (readStart c r).lowered := by
  unfold readStart
  dsimp only
  rw [← Text.lowerAscii_cons, guidLength?_lowerAscii, measurementKeyLength?_lowerAscii,
    startsNumber_lowerAscii, isWordStart_toLower, readNumber_lowerAscii, readWord_lowerAscii,
    readSymbol_lowerAscii]
  split
  · rw [Text.take_lowerAscii, ofList_lowerAscii]
    rfl
  · rw [Text.take_lowerAscii, ofList_lowerAscii]
    rfl
  · split
    · rfl
    · split
      · rfl
      · next hword =>
        -- what begins no word is no letter
        have hupper : c.isUpper = false := by
          rw [Bool.eq_false_iff]
          intro h
          apply hword
          show (c.isUpper || c.isLower || decide (c = '_')) = true
          rw [h, Bool.true_or, Bool.true_or]
        rw [Text.toLower_of_not_isUpper hupper]
        split
        · exact readQuoted_lowerAscii rfl true (fun _ => rfl) _ r
        · exact readQuoted_lowerAscii rfl true (fun _ => rfl) _ r
        · exact readQuoted_lowerAscii rfl true (fun _ => rfl) _ r
        · exact readQuoted_lowerAscii rfl false (fun _ => rfl) _ r
        · rfl

end RowFilter.Token
