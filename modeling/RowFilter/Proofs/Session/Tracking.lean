import Mathlib.Data.List.Induction
import RowFilter.Session.Track

/-!
What a run over matches tracks. Of the matches with a signal ID the first with each ID is kept, and
so is every match without one; each of the others is skipped and reported once. Rows and signal IDs
are tracked of the matches that are kept, whichever of the two is tracked.
-/

namespace RowFilter

/-! ## Elements chosen by what comes before them -/

/-- The elements of a list that a test accepts, which is told what comes before them. -/
def filterAfter {α : Type} (accepts : List α → α → Bool) (xs : List α) : List α :=
  (xs.zipIdx.filter fun (x, i) => accepts (xs.take i) x).map Prod.fst

theorem filterAfter_concat {α : Type} (accepts : List α → α → Bool) (xs : List α) (x : α) :
    filterAfter accepts (xs ++ [x]) =
      filterAfter accepts xs ++ if accepts xs x then [x] else [] := by
  have hbefore : (xs.zipIdx.filter fun (y, i) => accepts ((xs ++ [x]).take i) y) =
      xs.zipIdx.filter fun (y, i) => accepts (xs.take i) y := by
    apply List.filter_congr
    rintro ⟨y, i⟩ hy
    have hi : i < xs.length := by simpa using List.snd_lt_of_mem_zipIdx hy
    simp only [List.take_append_of_le_length (Nat.le_of_lt hi)]
  have hlast : (List.filter (fun (y, i) => accepts ((xs ++ [x]).take i) y)
      ([x].zipIdx (0 + xs.length))).map Prod.fst = if accepts xs x then [x] else [] := by
    by_cases h : accepts xs x = true
    · simp [h]
    · simp [h]
  unfold filterAfter
  rw [List.zipIdx_append, List.filter_append, List.map_append, hbefore, hlast]

/-! ## First matches -/

/-- A match before it has the same signal ID. A match without a signal ID repeats none. -/
def Match.repeats (earlier : List Match) (m : Match) : Bool :=
  m.signalId.isSome && earlier.any fun e => e.signalId = m.signalId

/-- The matches that repeat no match before them: every match without a signal ID, and of those
with the same ID the first. -/
def firstMatches (ms : List Match) : List Match :=
  filterAfter (fun earlier m => !m.repeats earlier) ms

/-- The matches that repeat one before them. -/
def repeatedMatches (ms : List Match) : List Match :=
  filterAfter (fun earlier m => m.repeats earlier) ms

theorem Match.repeats_iff {earlier : List Match} {m : Match} {id : Guid}
    (h : m.signalId = some id) :
    m.repeats earlier = true ↔ ∃ e ∈ earlier, e.signalId = some id := by
  simp [repeats, h]

theorem Match.repeats_of_none {earlier : List Match} {m : Match} (h : m.signalId = none) :
    m.repeats earlier = false := by
  simp [repeats, h]

/-- The signal IDs of the first matches are the signal IDs of all matches. -/
theorem mem_signalIds_firstMatches {ms : List Match} {id : Guid} :
    id ∈ (firstMatches ms).filterMap Match.signalId ↔ ∃ m ∈ ms, m.signalId = some id := by
  induction ms using List.reverseRecOn with
  | nil => simp [firstMatches, filterAfter]
  | append_singleton ms m ih =>
    have hconcat : id ∈ (firstMatches (ms ++ [m])).filterMap Match.signalId ↔
        (∃ e ∈ ms, e.signalId = some id) ∨
          (m.repeats ms = false ∧ m.signalId = some id) := by
      rw [firstMatches, filterAfter_concat, List.filterMap_append, List.mem_append,
        ← firstMatches, ih]
      apply or_congr_right
      by_cases h : m.repeats ms = true
      · simp [h]
      · simp [h]
    rw [hconcat]
    simp only [List.mem_append, List.mem_singleton, or_and_right, exists_or, exists_eq_left]
    constructor
    · rintro (h | ⟨-, h⟩)
      · exact .inl h
      · exact .inr h
    · rintro (h | h)
      · exact .inl h
      -- a match that is not kept has its ID from a match before it
      · by_cases hrepeats : m.repeats ms = true
        · exact .inl ((Match.repeats_iff h).mp hrepeats)
        · exact .inr ⟨Bool.eq_false_iff.mpr hrepeats, h⟩

theorem nodup_signalIds_firstMatches (ms : List Match) :
    ((firstMatches ms).filterMap Match.signalId).Nodup := by
  induction ms using List.reverseRecOn with
  | nil => exact List.nodup_nil
  | append_singleton ms m ih =>
    rw [firstMatches, filterAfter_concat, ← firstMatches, List.filterMap_append]
    refine List.nodup_append.mpr ⟨ih, ?_, ?_⟩
    · cases m.repeats ms with
      | true => exact List.nodup_nil
      | false => cases hid : m.signalId <;> simp [hid]
    · rintro id hid _ hlast rfl
      have hearlier := mem_signalIds_firstMatches.mp hid
      by_cases hrepeats : m.repeats ms = true
      · simp [hrepeats] at hlast
      · have hm : m.signalId = some id := by simpa [hrepeats] using hlast
        exact hrepeats ((Match.repeats_iff hm).mpr hearlier)

/-! ## One match -/

namespace Tracked

variable (t : Tracked) (options : Options) (m : Match)

theorem rows_add : (t.add options m).rows =
    t.rows ++ if options.trackRows then m.found.toList else [] := by
  unfold add
  cases m.signalId <;> cases m.found <;> cases options.trackRows <;>
    cases options.trackSignalIds <;> simp

theorem signalIds_add : (t.add options m).signalIds =
    t.signalIds ++ if options.trackSignalIds then m.signalId.toList else [] := by
  unfold add
  cases m.signalId <;> cases m.found <;> cases options.trackRows <;>
    cases options.trackSignalIds <;> simp

theorem ascending_add (h : t.signalIdSet.Ascending) : (t.add options m).signalIdSet.Ascending := by
  unfold add
  cases m.signalId <;> cases m.found <;> cases options.trackRows <;>
    cases options.trackSignalIds <;> simp [h, GuidSet.ascending_insert]

theorem mem_signalIdSet_add {id : Guid} : id ∈ (t.add options m).signalIdSet ↔
    id ∈ t.signalIdSet ∨ (options.trackSignalIds = true ∧ m.signalId = some id) := by
  unfold add
  cases m.signalId <;> cases m.found <;> cases options.trackRows <;>
    cases options.trackSignalIds <;> simp [GuidSet.mem_insert, eq_comm, or_comm]

end Tracked

/-! ## All matches -/

namespace Tracking

/-- What is tracked is what is to be tracked of the first matches, and what was reported are the
matches that repeat one before them. -/
structure Accounts (options : Options) (ms : List Match) (s : Tracking) : Prop where
  rows : s.tracked.rows =
    if options.trackRows then (firstMatches ms).filterMap Match.found else []
  signalIds : s.tracked.signalIds =
    if options.trackSignalIds then (firstMatches ms).filterMap Match.signalId else []
  signalIdSet : ∀ id, id ∈ s.tracked.signalIdSet ↔ id ∈ s.tracked.signalIds
  ascending : s.tracked.signalIdSet.Ascending
  seen : ∀ id, id ∈ s.seen ↔ ∃ m ∈ ms, m.signalId = some id
  log : s.log.map some = (repeatedMatches ms).map fun m => m.signalId.map .duplicateSkipped

variable {options : Options} {ms : List Match} {s : Tracking} {m : Match}

theorem firstMatches_concat_of_first (h : m.repeats ms = false) :
    firstMatches (ms ++ [m]) = firstMatches ms ++ [m] := by
  simp [firstMatches, filterAfter_concat, h]

theorem repeatedMatches_concat_of_first (h : m.repeats ms = false) :
    repeatedMatches (ms ++ [m]) = repeatedMatches ms := by
  simp [repeatedMatches, filterAfter_concat, h]

theorem firstMatches_concat_of_repeats (h : m.repeats ms = true) :
    firstMatches (ms ++ [m]) = firstMatches ms := by
  simp [firstMatches, filterAfter_concat, h]

theorem repeatedMatches_concat_of_repeats (h : m.repeats ms = true) :
    repeatedMatches (ms ++ [m]) = repeatedMatches ms ++ [m] := by
  simp [repeatedMatches, filterAfter_concat, h]

/-- A match that repeats none before it is added. -/
theorem Accounts.add (h : Accounts options ms s) (hfirst : m.repeats ms = false) {seen : GuidSet}
    (hseen : ∀ id, id ∈ seen ↔ ∃ e ∈ ms ++ [m], e.signalId = some id) :
    Accounts options (ms ++ [m]) { s with tracked := s.tracked.add options m, seen } where
  rows := by
    rw [Tracked.rows_add, h.rows, firstMatches_concat_of_first hfirst]
    cases options.trackRows <;> cases hm : m.found <;> simp [hm]
  signalIds := by
    rw [Tracked.signalIds_add, h.signalIds, firstMatches_concat_of_first hfirst]
    cases options.trackSignalIds <;> cases hm : m.signalId <;> simp [hm]
  signalIdSet id := by
    rw [Tracked.mem_signalIdSet_add, Tracked.signalIds_add, h.signalIdSet, List.mem_append]
    cases options.trackSignalIds <;> cases m.signalId <;> simp [eq_comm]
  ascending := s.tracked.ascending_add options m h.ascending
  seen := hseen
  log := by rw [repeatedMatches_concat_of_first hfirst, h.log]

/-- A match that repeats one before it is skipped. -/
theorem Accounts.skip (h : Accounts options ms s) {id : Guid} (hid : m.signalId = some id)
    (hrepeats : m.repeats ms = true) :
    Accounts options (ms ++ [m]) { s with log := s.log ++ [.duplicateSkipped id] } where
  rows := by rw [firstMatches_concat_of_repeats hrepeats, h.rows]
  signalIds := by rw [firstMatches_concat_of_repeats hrepeats, h.signalIds]
  signalIdSet := h.signalIdSet
  ascending := h.ascending
  seen k := by
    rw [h.seen]
    simp only [List.mem_append, List.mem_singleton, or_and_right, exists_or, exists_eq_left]
    constructor
    · exact .inl
    · rintro (hk | hk)
      · exact hk
      · obtain ⟨e, he, heid⟩ := (Match.repeats_iff hid).mp hrepeats
        exact ⟨e, he, heid.trans (hid.symm.trans hk)⟩
  log := by
    rw [repeatedMatches_concat_of_repeats hrepeats, List.map_append, List.map_append, h.log]
    simp [hid]

/-- The next match keeps the account. -/
theorem Accounts.next (h : Accounts options ms s) (m : Match) :
    Accounts options (ms ++ [m]) (s.next options m) := by
  unfold Tracking.next
  cases hid : m.signalId with
  | none =>
    refine h.add (Match.repeats_of_none hid) fun id => ?_
    rw [h.seen]
    simp [or_and_right, exists_or, hid]
  | some id =>
    by_cases hseen : s.seen.contains id = true
    · have hrepeats : m.repeats ms = true :=
        (Match.repeats_iff hid).mpr ((h.seen id).mp (List.contains_iff_mem.mp hseen))
      simp only [hseen, if_true]
      exact h.skip hid hrepeats
    · have hfirst : m.repeats ms = false := by
        rw [Bool.eq_false_iff]
        intro hrepeats
        have hearlier := (h.seen id).mpr ((Match.repeats_iff hid).mp hrepeats)
        exact hseen (List.contains_iff_mem.mpr hearlier)
      simp only [hseen]
      refine h.add hfirst fun k => ?_
      rw [GuidSet.mem_insert, h.seen]
      simp only [List.mem_append, List.mem_singleton, or_and_right, exists_or, exists_eq_left, hid,
        Option.some.injEq, eq_comm (a := k)]
      exact or_comm

/-- A run accounts for all matches. -/
theorem accounts_run (options : Options) (ms : List Match) :
    Accounts options ms (run options ms) := by
  induction ms using List.reverseRecOn with
  | nil =>
    have hempty : run options [] = start := rfl
    rw [hempty]
    constructor <;>
      simp [start, Tracked.empty, firstMatches, repeatedMatches, filterAfter, GuidSet.Ascending]
  | append_singleton ms m ih =>
    have hconcat : run options (ms ++ [m]) = (run options ms).next options m := by
      rw [run, List.foldl_append, ← run]
      rfl
    rw [hconcat]
    exact ih.next m

end Tracking

end RowFilter
