import RowFilter.Proofs.Selection.Scan
import RowFilter.Proofs.Session.Run
import RowFilter.Proofs.Session.Tracking

/-!
What a run tracks, whatever the flags: of all matches, in the order in which they are found, those
that are the first with their signal ID or have none. The others are skipped with an event each.
Because what is skipped does not depend on what is tracked, rows and signal IDs do not depend on
each other.
-/

namespace RowFilter

/-- What a run that found some matches has tracked, and the matches that it has skipped. -/
structure Session.Run.Tracks (o : Options) (ms : List Match) (r : Session.Run) : Prop where
  rows : r.session.tracked.rows =
    if o.trackRows then (firstMatches ms).filterMap Match.found else []
  signalIds : r.session.tracked.signalIds =
    if o.trackSignalIds then (firstMatches ms).filterMap Match.signalId else []
  nodup : r.session.tracked.signalIds.Nodup
  signalIdSet : ∀ id, id ∈ r.session.tracked.signalIdSet ↔ id ∈ r.session.tracked.signalIds
  ascending : r.session.tracked.signalIdSet.Ascending
  /-- One event for each match that is skipped. -/
  skipped : (r.log.filter LogEvent.isDuplicate).map some =
    (repeatedMatches ms).map fun m => m.signalId.map .duplicateSkipped

theorem Tracking.Accounts.filter_log {o : Options} {ms : List Match} {s : Tracking}
    (h : s.Accounts o ms) : s.log.filter LogEvent.isDuplicate = s.log := by
  rw [List.filter_eq_self]
  intro event hevent
  have hsome : some event ∈ s.log.map some := List.mem_map_of_mem hevent
  rw [h.log] at hsome
  obtain ⟨m, -, hm⟩ := List.mem_map.mp hsome
  obtain ⟨id, -, rfl⟩ := Option.map_eq_some_iff.mp hm
  rfl

/-- Ascending sets with the same members are the same. -/
theorem GuidSet.Ascending.ext {g h : GuidSet} (hg : g.Ascending) (hh : h.Ascending)
    (hmem : ∀ id, id ∈ g ↔ id ∈ h) : g = h := by
  have hnodup {k : GuidSet} (hk : k.Ascending) : k.Nodup := by
    refine List.Pairwise.imp (fun {a b} hlt => ?_) hk
    rintro rfl
    exact BitVec.lt_irrefl _ hlt
  -- neither has a member twice, so they have the same members in the same, ascending order
  have hperm : g.Perm h := (List.perm_ext_iff_of_nodup (hnodup hg) (hnodup hh)).mpr hmem
  refine List.Perm.eq_of_pairwise (fun a b _ _ hab hba => ?_) hg hh hperm
  exact absurd (BitVec.lt_trans hab hba) (BitVec.lt_irrefl _)

section

variable {o o' : Options} {ms : List Match} {r r' : Session.Run}

/-- Tracked rows depend on nothing but whether rows are tracked. -/
theorem Session.Run.Tracks.rows_congr (h : r.Tracks o ms) (h' : r'.Tracks o' ms)
    (hrows : o.trackRows = o'.trackRows) :
    r'.session.tracked.rows = r.session.tracked.rows := by
  rw [h.rows, h'.rows, hrows]

/-- Tracked signal IDs depend on nothing but whether signal IDs are tracked. -/
theorem Session.Run.Tracks.signalIds_congr (h : r.Tracks o ms) (h' : r'.Tracks o' ms)
    (hids : o.trackSignalIds = o'.trackSignalIds) :
    r'.session.tracked.signalIds = r.session.tracked.signalIds ∧
      r'.session.tracked.signalIdSet = r.session.tracked.signalIdSet := by
  have hlist : r'.session.tracked.signalIds = r.session.tracked.signalIds := by
    rw [h.signalIds, h'.signalIds, hids]
  refine ⟨hlist, h'.ascending.ext h.ascending fun id => ?_⟩
  rw [h'.signalIdSet, h.signalIdSet, hlist]

end

namespace Session

variable {s : Session} {clock : Clock}

/-- A run that succeeds has found matches and tracks them. -/
theorem tracks_of_run_ok (h : (s.run clock).outcome = .ok ()) :
    ∃ d b, s.dataSet = some d ∧ s.options.tracksNothing = false ∧
      prepare d s.options s.expression = .ok b ∧ (s.run clock).session.trees = b.trees ∧
      (s.run clock).Tracks s.options (b.matchesIn clock d s.options) := by
  obtain ⟨d, b, hd, hon, hb⟩ := (run_eq_ok_iff clock).mp h
  obtain ⟨log, hlog, hrun⟩ := run_of_prepare_ok clock hd hon hb
  have haccounts := Tracking.accounts_run s.options (b.matchesIn clock d s.options)
  refine ⟨d, b, hd, hon, hb, by rw [hrun], ?_⟩
  rw [hrun]
  refine ⟨haccounts.rows, haccounts.signalIds, ?_, haccounts.signalIdSet, haccounts.ascending, ?_⟩
  · rw [haccounts.signalIds]
    split
    · exact nodup_signalIds_firstMatches _
    · exact List.nodup_nil
  -- no event before tracking is about a match that was skipped
  · have hnone : log.filter LogEvent.isDuplicate = [] :=
      List.filter_eq_nil_iff.mpr fun event hevent => by simp [hlog event hevent]
    rw [List.filter_append, hnone, List.nil_append, haccounts.filter_log, haccounts.log]

/-- Sessions that differ in what they track, but both track something, find the same matches. -/
theorem tracks_of_bindsLike {s' : Session} (clock : Clock)
    (hlike : s.options.BindsLike s'.options) (hexpression : s'.expression = s.expression)
    (hdataSet : s'.dataSet = s.dataSet) {d : DataSet} {b : Bound} (hd : s.dataSet = some d)
    (hon : s.options.tracksNothing = false) (hb : prepare d s.options s.expression = .ok b) :
    (s'.run clock).outcome = .ok () ∧
      (s'.run clock).Tracks s'.options (b.matchesIn clock d s.options) := by
  have hb' : prepare d s'.options s'.expression = .ok b := by
    rw [hexpression, ← hlike.prepare d, hb]
  have hok : (s'.run clock).outcome = .ok () :=
    (run_eq_ok_iff clock).mpr ⟨d, b, hdataSet.trans hd, hlike.tracksNothing ▸ hon, hb'⟩
  obtain ⟨d', b', hd', -, hprepare, -, htracks⟩ := tracks_of_run_ok hok
  rw [hdataSet, hd] at hd'
  cases hd'
  rw [hb'] at hprepare
  cases hprepare
  rw [← hlike.matchesIn d b clock] at htracks
  exact ⟨hok, htracks⟩

/-- What a successful run tracks are the first matches with their signal IDs and the matches without
one, each of the others is skipped with one event, and whether rows are tracked makes no difference
to the tracked signal IDs, nor the other way round. -/
theorem run_tracks_first_matches (s : Session) (clock : Clock)
    (h : (s.run clock).outcome = .ok ()) :
    ∃ d b, s.dataSet = some d ∧ (bindText s.expression (.dataSet d) s.options).1 = .ok b ∧
      (∀ tree ∈ b.trees, ∃ t rows, d.table? tree.table = some t ∧
        (tree.select clock t).1 = .ok rows ∧
        tree.matchesIn clock d s.options = rows.map (s.options.matchOf t)) ∧
      (s.run clock).Tracks s.options (b.matchesIn clock d s.options) ∧
      (s.options.trackRows = true → ∀ on,
        ((s.setTrackSignalIds on).run clock).outcome = .ok () ∧
        ((s.setTrackSignalIds on).run clock).session.tracked.rows =
          (s.run clock).session.tracked.rows) ∧
      (s.options.trackSignalIds = true → ∀ on,
        ((s.setTrackRows on).run clock).outcome = .ok () ∧
        ((s.setTrackRows on).run clock).session.tracked.signalIds =
          (s.run clock).session.tracked.signalIds ∧
        ((s.setTrackRows on).run clock).session.tracked.signalIdSet =
          (s.run clock).session.tracked.signalIdSet) := by
  obtain ⟨d, b, hd, hon, hb, -, htracks⟩ := tracks_of_run_ok h
  have hbind : (bindText s.expression (.dataSet d) s.options).1 = .ok b := by
    obtain ⟨c, hc, hrest⟩ := bind_eq_ok_iff.mp hb
    obtain ⟨-, -, hrest⟩ := bind_eq_ok_iff.mp hrest
    cases hrest
    exact hc
  refine ⟨d, b, hd, hbind, fun tree htree => ?_, htracks, fun hrows on => ?_, fun hids on => ?_⟩
  · exact (inDataSet_bindText hbind tree htree).matchesIn clock s.options
  -- a session that tracks rows goes on to track something
  · have hlike : s.options.BindsLike (s.setTrackSignalIds on).options :=
      ⟨by simp [Options.tracksNothing, setTrackSignalIds, hrows], rfl, fun _ => rfl⟩
    obtain ⟨hok, htracks'⟩ := tracks_of_bindsLike clock hlike rfl rfl hd hon hb
    exact ⟨hok, htracks.rows_congr htracks' rfl⟩
  · have hlike : s.options.BindsLike (s.setTrackRows on).options :=
      ⟨by simp [Options.tracksNothing, setTrackRows, hids], rfl, fun _ => rfl⟩
    obtain ⟨hok, htracks'⟩ := tracks_of_bindsLike clock hlike rfl rfl hd hon hb
    exact ⟨hok, htracks.signalIds_congr htracks' rfl⟩

/-- Two sensors that report the same signal. -/
def sensors : Table :=
  ⟨"Sensors", [⟨"SignalID", .string⟩, ⟨"ID", .string⟩, ⟨"PointTag", .string⟩],
    [[.string "fe5ceb24-4d7d-4b3b-9d3d-0a1b2c3d4e5f", .string "A:1", .string "North"],
      [.string "\x7bFE5CEB24-4D7D-4B3B-9D3D-0A1B2C3D4E5F\x7d", .string "A:2", .string "South"]]⟩

/-- Asks for both sensors by their keys, and tracks rows and signal IDs. -/
def bothSensors : Session :=
  ((create "A:1;A:2" .standard).setDataSet ⟨[sensors]⟩).setTrackSignalIds true

/-- Of the two sensors the first is tracked, the second is skipped. -/
theorem run_tracks_first_sensor :
    (bothSensors.run .millennium).outcome = .ok () ∧
      (bothSensors.run .millennium).session.tracked.rows.length = 1 ∧
      ∃ b, (bindText "A:1;A:2" (.dataSet ⟨[sensors]⟩) bothSensors.options).1 = .ok b ∧
        (bothSensors.run .millennium).Tracks bothSensors.options
          (b.matchesIn .millennium ⟨[sensors]⟩ bothSensors.options) ∧
        ((bothSensors.setTrackRows false).run .millennium).session.tracked.signalIds =
          (bothSensors.run .millennium).session.tracked.signalIds := by
  have hok : (bothSensors.run .millennium).outcome = .ok () := by decide +kernel
  have hone : (bothSensors.run .millennium).session.tracked.rows.length = 1 := by decide +kernel
  obtain ⟨d, b, hd, hb, -, htracks, -, hids⟩ :=
    run_tracks_first_matches bothSensors .millennium hok
  cases hd
  exact ⟨hok, hone, b, hb, htracks, (hids rfl false).2.1⟩

end Session

end RowFilter
