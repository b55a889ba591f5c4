import RowFilter.Proofs.Session.Duplicates

/-!
Sessions have no memory: what a run gives, after whatever was asked of the session before, is what
it gives in a session that was created just now with the same options and the same data set. A run
that fails leaves nothing half done, and the subscriber hears of errors in the expression or its
configuration, once each, and of nothing else.
-/

namespace RowFilter.Session

/-! ## Requests -/

/-- What may be asked of a session. -/
inductive Request where
  | setDataSet (d : DataSet)
  | setPrimaryTable (name : String)
  | setIdFields (table : String) (fields : IdFields)
  | setTrackSignalIds (on : Bool)
  | setTrackRows (on : Bool)
  | setQuiet (on : Bool)
  | subscribe (subscriber : String)
  | run (clock : Clock)

/-- The session after a request. -/
def serve (s : Session) : Request → Session
  | .setDataSet d => s.setDataSet d
  | .setPrimaryTable name => s.setPrimaryTable name
  | .setIdFields table fields => s.setIdFields table fields
  | .setTrackSignalIds on => s.setTrackSignalIds on
  | .setTrackRows on => s.setTrackRows on
  | .setQuiet on => s.setQuiet on
  | .subscribe subscriber => s.subscribe subscriber
  | .run clock => (s.run clock).session

/-- The session after requests, one after the other. -/
def serveAll (s : Session) (requests : List Request) : Session :=
  requests.foldl serve s

/-! ## What requests keep -/

/-- The session is still about an expression, and its options say of no table twice which columns
identify its rows. -/
structure Keeps (expression : String) (s : Session) : Prop where
  expression : s.expression = expression
  distinct : s.options.Distinct

/-- A run changes nothing of a session but what it gives. -/
theorem run_session (s : Session) (clock : Clock) :
    ∃ tracked trees, (s.run clock).session = { s with tracked, trees } := by
  have hran := s.ran clock
  generalize s.run clock = r at hran
  cases hran with
  | noDataSet | nothingTracked => exact ⟨s.tracked, s.trees, rfl⟩
  | reported => exact ⟨.empty, [], rfl⟩
  | finished => exact ⟨_, _, rfl⟩

theorem Keeps.serve {expression : String} {s : Session} (h : Keeps expression s)
    (request : Request) : Keeps expression (s.serve request) := by
  -- of the settings only one touches what is said of tables
  cases request with
  | setIdFields table fields => exact ⟨h.expression, h.distinct.setIdFields table fields⟩
  | run clock =>
    obtain ⟨tracked, trees, hsession⟩ := s.run_session clock
    show Keeps expression (s.run clock).session
    rw [hsession]
    exact ⟨h.expression, h.distinct⟩
  | _ => exact ⟨h.expression, h.distinct⟩

theorem Keeps.serveAll {expression : String} {s : Session} (h : Keeps expression s)
    (requests : List Request) : Keeps expression (s.serveAll requests) := by
  induction requests generalizing s with
  | nil => exact h
  | cons request requests ih => exact ih (h.serve request)

/-! ## Runs after any history -/

/-- A session that was created just now. -/
def fresh (expression : String) (o : Options) (d : DataSet) : Session :=
  (create expression o).setDataSet d

/-- How a run ends that may begin: as the run of another session ends, with nothing left of what
came before, and with the subscriber told of an error but not of success. -/
inductive EndsLike (s : Session) (r r' : Run) : Prop where
  | ok (hok : r.outcome = .ok ()) (hok' : r'.outcome = .ok ())
      (htracked : r.session.tracked = r'.session.tracked)
      (htrees : r.session.trees = r'.session.trees) (hnotices : r.notices = [])
  | error (e : Error) (he : r.outcome = .error e) (he' : r'.outcome = .error e)
      (hreported : e.IsReported) (htracked : r.session.tracked = .empty)
      (htrees : r.session.trees = [])
      (hnotices : r.notices =
        s.subscriber.toList.map fun who => ⟨who, s.expression, e.message⟩)

/-- What is tracked of matches does not depend on the order of what is said of tables. -/
theorem tracked_run_congr {o o' : Options} (hrows : o.trackRows = o'.trackRows)
    (hids : o.trackSignalIds = o'.trackSignalIds) (ms : List Match) :
    Tracking.run o ms = Tracking.run o' ms := by
  have hnext : Tracking.next o = Tracking.next o' := by
    funext s m
    simp only [Tracking.next, Tracked.add, hrows, hids]
  rw [Tracking.run, Tracking.run, hnext]

theorem run_endsLike_fresh {s : Session} {d : DataSet} {o : Options} (clock : Clock)
    (hd : s.options.Distinct) (hdata : s.dataSet = some d)
    (hon : s.options.tracksNothing = false) (ho : s.options.Reordered o) :
    EndsLike s (s.run clock) ((fresh s.expression o d).run clock) := by
  have hlike := ho.bindsLike hd
  have hon' : (fresh s.expression o d).options.tracksNothing = false := hlike.tracksNothing ▸ hon
  have hprepare := hlike.prepare d s.expression
  cases hb : prepare d s.options s.expression with
  | error e =>
    obtain ⟨log, hrun⟩ := run_of_prepare_error clock hdata hon hb
    obtain ⟨log', hrun'⟩ :=
      run_of_prepare_error (s := fresh s.expression o d) clock rfl hon' (hprepare ▸ hb)
    -- the logs may differ, the error is the same
    rw [hrun, hrun']
    exact .error e rfl rfl (fails_prepare d s.options s.expression e hb) rfl rfl rfl
  | ok b =>
    obtain ⟨log, -, hrun⟩ := run_of_prepare_ok clock hdata hon hb
    obtain ⟨log', -, hrun'⟩ :=
      run_of_prepare_ok (s := fresh s.expression o d) clock rfl hon' (hprepare ▸ hb)
    have htracking : Tracking.run s.options (b.matchesIn clock d s.options) =
        Tracking.run o (b.matchesIn clock d o) := by
      rw [hlike.matchesIn d b clock]
      exact tracked_run_congr ho.trackRows ho.trackSignalIds _
    rw [hrun, hrun']
    exact .ok rfl rfl (congrArg Tracking.tracked htracking) rfl rfl

/-- After any requests a run is refused for want of a data set or of anything to track, and then the
session is as it was; or else it ends as in a session created just now with the current options,
whatever the order of what they say of tables, and the current data set. -/
theorem run_serveAll (expression : String) (options : Options) (requests : List Request)
    (clock : Clock) (h : options.Distinct) :
    let s := (create expression options).serveAll requests
    (s.dataSet = none → s.run clock = ⟨s, .error (.use .noDataSet), [], []⟩) ∧
      ∀ d, s.dataSet = some d →
        (s.options.trackRows = false ∧ s.options.trackSignalIds = false →
          s.run clock = ⟨s, .error (.use .nothingTracked), [], []⟩) ∧
        (s.options.trackRows = true ∨ s.options.trackSignalIds = true →
          ∀ o, s.options.Reordered o →
            EndsLike s (s.run clock) ((fresh expression o d).run clock)) := by
  intro s
  have hcreated : Keeps expression (create expression options) := ⟨rfl, h⟩
  have hkeeps : Keeps expression s := hcreated.serveAll requests
  refine ⟨fun hdata => run_of_noDataSet clock hdata, fun d hdata => ⟨?_, ?_⟩⟩
  · rintro ⟨hrows, hids⟩
    exact run_of_nothingTracked clock hdata (by simp [Options.tracksNothing, hrows, hids])
  · intro htracks o ho
    have hon : s.options.tracksNothing = false := by
      rcases htracks with hrows | hids
      · simp [Options.tracksNothing, hrows]
      · simp [Options.tracksNothing, hids]
    have hends := run_endsLike_fresh clock hkeeps.distinct hdata hon ho
    rw [hkeeps.expression] at hends
    exact hends

/-- The sensors are asked for twice, and between the runs the settings change. -/
def changes : List Request :=
  [.setDataSet ⟨[sensors]⟩, .run .millennium, .setTrackRows false, .run .millennium,
    .setIdFields "SENSORS" ⟨"SignalID", "PointTag", "ID"⟩, .setTrackSignalIds true,
    .subscribe "operator"]

/-- No sensor has the key `A:1` once keys are looked up among the point tags. -/
theorem run_serveAll_changes :
    Options.standard.Distinct ∧
      ((create "A:1" .standard).serveAll changes).dataSet = some ⟨[sensors]⟩ ∧
      (((create "A:1" .standard).serveAll changes).run .millennium).session.tracked = .empty ∧
      EndsLike ((create "A:1" .standard).serveAll changes)
        (((create "A:1" .standard).serveAll changes).run .millennium)
        ((fresh "A:1" ((create "A:1" .standard).serveAll changes).options ⟨[sensors]⟩).run
          .millennium) := by
  have hdistinct : Options.standard.Distinct := List.Pairwise.nil
  have hdata : ((create "A:1" .standard).serveAll changes).dataSet = some ⟨[sensors]⟩ := by
    decide +kernel
  have hids : ((create "A:1" .standard).serveAll changes).options.trackSignalIds = true := by
    decide +kernel
  have htracked :
      (((create "A:1" .standard).serveAll changes).run .millennium).session.tracked = .empty := by
    decide +kernel
  obtain ⟨-, hruns⟩ := run_serveAll "A:1" .standard changes .millennium hdistinct
  exact ⟨hdistinct, hdata, htracked, (hruns _ hdata).2 (.inr hids) _ (.refl _)⟩

end RowFilter.Session
