import RowFilter.Proofs.Binding.Unplaced
import RowFilter.Proofs.Session.History
import RowFilter.Proofs.Syntax.Reading
import RowFilter.Proofs.Token.Append

/-!
Texts put together to one, with a semicolon on a line of its own between every two of them. Each of
them is read in the whole as it is on its own, so the whole can be prepared exactly if all of them
can, and what it finds is what they find. In which order they stand makes no difference to the
tracked signal IDs.
-/

namespace RowFilter

open Syntax

/-- Texts with a semicolon on a line of its own between every two of them. -/
def joinedText (texts : List String) : String := "\n;\n".intercalate texts

theorem joinedText_cons_cons (text more : String) (rest : List String) :
    joinedText (text :: more :: rest) = text ++ "\n;\n" ++ joinedText (more :: rest) := by
  rw [joinedText, String.intercalate_cons_cons, joinedText]

/-! ## Reading -/

/-- The text can be read. -/
def IsRead (text : String) : Prop := ∃ document, Document.parse text = .ok document

theorem parse_empty : Document.parse "" = .ok ⟨.start, []⟩ := by
  have htokens : Token.tokenize "" = .ok ([], .start) := by
    have hstream : Token.stream "" = ⟨[], .ok .start⟩ :=
      Token.streamFrom_of_end .start Token.gapLength_nil rfl
    rw [Token.tokenize_eq_ok_iff, hstream]
    exact ⟨rfl, rfl⟩
  exact parse_of_derives htokens .nil

/-- Two texts are read as the statements of the first and those of the second. -/
theorem parse_join {text more : String} {d d' : Document} (h : Document.parse text = .ok d)
    (h' : Document.parse more = .ok d') :
    ∃ joined, Document.parse (text ++ "\n;\n" ++ more) = .ok joined ∧
      List.Forall₂ Statement.Same joined.statements (d.statements ++ d'.statements) := by
  obtain ⟨⟨ts, p⟩, htokens, hdocument⟩ := bind_eq_ok_iff.mp h
  obtain ⟨⟨us, q⟩, htokens', hdocument'⟩ := bind_eq_ok_iff.mp h'
  obtain ⟨tokens, finish, hjoined, hmatches⟩ := Token.tokenize_join htokens htokens'
  have hderives := (ofTokens_eq_ok_iff.mp hdocument).2.append
    (o := ⟨.symbol .semicolon, ";", .start⟩) rfl (ofTokens_eq_ok_iff.mp hdocument').2
  -- the tokens of the whole stand elsewhere, which is all that sets them apart from these
  obtain ⟨list, hlist, hsame⟩ := hderives.of_matches hmatches
  exact ⟨_, parse_of_derives hjoined hlist, hsame⟩

theorem isRead_joined {texts : List String} (h : ∀ text ∈ texts, IsRead text) :
    IsRead (joinedText texts) := by
  match texts with
  | [] => exact ⟨_, parse_empty⟩
  | [text] => exact h text List.mem_cons_self
  | text :: more :: rest =>
    obtain ⟨hfirst, hothers⟩ := List.forall_mem_cons.mp h
    obtain ⟨d, hd⟩ := hfirst
    obtain ⟨d', hd'⟩ := isRead_joined hothers
    obtain ⟨joined, hjoined, -⟩ := parse_join hd hd'
    rw [joinedText_cons_cons]
    exact ⟨joined, hjoined⟩

/-! ## Preparing -/

namespace Session

variable {d : DataSet} {o : Options}

/-- All trees have a source if each of them has one. -/
theorem sources_eq_ok_iff {trees : List ExpressionTree} :
    (∃ list, sources o d trees = .ok list) ↔ ∀ tree ∈ trees, ∃ s, source o d tree = .ok s := by
  induction trees with
  | nil => simp [sources]
  | cons tree rest ih =>
    rw [List.forall_mem_cons, ← ih]
    constructor
    · rintro ⟨list, h⟩
      obtain ⟨first, hfirst, h⟩ := bind_eq_ok_iff.mp h
      obtain ⟨others, hothers, -⟩ := bind_eq_ok_iff.mp h
      exact ⟨⟨first, hfirst⟩, others, hothers⟩
    · rintro ⟨⟨first, hfirst⟩, others, hothers⟩
      exact ⟨first :: others, by rw [sources, hfirst, ok_bind, hothers, ok_bind]; rfl⟩

end Session

section

variable {d : DataSet} {o : Options}

/-- A text that is read is prepared to what its statements contribute. -/
theorem prepare_eq_ok_iff {text : String} {document : Document}
    (hread : Document.parse text = .ok document) {b : Bound} :
    prepare d o text = .ok b ↔
      (Statement.compileAll (.dataSet d) o document.statements).1 = .ok b ∧
        ∀ tree ∈ b.trees, ∃ s, Session.source o d tree = .ok s := by
  rw [prepare, bindText_fst, hread, ok_bind, ← Session.sources_eq_ok_iff]
  constructor
  · intro h
    obtain ⟨c, hc, h⟩ := bind_eq_ok_iff.mp h
    obtain ⟨list, hlist, h⟩ := bind_eq_ok_iff.mp h
    cases h
    exact ⟨hc, list, hlist⟩
  · rintro ⟨hb, list, hlist⟩
    rw [hb, ok_bind, hlist, ok_bind]
    rfl

/-- Two texts are prepared together exactly if each of them is prepared. -/
theorem prepare_join {text more : String} (h : IsRead text) (h' : IsRead more) {b : Bound} :
    prepare d o (text ++ "\n;\n" ++ more) = .ok b ↔
      ∃ own others, prepare d o text = .ok own ∧ prepare d o more = .ok others ∧
        own.append others = b := by
  obtain ⟨document, hread⟩ := h
  obtain ⟨document', hread'⟩ := h'
  obtain ⟨joined, hjoined, hsame⟩ := parse_join hread hread'
  simp only [prepare_eq_ok_iff hread, prepare_eq_ok_iff hread', prepare_eq_ok_iff hjoined]
  rw [Statement.compileAll_of_same hsame, compileAll_append_fst]
  -- the trees of both have sources exactly if those of the one and those of the other have
  constructor
  · rintro ⟨hb, htrees⟩
    obtain ⟨own, hown, hb⟩ := bind_eq_ok_iff.mp hb
    obtain ⟨others, hothers, hb⟩ := bind_eq_ok_iff.mp hb
    cases hb
    obtain ⟨htree, htree'⟩ := List.forall_mem_append.mp htrees
    exact ⟨own, others, ⟨hown, htree⟩, ⟨hothers, htree'⟩, rfl⟩
  · rintro ⟨own, others, ⟨hown, htree⟩, ⟨hothers, htree'⟩, rfl⟩
    exact ⟨by rw [hown, ok_bind, hothers, ok_bind], List.forall_mem_append.mpr ⟨htree, htree'⟩⟩

theorem prepare_empty : prepare d o "" = .ok ⟨[], []⟩ :=
  (prepare_eq_ok_iff parse_empty).mpr ⟨rfl, List.forall_mem_nil _⟩

/-- The whole can be prepared exactly if every text can. -/
theorem prepare_joined {texts : List String} (h : ∀ text ∈ texts, IsRead text) :
    (∃ b, prepare d o (joinedText texts) = .ok b) ↔
      ∀ text ∈ texts, ∃ b, prepare d o text = .ok b := by
  match texts with
  | [] => exact ⟨fun _ => List.forall_mem_nil _, fun _ => ⟨_, prepare_empty⟩⟩
  | [text] =>
    rw [List.forall_mem_singleton]
    rfl
  | text :: more :: rest =>
    obtain ⟨hfirst, hothers⟩ := List.forall_mem_cons.mp h
    rw [List.forall_mem_cons, ← prepare_joined hothers, joinedText_cons_cons]
    simp only [prepare_join hfirst (isRead_joined hothers)]
    constructor
    · rintro ⟨b, own, others, hown, hmore, -⟩
      exact ⟨⟨own, hown⟩, others, hmore⟩
    · rintro ⟨⟨own, hown⟩, others, hmore⟩
      exact ⟨_, own, others, hown, hmore, rfl⟩

theorem Bound.mem_matchesIn_append {b c : Bound} {clock : Clock} {m : Match} :
    m ∈ (b.append c).matchesIn clock d o ↔
      m ∈ b.matchesIn clock d o ∨ m ∈ c.matchesIn clock d o := by
  simp only [matchesIn, append, List.flatMap_append, List.mem_append]
  exact or_or_or_comm

/-- What the whole finds is what some text finds. -/
theorem mem_matchesIn_joined {texts : List String} (h : ∀ text ∈ texts, IsRead text) {b : Bound}
    (hb : prepare d o (joinedText texts) = .ok b) {clock : Clock} {m : Match} :
    m ∈ b.matchesIn clock d o ↔
      ∃ text ∈ texts, ∃ own, prepare d o text = .ok own ∧ m ∈ own.matchesIn clock d o := by
  match texts with
  | [] =>
    cases prepare_empty.symm.trans hb
    simp [Bound.matchesIn]
  | [text] =>
    have hown : prepare d o text = .ok b := hb
    simp [hown]
  | text :: more :: rest =>
    -- the matches of the first text and those of the others stand between each other, named ones
    -- before those of trees, but they are the same ones
    obtain ⟨hfirst, hothers⟩ := List.forall_mem_cons.mp h
    rw [joinedText_cons_cons, prepare_join hfirst (isRead_joined hothers)] at hb
    obtain ⟨own, others, hown, hmore, rfl⟩ := hb
    rw [Bound.mem_matchesIn_append, mem_matchesIn_joined hothers hmore]
    simp [hown]

end

/-! ## Running -/

namespace Session

variable {d : DataSet} {o o' : Options} {text : String}

/-- A session that tracks signal IDs runs exactly what can be prepared. -/
theorem run_fresh_eq_ok_iff (clock : Clock) (hids : o.trackSignalIds = true) :
    ((fresh text o d).run clock).outcome = .ok () ↔ ∃ b, prepare d o text = .ok b := by
  rw [run_eq_ok_iff]
  constructor
  · rintro ⟨_, b, hd, -, hb⟩
    cases hd
    exact ⟨b, hb⟩
  · rintro ⟨b, hb⟩
    exact ⟨d, b, rfl, by simp [fresh, create, setDataSet, Options.tracksNothing, hids], hb⟩

/-- The set of signal IDs holds those of all matches. -/
theorem mem_signalIdSet_fresh (clock : Clock) (hids : o.trackSignalIds = true) {b : Bound}
    (hb : prepare d o text = .ok b) {id : Guid} :
    id ∈ ((fresh text o d).run clock).session.tracked.signalIdSet ↔
      ∃ m ∈ b.matchesIn clock d o, m.signalId = some id := by
  obtain ⟨_, c, hd, -, hc, -, htracks⟩ :=
    tracks_of_run_ok ((run_fresh_eq_ok_iff clock hids).mpr ⟨b, hb⟩)
  cases hd
  cases hb.symm.trans hc
  have hids' : (fresh text o d).options.trackSignalIds = true := hids
  rw [htracks.signalIdSet, htracks.signalIds, if_pos hids']
  exact mem_signalIds_firstMatches

/-- Texts that can be read can be run together, in any order, exactly if each of them can be run,
and the signal IDs that are then tracked are those that are tracked for one of them. -/
theorem run_joined {texts permuted : List String} (d : DataSet) (clock : Clock)
    (hread : ∀ text ∈ texts, ∃ document, Document.parse text = .ok document)
    (hpermuted : permuted.Perm texts) (hids : o.trackSignalIds = true) (hdistinct : o.Distinct)
    (ho : o.Reordered o') :
    (((fresh (joinedText permuted) o' d).run clock).outcome = .ok () ↔
      ∀ text ∈ texts, ((fresh text o d).run clock).outcome = .ok ()) ∧
    (((fresh (joinedText permuted) o' d).run clock).outcome = .ok () → ∀ id,
      id ∈ ((fresh (joinedText permuted) o' d).run clock).session.tracked.signalIdSet ↔
        ∃ text ∈ texts, id ∈ ((fresh text o d).run clock).session.tracked.signalIdSet) := by
  have hread' : ∀ text ∈ permuted, IsRead text :=
    fun text htext => hread text (hpermuted.mem_iff.mp htext)
  have hids' : o'.trackSignalIds = true := ho.trackSignalIds ▸ hids
  -- the options may list the tables in another order, and prepare and find the same
  have hlike := ho.bindsLike hdistinct
  refine ⟨?_, fun hok id => ?_⟩
  · rw [run_fresh_eq_ok_iff clock hids', ← hlike.prepare d, prepare_joined hread']
    simp only [run_fresh_eq_ok_iff clock hids, hpermuted.mem_iff]
  · obtain ⟨b, hb⟩ := (run_fresh_eq_ok_iff clock hids').mp hok
    rw [mem_signalIdSet_fresh clock hids' hb, ← hlike.matchesIn d b clock]
    rw [← hlike.prepare d] at hb
    have hall := (prepare_joined hread').mp ⟨b, hb⟩
    constructor
    · rintro ⟨m, hm, hid⟩
      obtain ⟨text, htext, own, hown, hmem⟩ := (mem_matchesIn_joined hread' hb).mp hm
      exact ⟨text, hpermuted.mem_iff.mp htext,
        (mem_signalIdSet_fresh clock hids hown).mpr ⟨m, hmem, hid⟩⟩
    · rintro ⟨text, htext, hid⟩
      have htext' : text ∈ permuted := hpermuted.mem_iff.mpr htext
      obtain ⟨own, hown⟩ := hall text htext'
      obtain ⟨m, hm, hid⟩ := (mem_signalIdSet_fresh clock hids hown).mp hid
      exact ⟨m, (mem_matchesIn_joined hread' hb).mpr ⟨text, htext', own, hown, hm⟩, hid⟩

/-- Ask for a sensor by its key, with a remark, and for a signal that no sensor reports. -/
def sensorTexts : List String :=
  ["A:1 -- north of the river", "0a1b2c3d-4e5f-4a1b-8c2d-3e4f5a6b7c8d"]

/-- In reverse order the texts track both signals, each of which one of them tracks alone. -/
theorem run_joined_sensors :
    (∀ text ∈ sensorTexts, ∃ document, Document.parse text = .ok document) ∧
      ((fresh (joinedText sensorTexts.reverse) bothSensors.options ⟨[sensors]⟩).run
        .millennium).outcome = .ok () ∧
      ((fresh (joinedText sensorTexts.reverse) bothSensors.options ⟨[sensors]⟩).run
        .millennium).session.tracked.signalIdSet.length = 2 ∧
      ∀ id, id ∈ ((fresh (joinedText sensorTexts.reverse) bothSensors.options ⟨[sensors]⟩).run
          .millennium).session.tracked.signalIdSet ↔
        ∃ text ∈ sensorTexts, id ∈ ((fresh text bothSensors.options ⟨[sensors]⟩).run
          .millennium).session.tracked.signalIdSet := by
  have hread : ∀ text ∈ sensorTexts, ∃ document, Document.parse text = .ok document := by
    have hok : ∀ text ∈ sensorTexts, (Document.parse text).isOk = true := by decide +kernel
    intro text htext
    cases hparse : Document.parse text with
    | ok document => exact ⟨document, rfl⟩
    | error e =>
      have hnone := hok text htext
      rw [hparse] at hnone
      cases hnone
  have hruns : ∀ text ∈ sensorTexts,
      ((fresh text bothSensors.options ⟨[sensors]⟩).run .millennium).outcome = .ok () := by
    decide +kernel
  have hdistinct : bothSensors.options.Distinct := List.Pairwise.nil
  obtain ⟨hok, hids⟩ := run_joined ⟨[sensors]⟩ .millennium hread (List.reverse_perm sensorTexts)
    rfl hdistinct (.refl bothSensors.options)
  have htogether := hok.mpr hruns
  exact ⟨hread, htogether, by decide +kernel, hids htogether⟩

end Session

end RowFilter
