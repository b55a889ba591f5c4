import RowFilter.Proofs.Syntax.PostOrder
import RowFilter.Proofs.Syntax.Pushing

/-!
Walks over the nodes of a document. Nodes are completed in the order of their numbers, each of them
once, and a statement is entered before anything below it. A listener that fails is told nothing
more.
-/

namespace RowFilter.Syntax

open Text (Position)

/-- The event says that a node is complete. The others announce a statement or its clause, or name
an identifier statement, which is complete with its exit. -/
def EventKind.isCompletion : EventKind → Bool
  | .enterStatement | .enterFilter | .exitIdentifier => false
  | _ => true

theorem Node.isCompletion_of_completion {node : Node} {kind : EventKind}
    (h : node.completion? = some kind) : kind.isCompletion = true := by
  cases node <;> cases h <;> rfl

/-! ## Listeners -/

namespace Listener

variable {σ ε : Type}

/-- The listener, taking down what it is told. -/
def recording (l : Listener σ ε) : Listener (σ × List Event) ε := fun s e =>
  (((l s.1 e).1, s.2 ++ [e]), (l s.1 e).2)

/-- The state of a listener that has been told some events. -/
def stateAfter (l : Listener σ ε) (s : σ) (events : List Event) : σ :=
  events.foldl (fun s e => (l s e).1) s

/-- The error that a listener returns from an event, given by its position, after all before it. -/
def answer? (l : Listener σ ε) (s : σ) (events : List Event) (n : Nat) : Option ε :=
  events[n]?.bind fun e => (l (l.stateAfter s (events.take n)) e).2

variable (l : Listener σ ε) (s : σ) (e : Event) (events seen : List Event)

theorem answer?_zero : l.answer? s (e :: events) 0 = (l s e).2 := rfl

theorem answer?_succ (n : Nat) :
    l.answer? s (e :: events) (n + 1) = l.answer? (l s e).1 events n := rfl

/-- Taking down the events changes neither what the listener makes of them nor its error. -/
theorem run_recording : l.recording.run (s, seen) events =
    (((l.run s events).1, (l.recording.run (s, seen) events).1.2), (l.run s events).2) := by
  induction events generalizing s seen with
  | nil => rfl
  | cons e events ih =>
    have hstep : l.recording (s, seen) e = (((l s e).1, seen ++ [e]), (l s e).2) := rfl
    rw [run, run, hstep]
    obtain ⟨s', _ | error⟩ := l s e
    · exact ih s' (seen ++ [e])
    · rfl

variable {l s events}

/-- The first error ends the run, and what comes after the event it is returned from is not told. -/
theorem run_of_answer {n : Nat} {error : ε} (h : l.answer? s events n = some error)
    (hfirst : ∀ k < n, l.answer? s events k = none) :
    l.recording.run (s, seen) events =
      ((l.stateAfter s (events.take (n + 1)), seen ++ events.take (n + 1)), some error) := by
  induction events generalizing s seen n with
  | nil => cases h
  | cons e events ih =>
    have hstep : l.recording (s, seen) e = (((l s e).1, seen ++ [e]), (l s e).2) := rfl
    rw [run, hstep]
    cases n with
    | zero =>
      rw [answer?_zero] at h
      rw [h]
      rfl
    | succ n =>
      rw [answer?_succ] at h
      have hnone : (l s e).2 = none := hfirst 0 (Nat.succ_pos n)
      have hrest := ih (seen ++ [e]) h fun k hk => hfirst (k + 1) (Nat.succ_lt_succ hk)
      rw [hnone]
      dsimp only
      rw [hrest, List.append_assoc]
      rfl

/-- A listener that never fails is told everything. -/
theorem run_of_forall_answer (h : ∀ n, l.answer? s events n = none) :
    l.recording.run (s, seen) events = ((l.stateAfter s events, seen ++ events), none) := by
  induction events generalizing s seen with
  | nil => rw [List.append_nil]; rfl
  | cons e events ih =>
    have hstep : l.recording (s, seen) e = (((l s e).1, seen ++ [e]), (l s e).2) := rfl
    have hnone : (l s e).2 = none := h 0
    have hrest := ih (seen ++ [e]) fun n => h (n + 1)
    rw [run, hstep, hnone]
    dsimp only
    rw [hrest, List.append_assoc]
    rfl

end Listener

namespace Arena

/-- The walk over an arena completes every node once. -/
structure IsWalkedOnce (a : Arena) : Prop where
  /-- Nodes are completed in the order of their numbers, all but the root. -/
  completed : (a.events.filter (·.kind.isCompletion)).map Event.id = List.range a.root
  /-- A statement is completed by its exit and a term by the exit of its kind. -/
  kinds : ∀ e ∈ a.events, e.kind.isCompletion = true →
    ∃ node, a.node? e.id = some node ∧ node.completion? = some e.kind
  /-- Every statement is entered, once. -/
  entered : a.events.filter (·.kind = .enterStatement) = a.statements.map (⟨.enterStatement, ·⟩)
  /-- Before a statement is entered there is no event of a node below it. -/
  entered_first : ∀ s ∈ a.statements, ∃ before behind,
    a.events = before ++ ⟨.enterStatement, s⟩ :: behind ∧
      ∀ id, a.IsBelow id s → ∀ e ∈ before, e.id ≠ id

variable {a : Arena}

/-! ## Events of terms -/

/-- The events say that the nodes from `lo` up to `next` are complete, one after the other. -/
inductive Completes (a : Arena) : Nat → List Event → Nat → Prop where
  | nil (lo : Nat) : Completes a lo [] lo
  | cons {lo next : Nat} {node : Node} {kind : EventKind} {events : List Event}
      (hnode : a.node? lo = some node) (hkind : node.completion? = some kind)
      (h : Completes a (lo + 1) events next) : Completes a lo (⟨kind, lo⟩ :: events) next

namespace Completes

variable {lo mid next : Nat} {events events' : List Event}

theorem le (h : a.Completes lo events next) : lo ≤ next := by
  induction h with
  | nil => exact Nat.le_refl _
  | cons _ _ _ ih => exact Nat.le_of_succ_le ih

theorem append (h : a.Completes lo events mid) (h' : a.Completes mid events' next) :
    a.Completes lo (events ++ events') next := by
  induction h with
  | nil => exact h'
  | cons hnode hkind _ ih => exact .cons hnode hkind (ih h')

theorem map_id (h : a.Completes lo events next) :
    events.map Event.id = List.range' lo (next - lo) := by
  induction h with
  | nil lo => rw [Nat.sub_self]; rfl
  | @cons lo next node kind events _ _ h ih =>
    have hlength : next - lo = next - (lo + 1) + 1 := by have := h.le; omega
    rw [List.map_cons, ih, hlength, List.range'_succ]

theorem exists_node (h : a.Completes lo events next) :
    ∀ e ∈ events, ∃ node, a.node? e.id = some node ∧ node.completion? = some e.kind := by
  induction h with
  | nil => exact nofun
  | cons hnode hkind _ ih => exact List.forall_mem_cons.mpr ⟨⟨_, hnode, hkind⟩, ih⟩

theorem isCompletion (h : a.Completes lo events next) :
    ∀ e ∈ events, e.kind.isCompletion = true := by
  intro e he
  obtain ⟨node, -, hkind⟩ := h.exists_node e he
  exact Node.isCompletion_of_completion hkind

theorem bounds (h : a.Completes lo events next) : ∀ e ∈ events, lo ≤ e.id ∧ e.id < next := by
  intro e he
  have hmem : e.id ∈ List.range' lo (next - lo) := h.map_id ▸ List.mem_map_of_mem he
  have hle := h.le
  rw [List.mem_range'_1] at hmem
  omega

/-- The events of terms complete their nodes, if the walk does not run out of depth. -/
theorem isBuiltUp (a : Arena) : a.IsBuiltUp fun lo tops next => lo ≤ next ∧
    ∀ depth, next ≤ lo + depth → a.Completes lo (tops.flatMap (a.nodeEvents depth)) next where
  nil lo := ⟨Nat.le_refl lo, fun _ _ => .nil lo⟩
  append := by
    rintro lo mid next tops tops' ⟨hle, h⟩ ⟨hle', h'⟩
    refine ⟨Nat.le_trans hle hle', fun depth hdepth => ?_⟩
    rw [List.flatMap_append]
    exact (h depth (by omega)).append (h' depth (by omega))
  term := by
    rintro lo id tops node p kind ⟨hle, h⟩ hnode rfl hkind
    refine ⟨Nat.le_succ_of_le hle, fun depth hdepth => ?_⟩
    obtain ⟨depth, rfl⟩ : ∃ d, depth = d + 1 := ⟨depth - 1, by omega⟩
    have hlast : a.Completes id [⟨kind, id⟩] (id + 1) :=
      .cons (node?_eq hnode) (Node.children_of_completion hkind).2 (.nil _)
    rw [List.flatMap_singleton, Binding.nodeEvents_of_completion hnode hkind]
    exact (h depth (by omega)).append hlast

theorem of_spans {t : Term} {id depth : Nat} (h : a.Spans lo id t) (hdepth : id < lo + depth) :
    a.Completes lo (a.nodeEvents depth id) (id + 1) := by
  have hevents := ((isBuiltUp a).of_spans t h).2 depth hdepth
  rwa [List.flatMap_singleton] at hevents

end Completes

/-! ## Events of statements -/

/-- A statement is entered, announced by what is neither an entry nor a completion, completed from
its first node to the one before its own, and left. -/
theorem exists_statementEvents {s : Statement} {lo id : Nat} (h : a.SpansStatement lo id s)
    (hsize : id < a.nodes.size) :
    ∃ head inner, a.statementEvents id =
        ⟨.enterStatement, id⟩ :: (head ++ (inner ++ [⟨.exitStatement, id⟩])) ∧
      (∀ e ∈ head, e.id = id ∧ e.kind.isCompletion = false ∧ e.kind ≠ .enterStatement) ∧
      a.Completes lo (inner ++ [⟨.exitStatement, id⟩]) (id + 1) := by
  obtain ⟨depth, hdepth⟩ : ∃ d, a.nodes.size = d + 1 := ⟨a.nodes.size - 1, by omega⟩
  rw [statementEvents, hdepth]
  cases h with
  | @identifier p i hnode =>
    have hid := node?_eq hnode
    have hevents : a.nodeEvents (depth + 1) lo = [⟨.exitIdentifier, lo⟩] := by
      rw [nodeEvents, hid]
    refine ⟨[⟨.exitIdentifier, lo⟩], [], by rw [hevents]; rfl, ?_, .cons hid rfl (.nil _)⟩
    intro e he
    obtain rfl := List.mem_singleton.mp he
    exact ⟨rfl, rfl, fun h => by cases h⟩
  | @filter i p clause condition hc hnode =>
    have hid := node?_eq hnode
    have hevents : a.nodeEvents (depth + 1) (i + 1) =
        ⟨.enterFilter, i + 1⟩ :: a.nodeEvents depth i := by
      rw [nodeEvents, hid]
    refine ⟨[⟨.enterFilter, i + 1⟩], a.nodeEvents depth i, by rw [hevents]; rfl, ?_,
      (Completes.of_spans hc (by omega)).append (.cons hid rfl (.nil _))⟩
    intro e he
    obtain rfl := List.mem_singleton.mp he
    exact ⟨rfl, rfl, fun h => by cases h⟩
  | @expression i p e he hnode =>
    have hid := node?_eq hnode
    have hevents : a.nodeEvents (depth + 1) (i + 1) = a.nodeEvents depth i := by
      rw [nodeEvents, hid]
    exact ⟨[], a.nodeEvents depth i, by rw [hevents]; rfl, List.forall_mem_nil _,
      (Completes.of_spans he (by omega)).append (.cons hid rfl (.nil _))⟩

variable {lo id next : Nat} {s : Statement} {ids : List Nat} {list : List Statement}

theorem completes_statementEvents (h : a.SpansStatement lo id s) (hsize : id < a.nodes.size) :
    a.Completes lo ((a.statementEvents id).filter (·.kind.isCompletion)) (id + 1) := by
  obtain ⟨head, inner, hevents, hhead, hcomplete⟩ := exists_statementEvents h hsize
  have hnone : head.filter (·.kind.isCompletion) = [] :=
    List.filter_eq_nil_iff.mpr fun e he => Bool.eq_false_iff.mp (hhead e he).2.1
  have hall := List.filter_eq_self.mpr hcomplete.isCompletion
  rw [hevents, List.filter_cons_of_neg (by exact Bool.false_ne_true), List.filter_append, hnone,
    hall]
  exact hcomplete

theorem entries_statementEvents (h : a.SpansStatement lo id s) (hsize : id < a.nodes.size) :
    (a.statementEvents id).filter (·.kind = .enterStatement) = [⟨.enterStatement, id⟩] := by
  obtain ⟨head, inner, hevents, hhead, hcomplete⟩ := exists_statementEvents h hsize
  have hnone : (head ++ (inner ++ [(⟨.exitStatement, id⟩ : Event)])).filter
      (·.kind = .enterStatement) = [] := by
    refine List.filter_eq_nil_iff.mpr fun e he henter => ?_
    have hkind : e.kind = .enterStatement := of_decide_eq_true henter
    rcases List.mem_append.mp he with he | he
    · exact (hhead e he).2.2 hkind
    · have hcompletion := hcomplete.isCompletion e he
      rw [hkind] at hcompletion
      cases hcompletion
  rw [hevents, List.filter_cons_of_pos (by exact decide_eq_true rfl), hnone]

theorem bounds_statementEvents (h : a.SpansStatement lo id s) (hsize : id < a.nodes.size) :
    ∀ e ∈ a.statementEvents id, e.id ≤ id := by
  obtain ⟨head, inner, hevents, hhead, hcomplete⟩ := exists_statementEvents h hsize
  rw [hevents]
  refine List.forall_mem_cons.mpr ⟨Nat.le_refl id, fun e he => ?_⟩
  rcases List.mem_append.mp he with he | he
  · exact Nat.le_of_eq (hhead e he).1
  · exact Nat.le_of_lt_succ (hcomplete.bounds e he).2

/-! ## Events of documents -/

theorem completes_statements (h : Consecutive a.SpansStatement lo ids next list)
    (hsize : next ≤ a.nodes.size) :
    a.Completes lo ((ids.flatMap a.statementEvents).filter (·.kind.isCompletion)) next := by
  induction h with
  | nil lo => exact .nil lo
  | cons hs hall ih =>
    have hid := Nat.lt_of_lt_of_le (le_of_statements hall) hsize
    rw [List.flatMap_cons, List.filter_append]
    exact (completes_statementEvents hs hid).append (ih hsize)

theorem entries_statements (h : Consecutive a.SpansStatement lo ids next list)
    (hsize : next ≤ a.nodes.size) :
    (ids.flatMap a.statementEvents).filter (·.kind = .enterStatement) =
      ids.map (⟨.enterStatement, ·⟩) := by
  induction h with
  | nil lo => rfl
  | cons hs hall ih =>
    have hid := Nat.lt_of_lt_of_le (le_of_statements hall) hsize
    rw [List.flatMap_cons, List.filter_append, entries_statementEvents hs hid, ih hsize]
    rfl

theorem entered_first_statements (h : Consecutive a.SpansStatement lo ids next list)
    (hsize : next ≤ a.nodes.size) :
    ∀ s ∈ ids, ∃ before behind,
      ids.flatMap a.statementEvents = before ++ ⟨.enterStatement, s⟩ :: behind ∧
        ∀ i, a.IsBelow i s → ∀ e ∈ before, e.id ≠ i := by
  induction h with
  | nil => exact nofun
  | @cons lo id next ids st list hs hall ih =>
    have hid := Nat.lt_of_lt_of_le (le_of_statements hall) hsize
    refine List.forall_mem_cons.mpr ⟨⟨[], _, rfl, fun _ _ => nofun⟩, fun s hmem => ?_⟩
    obtain ⟨before, behind, hevents, hbefore⟩ := ih hsize s hmem
    refine ⟨a.statementEvents id ++ before, behind, ?_, fun i hbelow e he => ?_⟩
    · rw [List.flatMap_cons, hevents, List.append_assoc]
    rcases List.mem_append.mp he with he | he
    · -- the events of the statement before are about nodes before those of this one
      have hforest := IsForest.of_statements hall
      have hrange := hforest.perm.mem_iff.mp (List.mem_append_left _ hmem)
      rw [List.mem_range'_1] at hrange
      have hle := hforest.le_of_isBelow hbelow hrange.1 (by have := hforest.le; omega)
      have hearly := bounds_statementEvents hs hid e he
      omega
    · exact hbefore i hbelow e he

theorem Holds.isWalkedOnce {d : Document} (h : a.Holds d) : a.IsWalkedOnce := by
  obtain ⟨ids, hids, hroot, hsize⟩ := h
  have hstatements : a.statements = ids := Holds.statements hroot
  have hnext : a.root ≤ a.nodes.size := by omega
  have hcomplete := completes_statements hids hnext
  rw [← hstatements] at hcomplete hids
  refine ⟨?_, fun e he hkind => ?_, entries_statements hids hnext,
    entered_first_statements hids hnext⟩
  · rw [events, hcomplete.map_id, Nat.sub_zero, List.range_eq_range']
  · exact hcomplete.exists_node e (List.mem_filter.mpr ⟨he, hkind⟩)

/-! ## Walks that stop -/

section

variable {σ ε : Type} {l : Listener σ ε} {s : σ}

/-- The first error of a listener is the error of the walk, and it is the last thing that the
listener is asked for. -/
theorem walk_of_answer {n : Nat} {error : ε} (h : l.answer? s a.events n = some error)
    (hfirst : ∀ k < n, l.answer? s a.events k = none) :
    (a.walk l s).2 = some error ∧
      (a.walk l.recording (s, [])).1.2 = a.events.take (n + 1) := by
  have hrun := Listener.run_of_answer [] h hfirst
  have hsame := congrArg Prod.snd (l.run_recording s a.events [])
  rw [hrun] at hsame
  refine ⟨hsame.symm, ?_⟩
  rw [walk, hrun]
  rfl

/-- A walk whose listener never fails goes through all events. -/
theorem walk_of_forall_answer (h : ∀ n, l.answer? s a.events n = none) :
    (a.walk l s).2 = none ∧ (a.walk l.recording (s, [])).1.2 = a.events := by
  have hrun := Listener.run_of_forall_answer [] h
  have hsame := congrArg Prod.snd (l.run_recording s a.events [])
  rw [hrun] at hsame
  refine ⟨hsame.symm, ?_⟩
  rw [walk, hrun]
  rfl

end

/-- The nodes that are pushed while a text is read are a tree in post-order, with the list of its
statements last. The walk completes them in the order of their numbers, and enters a statement
before it comes to anything below it. If a listener returns an error, the walk returns it, and the
listener has been told the events up to the one it is returned from and no others. -/
theorem walk_of_parse {text : String} {a : Arena} (h : parse text = .ok a) :
    a.IsPostOrdered ∧ a.IsWalkedOnce ∧
      ∀ {σ ε : Type} (l : Listener σ ε) (s : σ),
        (∀ n error, l.answer? s a.events n = some error →
          (∀ k < n, l.answer? s a.events k = none) →
            (a.walk l s).2 = some error ∧
              (a.walk l.recording (s, [])).1.2 = a.events.take (n + 1)) ∧
        ((∀ n, l.answer? s a.events n = none) →
          (a.walk l s).2 = none ∧ (a.walk l.recording (s, [])).1.2 = a.events) := by
  obtain ⟨d, -, hholds⟩ := holds_of_parse h
  exact ⟨hholds.isPostOrdered, hholds.isWalkedOnce, fun l s =>
    ⟨fun n error => walk_of_answer, walk_of_forall_answer⟩⟩

/-- The nodes of `NOT A IN (1, -B); M:1`. -/
def excluding : Arena where
  nodes := #[⟨.column "A", ⟨1, 5⟩⟩, ⟨.literal (.integer "1"), ⟨1, 11⟩⟩, ⟨.column "B", ⟨1, 15⟩⟩,
    ⟨.unary .minus 2, ⟨1, 14⟩⟩, ⟨.inList 0 [1, 3] false false, ⟨1, 7⟩⟩, ⟨.not 4, ⟨1, 1⟩⟩,
    ⟨.expressionStatement 5, ⟨1, 1⟩⟩, ⟨.identifierStatement ⟨.measurementKey, "M:1"⟩, ⟨1, 19⟩⟩,
    ⟨.statementList [6, 7], ⟨1, 1⟩⟩]
  root := 8

theorem walk_of_parse_excluding :
    parse "NOT A IN (1, -B); M:1" = .ok excluding ∧
      excluding.IsPostOrdered ∧ excluding.IsWalkedOnce := by
  have htokens : Token.tokenize "NOT A IN (1, -B); M:1" =
      .ok ([⟨.keyword .NOT, "NOT", ⟨1, 1⟩⟩, ⟨.identifier "A", "A", ⟨1, 5⟩⟩,
        ⟨.keyword .IN, "IN", ⟨1, 7⟩⟩, ⟨.symbol .leftParen, "(", ⟨1, 10⟩⟩,
        ⟨.integer "1", "1", ⟨1, 11⟩⟩, ⟨.symbol .comma, ",", ⟨1, 12⟩⟩,
        ⟨.symbol .minus, "-", ⟨1, 14⟩⟩, ⟨.identifier "B", "B", ⟨1, 15⟩⟩,
        ⟨.symbol .rightParen, ")", ⟨1, 16⟩⟩, ⟨.symbol .semicolon, ";", ⟨1, 17⟩⟩,
        ⟨.measurementKey "M:1", "M:1", ⟨1, 19⟩⟩], ⟨1, 22⟩) := by
    decide +kernel
  have hparse : parse "NOT A IN (1, -B); M:1" = .ok excluding := by
    rw [parse_eq_map_ofDocument, Document.parse, htokens]
    cbv
  have hwalk := walk_of_parse hparse
  exact ⟨hparse, hwalk.1, hwalk.2.1⟩

/-- A walk over these nodes. -/
example : excluding.events = [⟨.enterStatement, 6⟩, ⟨.exitColumn, 0⟩, ⟨.exitLiteral, 1⟩,
    ⟨.exitColumn, 2⟩, ⟨.exitValue, 3⟩, ⟨.exitPredicate, 4⟩, ⟨.exitExpression, 5⟩,
    ⟨.exitStatement, 6⟩, ⟨.enterStatement, 7⟩, ⟨.exitIdentifier, 7⟩, ⟨.exitStatement, 7⟩] := by
  decide

end Arena

end RowFilter.Syntax
