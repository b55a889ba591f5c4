import RowFilter.Proofs.Binding.Compile
import RowFilter.Proofs.Syntax.Layout

/-!
The listener and the compiler agree: over the events of a term, the listener puts the compiled
expression in front of what is built, or stops with the compiler's error. What is built at any
moment belongs to the terms that are complete and have not been used yet, in the order of their
numbers.
-/

namespace RowFilter

open Syntax

/-! ## What is built -/

namespace Binding.Built

/-- The expressions of complete terms, the last one first. -/
def above (ids : List Nat) (es : List Expression) (built : Built) : Built :=
  (ids.zip es).reverse ++ built

/-- Every expression is that of a node before `id`. -/
def Before (id : Nat) (built : Built) : Prop := ∀ p ∈ built, p.1 < id

theorem before_nil (id : Nat) : Before id [] :=
  fun _ hp => absurd hp List.not_mem_nil

theorem Before.mono {id id' : Nat} {built : Built} (h : built.Before id) (hle : id ≤ id') :
    built.Before id' :=
  fun p hp => Nat.lt_of_lt_of_le (h p hp) hle

theorem Before.cons {lo id : Nat} {built : Built} (h : built.Before lo) (hlo : lo ≤ id)
    (e : Expression) : Before (id + 1) ((id, e) :: built) := by
  intro p hp
  rcases List.mem_cons.mp hp with rfl | hp
  · exact Nat.lt_succ_self id
  · exact Nat.lt_succ_of_lt (Nat.lt_of_lt_of_le (h p hp) hlo)

theorem filter_of_before {id : Nat} {built : Built} (h : built.Before id) :
    built.filter (·.1 != id) = built := by
  rw [List.filter_eq_self]
  intro p hp
  rw [bne_iff_ne]
  exact Nat.ne_of_lt (h p hp)

theorem put_of_before {id : Nat} {built : Built} (h : built.Before id) (e : Expression) :
    built.put id e = (id, e) :: built := by
  rw [put, filter_of_before h]

/-- The expression of a node is taken from below those of later nodes. -/
theorem take_append {id : Nat} {front built : Built} (e : Expression)
    (hfront : ∀ p ∈ front, id < p.1) (h : built.Before id) :
    take (front ++ (id, e) :: built) id = .ok (e, front ++ built) := by
  -- the entries in front belong to later nodes, so the look-up passes them
  have hlookup : (front ++ (id, e) :: built).lookup id = some e := by
    induction front with
    | nil => rw [List.nil_append, List.lookup_cons_self]
    | cons p front ih =>
      have hne : id ≠ p.1 := Nat.ne_of_lt (hfront p List.mem_cons_self)
      rw [List.cons_append, List.lookup_cons, beq_false_of_ne hne]
      exact ih fun q hq => hfront q (List.mem_cons_of_mem p hq)
  -- and taking the entry away leaves them as they are
  have hfilter : front.filter (·.1 != id) = front := by
    rw [List.filter_eq_self]
    intro p hp
    rw [bne_iff_ne]
    exact (Nat.ne_of_lt (hfront p hp)).symm
  have hself : ((id, e).1 != id) = false := by
    rw [bne_eq_false_iff_eq]
  rw [take, hlookup]
  show Except.ok (e, (front ++ (id, e) :: built).filter (·.1 != id)) = _
  rw [List.filter_append, List.filter_cons_of_neg (by rw [hself]; exact Bool.false_ne_true),
    hfilter, filter_of_before h]

theorem take_cons {id : Nat} {built : Built} (e : Expression) (h : built.Before id) :
    take ((id, e) :: built) id = .ok (e, built) := by
  show take ([] ++ (id, e) :: built) id = .ok (e, [] ++ built)
  exact take_append e nofun h

theorem above_cons (id : Nat) (ids : List Nat) (e : Expression) (es : List Expression)
    (built : Built) : above (id :: ids) (e :: es) built = above ids es ((id, e) :: built) := by
  rw [above, above, List.zip_cons_cons, List.reverse_cons, List.append_assoc, List.singleton_append]

/-- The expression of a node is taken from below those of complete terms behind it. -/
theorem take_above {id : Nat} {ids : List Nat} {built : Built} (e : Expression)
    (es : List Expression) (hids : ∀ i ∈ ids, id < i) (h : built.Before id) :
    take (above ids es ((id, e) :: built)) id = .ok (e, above ids es built) := by
  apply take_append e _ h
  intro p hp
  exact hids p.1 (List.of_mem_zip (List.mem_reverse.mp hp)).1

/-- The expressions of ascending nodes are taken away together. -/
theorem takeAll_above {ids : List Nat} {es : List Expression} {built : Built}
    (hlength : es.length = ids.length) (hids : ids.Pairwise (· < ·))
    (h : ∀ id ∈ ids, built.Before id) : takeAll (above ids es built) ids = .ok (es, built) := by
  induction ids generalizing es with
  | nil =>
    rw [List.eq_nil_of_length_eq_zero hlength]
    rfl
  | cons id ids ih =>
    obtain ⟨e, es, rfl⟩ := List.exists_cons_of_length_eq_add_one hlength
    rw [List.pairwise_cons] at hids
    rw [above_cons, takeAll, take_above e es hids.1 (h id List.mem_cons_self), ok_bind]
    show (takeAll (above ids es built) ids >>= _) = _
    rw [ih (Nat.succ.inj hlength) hids.2 fun i hi => h i (List.mem_cons_of_mem id hi)]
    rfl

end Binding.Built

/-! ## Runs -/

theorem Syntax.Listener.run_append {σ ε : Type} (l : Listener σ ε) (s : σ) (xs ys : List Event) :
    l.run s (xs ++ ys) =
      match l.run s xs with
      | (s, none) => l.run s ys
      | (s, some e) => (s, some e) := by
  induction xs generalizing s with
  | nil => rfl
  | cons x xs ih =>
    rw [List.cons_append, Listener.run, Listener.run]
    split
    · exact ih _
    · rfl

theorem Syntax.Listener.run_singleton {σ ε : Type} (l : Listener σ ε) (s : σ) (e : Event) :
    l.run s [e] = l s e := by
  rw [Listener.run]
  split
  · next h => rw [h]; rfl
  · next h => rw [h]

namespace Binding

/-- The run ends with the expressions of some terms in front of what was built, or with the first
error among them. Only what is built has changed. -/
def Pushes (s : State) (ids : List Nat) (x : Except Error (List Expression))
    (run : State × Option Error) : Prop :=
  match x with
  | .ok es => es.length = ids.length ∧ run = ({ s with built := s.built.above ids es }, none)
  | .error e => ∃ built, run = ({ s with built }, some e)

variable {scope : Scope} {options : Options} {a : Arena}

theorem listener_eq {node : Node} {p : Text.Position} {id : Nat} {kind : EventKind} (s : State)
    (h : a.nodes[id]? = some ⟨node, p⟩) :
    listener scope options a s ⟨kind, id⟩ =
      match step scope options s kind id node with
      | .ok s => (s, none)
      | .error e => (s, some e) := by
  have hnode : a.node? id = some node := by
    rw [Arena.node?, h]
    rfl
  cases hstep : step scope options s kind id node with
  | ok s => simp only [listener, hnode, hstep]
  | error e => simp only [listener, hnode, hstep]

/-- A term is complete when its children are: the run over their events is extended by the event of
the term, which takes their expressions and leaves the term's. -/
theorem Pushes.complete {s : State} {ids : List Nat} {x : Except Error (List Expression)}
    {events : List Event} {node : Node} {p : Text.Position} {id : Nat} {kind : EventKind}
    {f : List Expression → Except Error Expression}
    (h : Pushes s ids x ((listener scope options a).run s events))
    (hnode : a.nodes[id]? = some ⟨node, p⟩)
    (hstep : ∀ s, step scope options s kind id node = completeTerm s id node)
    (hexpress : ∀ es, es.length = ids.length →
      express { s with built := s.built.above ids es } node =
        (f es >>= fun e => .ok (some (e, s.built))))
    (hbefore : s.built.Before id) :
    Pushes s [id] (x >>= f >>= fun e => .ok [e])
      ((listener scope options a).run s (events ++ [⟨kind, id⟩])) := by
  rw [Listener.run_append]
  cases x with
  -- an error among the parts ends the run before the event of the term
  | error e =>
    obtain ⟨built, hrun⟩ := h
    rw [hrun]
    exact ⟨built, rfl⟩
  | ok es =>
    obtain ⟨hlength, hrun⟩ := h
    rw [hrun]
    show Pushes s [id] (f es >>= fun e => .ok [e])
      (Listener.run _ { s with built := s.built.above ids es } [⟨kind, id⟩])
    rw [Listener.run, listener_eq _ hnode, hstep, completeTerm, hexpress es hlength]
    cases f es with
    | error e => exact ⟨_, rfl⟩
    | ok e =>
      refine ⟨rfl, ?_⟩
      show (({ s with built := s.built.put id e } : State), none) = _
      rw [Built.put_of_before hbefore]
      rfl

/-- What the run over one term and the runs over further terms do, a run over all of them does. -/
theorem Pushes.cons {s : State} {id : Nat} {ids : List Nat} {x : Except Error Expression}
    {y : Except Error (List Expression)} {events more : List Event}
    (h : Pushes s [id] (x >>= fun e => .ok [e]) ((listener scope options a).run s events))
    (hmore : ∀ e, Pushes { s with built := (id, e) :: s.built } ids y
      ((listener scope options a).run { s with built := (id, e) :: s.built } more)) :
    Pushes s (id :: ids) (x >>= fun e => y >>= fun es => .ok (e :: es))
      ((listener scope options a).run s (events ++ more)) := by
  rw [Listener.run_append]
  cases x with
  | error e =>
    obtain ⟨built, hrun⟩ := h
    rw [hrun]
    exact ⟨built, rfl⟩
  | ok e =>
    obtain ⟨-, hrun⟩ := h
    rw [hrun]
    show Pushes s (id :: ids) (y >>= fun es => .ok (e :: es))
      (Listener.run _ { s with built := (id, e) :: s.built } more)
    -- the other terms run in the state that has the first expression in front
    have hmore := hmore e
    cases y with
    | error e =>
      obtain ⟨built, hrun⟩ := hmore
      rw [hrun]
      exact ⟨built, rfl⟩
    | ok es =>
      obtain ⟨hlength, hrun⟩ := hmore
      rw [hrun]
      refine ⟨congrArg (· + 1) hlength, ?_⟩
      rw [Built.above_cons]

/-! ## Nodes of terms -/

/-- The numbers of the parts of a term's node, in their order. -/
def parts : Node → List Nat
  | .not id | .unary _ id | .isNull id _ => [id]
  | .logical _ l r | .predicate _ l r | .binary _ l r => [l, r]
  | .inList id ids _ _ => id :: ids
  | .call _ ids => ids
  | _ => []

/-- The event that says that the term of a node is complete. -/
def completion? : Node → Option EventKind
  | .not _ | .logical .. => some .exitExpression
  | .predicate .. | .inList .. | .isNull .. => some .exitPredicate
  | .unary .. | .binary .. => some .exitValue
  | .literal _ => some .exitLiteral
  | .column _ => some .exitColumn
  | .call .. => some .exitCall
  | _ => none

theorem step_of_completion {node : Node} {kind : EventKind} (h : completion? node = some kind)
    (s : State) (id : Nat) : step scope options s kind id node = completeTerm s id node := by
  cases node <;> cases h <;> rfl

/-- The events of a term are those of its parts, and its own. -/
theorem nodeEvents_of_completion {node : Node} {p : Text.Position} {kind : EventKind} {id : Nat}
    (hnode : a.nodes[id]? = some ⟨node, p⟩) (h : completion? node = some kind) (depth : Nat) :
    a.nodeEvents (depth + 1) id = (parts node).flatMap (a.nodeEvents depth) ++ [⟨kind, id⟩] := by
  have hid : a.node? id = some node := by
    rw [Arena.node?, hnode]
    rfl
  rw [Arena.nodeEvents, hid]
  cases node <;> cases h <;> simp [parts]

/-- A term behind its parts. -/
theorem Pushes.node {s : State} {x : Except Error (List Expression)} {node : Node}
    {p : Text.Position} {lo id depth : Nat} {kind : EventKind}
    {f : List Expression → Except Error Expression}
    (h : Pushes s (parts node) x
      ((listener scope options a).run s ((parts node).flatMap (a.nodeEvents depth))))
    (hnode : a.nodes[id]? = some ⟨node, p⟩) (hkind : completion? node = some kind)
    (hexpress : ∀ es, es.length = (parts node).length →
      express { s with built := s.built.above (parts node) es } node =
        (f es >>= fun e => .ok (some (e, s.built))))
    (hbefore : s.built.Before lo) (hlo : lo ≤ id) :
    Pushes s [id] (x >>= f >>= fun e => .ok [e])
      ((listener scope options a).run s (a.nodeEvents (depth + 1) id)) := by
  rw [nodeEvents_of_completion hnode hkind]
  exact h.complete hnode (fun s => step_of_completion hkind s id) hexpress (hbefore.mono hlo)

/-- A term without parts. -/
theorem Pushes.node_zero {s : State} {x y : Except Error Expression} {node : Node}
    {p : Text.Position} {lo id : Nat} {kind : EventKind} (depth : Nat)
    (hnode : a.nodes[id]? = some ⟨node, p⟩) (hkind : completion? node = some kind)
    (hparts : parts node = [])
    (hexpress : express s node = (x >>= fun e => .ok (some (e, s.built))))
    (hbefore : s.built.Before lo) (hlo : lo ≤ id) (hy : y = x) :
    Pushes s [id] (y >>= fun e => .ok [e])
      ((listener scope options a).run s (a.nodeEvents (depth + 1) id)) := by
  have h : Pushes s [] (.ok [])
      ((listener scope options a).run s ([].flatMap (a.nodeEvents depth))) := ⟨rfl, rfl⟩
  -- a run over no parts pushes nothing
  rw [← hparts] at h
  rw [hy]
  refine h.node (f := fun _ => x) hnode hkind ?_ hbefore hlo
  intro es hes
  rw [hparts] at hes ⊢
  rw [List.eq_nil_of_length_eq_zero hes]
  exact hexpress

/-- A term of one part. -/
theorem Pushes.node_one {s : State} {x y : Except Error Expression} {node : Node}
    {p : Text.Position} {lo i id depth : Nat} {kind : EventKind} {f : Expression → Expression}
    (h : Pushes s [i] (x >>= fun e => .ok [e])
      ((listener scope options a).run s (a.nodeEvents depth i)))
    (hnode : a.nodes[id]? = some ⟨node, p⟩) (hkind : completion? node = some kind)
    (hparts : parts node = [i])
    (hexpress : ∀ s, express s node =
      (s.built.take i >>= fun r => .ok (some (f r.1, r.2))))
    (hbefore : s.built.Before lo) (hi : lo ≤ i) (hlo : lo ≤ id)
    (hy : y = x >>= fun e => .ok (f e)) :
    Pushes s [id] (y >>= fun e => .ok [e])
      ((listener scope options a).run s (a.nodeEvents (depth + 1) id)) := by
  have hevents : (parts node).flatMap (a.nodeEvents depth) = a.nodeEvents depth i := by
    rw [hparts, List.flatMap_singleton]
  rw [← hevents, ← hparts] at h
  -- the list that was pushed has one element, whatever `f` does with other lists
  have hwhole := h.node (f := fun es => .ok (f es[0]!)) hnode hkind ?_ hbefore hlo
  · rw [hy]
    simp only [bind_assoc, ok_bind] at hwhole ⊢
    exact hwhole
  · intro es hes
    rw [hparts] at hes ⊢
    obtain ⟨e, rfl⟩ := List.length_eq_one_iff.mp hes
    rw [hexpress]
    show (Built.take ((i, e) :: s.built) i >>= _) = _
    rw [Built.take_cons e (hbefore.mono hi)]
    rfl

/-- A term of two parts. -/
theorem Pushes.node_two {s : State} {x y z : Except Error Expression} {node : Node}
    {p : Text.Position} {lo l r id depth : Nat} {kind : EventKind}
    {f : Expression → Expression → Expression}
    (hl : Pushes s [l] (x >>= fun e => .ok [e])
      ((listener scope options a).run s (a.nodeEvents depth l)))
    (hr : ∀ e, Pushes { s with built := (l, e) :: s.built } [r] (y >>= fun e => .ok [e])
      ((listener scope options a).run { s with built := (l, e) :: s.built }
        (a.nodeEvents depth r)))
    (hnode : a.nodes[id]? = some ⟨node, p⟩) (hkind : completion? node = some kind)
    (hparts : parts node = [l, r])
    (hexpress : ∀ s, express s node = (s.built.take l >>= fun q => q.2.take r >>= fun w =>
      .ok (some (f q.1 w.1, w.2))))
    (hbefore : s.built.Before lo) (hlo : lo ≤ l) (hlr : l < r) (hid : lo ≤ id)
    (hz : z = x >>= fun e => y >>= fun e' => .ok (f e e')) :
    Pushes s [id] (z >>= fun e => .ok [e])
      ((listener scope options a).run s (a.nodeEvents (depth + 1) id)) := by
  have hevents : (parts node).flatMap (a.nodeEvents depth) =
      a.nodeEvents depth l ++ a.nodeEvents depth r := by
    rw [hparts, List.flatMap_cons, List.flatMap_singleton]
  have h := hl.cons hr
  rw [← hevents, ← hparts] at h
  have hwhole := h.node (f := fun es => .ok (f es[0]! es[1]!)) hnode hkind ?_ hbefore hid
  · rw [hz]
    simp only [bind_assoc, ok_bind] at hwhole ⊢
    exact hwhole
  · intro es hes
    rw [hparts] at hes ⊢
    obtain ⟨e, es, rfl⟩ := List.exists_cons_of_length_eq_add_one hes
    obtain ⟨e', rfl⟩ := List.length_eq_one_iff.mp (Nat.succ.inj hes)
    rw [hexpress]
    show (Built.take ([(r, e')] ++ (l, e) :: s.built) l >>= _) = _
    -- the left part is taken from below the right one
    rw [Built.take_append e (by simpa using hlr) (hbefore.mono hlo), ok_bind]
    show (Built.take ((r, e') :: s.built) r >>= _) = _
    rw [Built.take_cons e' (hbefore.mono (by omega))]
    rfl

theorem express_call {s : State} {ids : List Nat} {es : List Expression} (name : String)
    (hes : es.length = ids.length) (hids : ids.Pairwise (· < ·))
    (hbefore : ∀ id ∈ ids, s.built.Before id) :
    express { s with built := s.built.above ids es } (.call name ids) =
      ((calledFunction name ids.length >>= fun f => .ok (.function f es)) >>= fun e =>
        .ok (some (e, s.built))) := by
  rw [express, Built.takeAll_above hes hids hbefore, bind_assoc]
  rfl

theorem express_inList {s : State} {id : Nat} {ids : List Nat} {e : Expression}
    {es : List Expression} (negated exact : Bool) (hes : es.length = ids.length)
    (hid : ∀ i ∈ ids, id < i) (hids : ids.Pairwise (· < ·)) (hbefore : s.built.Before id) :
    express { s with built := s.built.above (id :: ids) (e :: es) }
        (.inList id ids negated exact) =
      .ok (some (.inList e es negated exact, s.built)) := by
  have hitems : ∀ i ∈ ids, s.built.Before i :=
    fun i hi => hbefore.mono (Nat.le_of_lt (hid i hi))
  rw [express, Built.above_cons, Built.take_above e es hid hbefore, ok_bind]
  show ((s.built.above ids es).takeAll ids >>= _) = _
  rw [Built.takeAll_above hes hids hitems]
  rfl

variable (scope options)

mutual

theorem pushes_term (t : Term) (depth : Nat) {table : Table} {s : State} {lo id : Nat}
    (h : a.Spans lo id t) (hd : id < lo + depth) (hactive : s.active = some table)
    (hbefore : s.built.Before lo) :
    Pushes s [id] (t.compile table >>= fun e => .ok [e])
      ((listener scope options a).run s (a.nodeEvents depth id)) := by
  have hlo := Arena.Spans.le t h
  -- the walk has not run out of depth: a term of `n` nodes is at most `n` deep
  obtain ⟨depth, rfl⟩ : ∃ d, depth = d + 1 := ⟨depth - 1, by omega⟩
  match t, h with
  | .literal _ l, .literal hnode =>
    have hexpress : express s (.literal l) =
        ((l.value >>= fun v => .ok (.value v)) >>= fun e => .ok (some (e, s.built))) := by
      rw [express, bind_assoc]
      rfl
    exact Pushes.node_zero depth hnode rfl rfl hexpress hbefore hlo (by rw [Term.compile]; rfl)
  | .column _ name, .column hnode =>
    have hexpress : express s (.column name) =
        ((table.resolve name >>= fun c => .ok (.column c)) >>= fun e =>
          .ok (some (e, s.built))) := by
      rw [express, State.activeTable, hactive, bind_assoc]
      rfl
    exact Pushes.node_zero depth hnode rfl rfl hexpress hbefore hlo (by rw [Term.compile]; rfl)
  | .call _ name arguments, .call hs hnode =>
    have hparts := pushes_terms arguments depth hs (by omega) hactive hbefore
    -- the name is looked up after the arguments, in the event of the call itself
    have hwhole := Pushes.node (f := fun es =>
      calledFunction name arguments.length >>= fun f => .ok (.function f es)) hparts hnode rfl ?_
      hbefore hlo
    · rw [Term.compile]
      simp only [bind_assoc] at hwhole ⊢
      exact hwhole
    · intro es hes
      rw [← hs.length_eq]
      exact express_call name hes hs.bounds.2 fun id hid => hbefore.mono (hs.bounds.1 id hid).1
  | .unary _ op operand, .unary ho hnode | .not _ operand, .not ho hnode
  | .isNull _ operand negated, .isNull ho hnode =>
    have hoperand := pushes_term operand depth ho (by omega) hactive hbefore
    exact hoperand.node_one hnode rfl rfl (fun _ => rfl) hbefore (Arena.Spans.le operand ho) hlo
      (by rw [Term.compile]; rfl)
  | .binary _ op left right, .binary hl hr hnode
  | .predicate _ op left right, .predicate hl hr hnode
  | .logical _ op left right, .logical hl hr hnode =>
    have hl' := Arena.Spans.le left hl
    have hr' := Arena.Spans.le right hr
    have hleft := pushes_term left depth hl (by omega) hactive hbefore
    -- the right part starts with the left expression in front of what was built
    have hright (e : Expression) := pushes_term right depth (s := { s with built := (_, e) :: _ })
      hr (by omega) hactive (hbefore.cons hl' e)
    exact hleft.node_two hright hnode rfl rfl (fun _ => rfl) hbefore hl' hr' hlo
      (by rw [Term.compile]; rfl)
  | .inList _ operand items negated exact, .inList ho hs hnode =>
    have ho' := Arena.Spans.le operand ho
    have hs' := Arena.le_of_terms items hs
    have hoperand := pushes_term operand depth ho (by omega) hactive hbefore
    -- the items come behind the operand, whose expression lies below theirs
    have hitems (e : Expression) := pushes_terms items depth (s := { s with built := (_, e) :: _ })
      hs (by omega) hactive (hbefore.cons ho' e)
    have hwhole := Pushes.node (f := fun es => .ok (.inList es.head! es.tail negated exact))
      (hoperand.cons hitems) hnode rfl ?_ hbefore hlo
    · rw [Term.compile]
      simp only [bind_assoc, ok_bind] at hwhole ⊢
      exact hwhole
    · intro es hes
      obtain ⟨e, es, rfl⟩ := List.exists_cons_of_length_eq_add_one hes
      exact express_inList negated exact (Nat.succ.inj hes) (fun i hi => (hs.bounds.1 i hi).1)
        hs.bounds.2 (hbefore.mono ho')

theorem pushes_terms (ts : List Term) (depth : Nat) {table : Table} {s : State} {lo next : Nat}
    {ids : List Nat} (h : Arena.Consecutive a.Spans lo ids next ts) (hd : next ≤ lo + depth)
    (hactive : s.active = some table) (hbefore : s.built.Before lo) :
    Pushes s ids (Term.compileAll table ts)
      ((listener scope options a).run s (ids.flatMap (a.nodeEvents depth))) := by
  match ts, h with
  | [], .nil _ => exact ⟨rfl, rfl⟩
  | t :: ts, .cons ht hs =>
    have hlo := Arena.Spans.le t ht
    have hnext := Arena.le_of_terms ts hs
    refine (pushes_term t depth ht (by omega) hactive hbefore).cons fun e => ?_
    exact pushes_terms ts depth hs (by omega) hactive (hbefore.cons hlo e)

end

/-! ## Statements -/

/-- The run over one or more statements reports what compiling them reports, and ends with their
contributions behind what was bound and nothing left of what was built, or with their error. -/
def Contributes (s : State) (x : Logged Bound) (run : State × Option Error) : Prop :=
  run.1.log = s.log ++ x.2 ∧
    match x.1 with
    | .ok own => run.2 = none ∧ run.1.built = [] ∧ run.1.bound = s.bound.append own
    | .error e => run.2 = some e

theorem completeStatement_of_condition {s : State} {tree : ExpressionTree} {root : Expression}
    {i : Nat} {node : Node} (hbuilt : s.built = [(i, root)]) (hcurrent : s.current = some tree)
    (hcondition : conditionOf? node = some i) :
    completeStatement s node = .ok
      { s with
        built := []
        current := none
        bound := s.bound.append ⟨[{ tree with root := some root }], []⟩
        log := s.log ++ [.treeBound tree.table tree.topLimit root.text] } := by
  rw [completeStatement, hcondition, hbuilt]
  show (Built.take ((i, root) :: []) i >>= _) = _
  rw [Built.take_cons root (Built.before_nil i), ok_bind, hcurrent]
  show Except.ok _ = Except.ok _
  rw [Bound.append, List.append_nil]
  rfl

/-- The run over the condition of a statement and over its end. -/
theorem contributes_condition (depth : Nat) {t : Term} {table : Table} {s : State}
    {tree : ExpressionTree} {lo id i : Nat} {node : Node} {p : Text.Position} (h : a.Spans lo i t)
    (hd : i < lo + depth) (hactive : s.active = some table) (hbuilt : s.built = [])
    (hcurrent : s.current = some tree) (hnode : a.nodes[id]? = some ⟨node, p⟩)
    (hcondition : conditionOf? node = some i) :
    Contributes s
      (Statement.ofTree (t.compile table >>= fun root => .ok { tree with root := some root }))
      ((listener scope options a).run s (a.nodeEvents depth i ++ [⟨.exitStatement, id⟩])) := by
  -- a statement begins with nothing built
  have hbefore : s.built.Before lo := by
    rw [hbuilt]
    exact Built.before_nil lo
  have hrun := pushes_term scope options t depth h hd hactive hbefore
  rw [Listener.run_append]
  cases hcompile : t.compile table with
  | error e =>
    rw [hcompile] at hrun
    obtain ⟨built, hrun⟩ := hrun
    rw [hrun]
    exact ⟨(List.append_nil _).symm, rfl⟩
  | ok root =>
    rw [hcompile] at hrun
    obtain ⟨-, hrun⟩ := hrun
    rw [hrun]
    show Contributes s _ (Listener.run _ { s with built := [(i, root)] ++ s.built } [_])
    -- the only expression left is that of the condition, and the end of the statement takes it
    have hcomplete := completeStatement_of_condition
      (s := { s with built := [(i, root)] ++ s.built }) (congrArg ([(i, root)] ++ ·) hbuilt)
      hcurrent hcondition
    rw [Listener.run_singleton, listener_eq _ hnode, step, hcomplete]
    exact ⟨rfl, rfl, rfl, rfl⟩

/-- The run over an identifier statement after its beginning. -/
theorem contributes_identifier {i : Identifier} {id : Nat} {p : Text.Position} {s : State}
    (hnode : a.nodes[id]? = some ⟨.identifierStatement i, p⟩) (hbuilt : s.built = []) :
    Contributes s (Statement.named scope options i)
      ((listener scope options a).run s [⟨.exitIdentifier, id⟩, ⟨.exitStatement, id⟩]) := by
  -- an identifier statement has no condition, so its end changes nothing
  have hend (s : State) :
      (listener scope options a).run s [⟨.exitStatement, id⟩] = (s, none) := by
    rw [Listener.run_singleton, listener_eq _ hnode]
    rfl
  rw [Listener.run, listener_eq _ hnode, step, completeIdentifier, Statement.named,
    Statement.matched]
  by_cases hskip : (!options.trackRows && !options.trackSignalIds) = true
  · rw [if_pos hskip, if_pos hskip]
    show Contributes s _ (Listener.run _ _ [⟨.exitStatement, id⟩])
    rw [hend]
    exact ⟨rfl, rfl, hbuilt, (Bound.append_empty s.bound).symm⟩
  · rw [if_neg hskip, if_neg hskip]
    cases scope.primaryTable options.primaryTable with
    | error e => exact ⟨(List.append_nil _).symm, rfl⟩
    | ok t =>
      rw [ok_bind, ok_bind]
      cases i.resolve t (options.idFieldsOf t.name) with
      | error e => exact ⟨(List.append_nil _).symm, rfl⟩
      | ok found =>
        obtain ⟨found, isRow⟩ := found
        by_cases hknown : found.isKnown = true
        · simp only [ok_bind, if_pos hknown, pure_eq_ok, hend]
          refine ⟨rfl, rfl, hbuilt, ?_⟩
          rw [Bound.append, List.append_nil]
        · simp only [ok_bind, if_neg hknown, pure_eq_ok, hend]
          exact ⟨rfl, rfl, hbuilt, (Bound.append_empty s.bound).symm⟩

theorem contributes_statement (st : Statement) {lo id : Nat} (h : a.SpansStatement lo id st)
    (hsize : id < a.nodes.size) (s : State) :
    Contributes s (st.compile scope options)
      ((listener scope options a).run s (a.statementEvents id)) := by
  obtain ⟨depth, hdepth⟩ : ∃ d, a.nodes.size = d + 1 := ⟨a.nodes.size - 1, by omega⟩
  rw [Arena.statementEvents, hdepth]
  cases h with
  | @identifier p i hnode =>
    have hevents : a.nodeEvents (depth + 1) lo = [⟨.exitIdentifier, lo⟩] := by
      rw [Arena.nodeEvents, Arena.node?, hnode]
      rfl
    rw [hevents, List.cons_append, Listener.run, listener_eq _ hnode]
    show Contributes s (Statement.named scope options i)
      (Listener.run _ { s with built := [], active := none, current := none }
        [⟨.exitIdentifier, lo⟩, ⟨.exitStatement, lo⟩])
    exact contributes_identifier scope options hnode rfl
  | @filter i p clause condition hc hnode =>
    have hevents : a.nodeEvents (depth + 1) (i + 1) =
        ⟨.enterFilter, i + 1⟩ :: a.nodeEvents depth i := by
      rw [Arena.nodeEvents, Arena.node?, hnode]
      rfl
    rw [hevents, List.cons_append, List.cons_append, Listener.run, listener_eq _ hnode]
    show Contributes s (Statement.ofTree (Statement.filterTree scope clause condition))
      (Listener.run _ { s with built := [], active := none, current := none } _)
    rw [Listener.run, listener_eq _ hnode, step, enterFilter, Statement.filterTree]
    -- the table and the order are resolved on entering the clause, before the condition is walked
    cases scope.filterTable clause.table with
    | error e => exact ⟨(List.append_nil _).symm, rfl⟩
    | ok t =>
      rw [ok_bind, ok_bind]
      cases orderTerms t clause.orderBy with
      | error e => exact ⟨(List.append_nil _).symm, rfl⟩
      | ok order =>
        have hs : State.active ⟨[], some t, some ⟨t.name, clause.topLimit.getD (-1), order, none⟩,
          s.bound, s.log⟩ = some t := rfl
        exact contributes_condition scope options depth hc (by omega) hs rfl rfl hnode rfl
  | @expression i p e he hnode =>
    have hevents : a.nodeEvents (depth + 1) (i + 1) = a.nodeEvents depth i := by
      rw [Arena.nodeEvents, Arena.node?, hnode]
      rfl
    rw [hevents, List.cons_append, Listener.run, listener_eq _ hnode, step, enterStatement]
    show Contributes s (Statement.ofTree (Statement.expressionTree scope options e)) _
    rw [Statement.expressionTree]
    cases scope.primaryTable options.primaryTable with
    | error e => exact ⟨(List.append_nil _).symm, rfl⟩
    | ok t => exact contributes_condition scope options depth he (by omega) rfl rfl rfl hnode rfl

/-- What a run adds to a state that a run before it has left, the two add together. -/
theorem Contributes.andThen {s t : State} {own : Bound} {log : Log} {x : Logged Bound}
    {run : State × Option Error} (hbound : t.bound = s.bound.append own)
    (hlog : t.log = s.log ++ log) (h : Contributes t x run) :
    Contributes s
      (Logged.andThen (.ok own, log) fun own => x.check fun more => .ok (own.append more)) run := by
  obtain ⟨x | more, log'⟩ := x
  · obtain ⟨hlog', herror⟩ := h
    refine ⟨?_, herror⟩
    rw [hlog', hlog, List.append_assoc]
    rfl
  · obtain ⟨hlog', hnone, hbuilt, hmore⟩ := h
    refine ⟨?_, hnone, hbuilt, ?_⟩
    · rw [hlog', hlog, List.append_assoc]
      show s.log ++ (log ++ log') = s.log ++ (log ++ (log' ++ []))
      rw [List.append_nil]
    · rw [hmore, hbound, Bound.append_assoc]

theorem contributes_statements {list : List Statement} {lo next : Nat} {ids : List Nat}
    (h : Arena.Consecutive a.SpansStatement lo ids next list) (hsize : next ≤ a.nodes.size)
    (s : State) (hbuilt : s.built = []) :
    Contributes s (Statement.compileAll scope options list)
      ((listener scope options a).run s (ids.flatMap a.statementEvents)) := by
  induction h generalizing s with
  | nil => exact ⟨(List.append_nil _).symm, rfl, hbuilt, (Bound.append_empty s.bound).symm⟩
  | @cons lo id next ids st list hst hall ih =>
    have hid : id < a.nodes.size := Nat.lt_of_lt_of_le (Arena.le_of_statements hall) hsize
    have hrun := contributes_statement scope options st hst hid s
    rw [List.flatMap_cons, Listener.run_append, Statement.compileAll]
    -- only what the statement contributes matters for the statements after it
    generalize (listener scope options a).run s (a.statementEvents id) = r at hrun
    generalize st.compile scope options = x at hrun
    obtain ⟨t, failed⟩ := r
    obtain ⟨e | own, log⟩ := x
    · obtain ⟨hlog, rfl⟩ := hrun
      exact ⟨hlog, rfl⟩
    · obtain ⟨hlog, rfl, hempty, hbound⟩ := hrun
      exact (ih hsize t hempty).andThen hbound hlog

end Binding

/-! ## Documents -/

theorem Syntax.Arena.Holds.statements {a : Arena} {d : Document} {ids : List Nat}
    (hroot : a.nodes[a.root]? = some ⟨.statementList ids, d.position⟩) : a.statements = ids := by
  rw [Arena.statements, Arena.node?, hroot]
  rfl

/-- The listener that walks the nodes of a document does what the compiler does. -/
theorem bind_ofDocument (d : Document) (scope : Scope) (options : Options) :
    (Arena.ofDocument d).bind scope options = d.compile scope options := by
  obtain ⟨ids, hids, hroot, hsize⟩ := Arena.holds_ofDocument d
  have hnext : (Arena.ofDocument d).root ≤ (Arena.ofDocument d).nodes.size := by omega
  -- the run over all statements, from the start
  have hrun := Binding.contributes_statements scope options hids hnext .start rfl
  rw [Arena.bind, Arena.walk, Arena.events, Arena.Holds.statements hroot, Document.compile]
  generalize Listener.run _ _ _ = r at hrun ⊢
  generalize Statement.compileAll scope options d.statements = x at hrun ⊢
  obtain ⟨t, failed⟩ := r
  obtain ⟨e | own, log⟩ := x
  · obtain ⟨hlog, rfl⟩ := hrun
    exact congrArg (Except.error e, ·) hlog
  · obtain ⟨hlog, rfl, -, hbound⟩ := hrun
    show (Except.ok t.bound, t.log) = _
    rw [hbound, hlog]
    rfl

/-- Whenever some of the statements have been bound, no expression is left over. -/
theorem built_eq_nil_of_run (d : Document) (scope : Scope) (options : Options) (k : Nat)
    {s : Binding.State}
    (hrun : (Binding.listener scope options (Arena.ofDocument d)).run .start
      (((Arena.ofDocument d).statements.take k).flatMap (Arena.ofDocument d).statementEvents) =
        (s, none)) : s.built = [] := by
  obtain ⟨ids, hids, hroot, hsize⟩ := Arena.holds_ofDocument d
  obtain ⟨m, hm, hfirst⟩ := hids.take k
  have hcontributes := Binding.contributes_statements scope options hfirst (by omega) .start rfl
  rw [← Arena.Holds.statements hroot, hrun] at hcontributes
  generalize Statement.compileAll scope options (d.statements.take k) = x at hcontributes
  obtain ⟨e | own, log⟩ := x
  · cases hcontributes.2
  · exact hcontributes.2.2.1

/-- Binding the nodes of a document is compiling the document: the same trees and matches, the same
reports, the same first error. It never fails because an expression is missing or no table is in
scope, and after every statement no expression is left over. -/
theorem bind_ofDocument_eq_compile (d : Document) (scope : Scope) (options : Options) :
    (Arena.ofDocument d).bind scope options = d.compile scope options ∧
      (∀ e, ((Arena.ofDocument d).bind scope options).1 = .error e → ¬ e.IsInternal) ∧
      ∀ k s, (Binding.listener scope options (Arena.ofDocument d)).run .start
          (((Arena.ofDocument d).statements.take k).flatMap
            (Arena.ofDocument d).statementEvents) = (s, none) →
        s.built = [] := by
  refine ⟨bind_ofDocument d scope options, ?_, fun k s => built_eq_nil_of_run d scope options k⟩
  rw [bind_ofDocument]
  exact sound_statements scope options d.statements

end RowFilter
