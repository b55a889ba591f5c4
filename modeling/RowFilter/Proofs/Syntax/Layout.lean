import RowFilter.Syntax.Arena

/-!
Where the nodes of a document stand. A term takes a run of consecutive numbers, its children one
after the other and its own node last; a document takes all numbers of its arena. The nodes of a
finished document can be laid out so, statement by statement, with the list of statements last.
-/

namespace RowFilter.Syntax

open Text (Position)

namespace Arena

/-! ## Laying out a document -/

mutual

/-- Appends the nodes of a term, its own node last. -/
def placeTerm (nodes : Array Placed) : Term → Nat × Array Placed
  | .literal p l => push nodes (.literal l) p
  | .column p name => push nodes (.column name) p
  | .call p name arguments =>
    let (ids, nodes) := placeTerms nodes arguments
    push nodes (.call name ids) p
  | .unary p op operand =>
    let (id, nodes) := placeTerm nodes operand
    push nodes (.unary op id) p
  | .binary p op left right =>
    let (l, nodes) := placeTerm nodes left
    let (r, nodes) := placeTerm nodes right
    push nodes (.binary op l r) p
  | .predicate p op left right =>
    let (l, nodes) := placeTerm nodes left
    let (r, nodes) := placeTerm nodes right
    push nodes (.predicate op l r) p
  | .inList p operand items negated exact =>
    let (id, nodes) := placeTerm nodes operand
    let (ids, nodes) := placeTerms nodes items
    push nodes (.inList id ids negated exact) p
  | .isNull p operand negated =>
    let (id, nodes) := placeTerm nodes operand
    push nodes (.isNull id negated) p
  | .not p operand =>
    let (id, nodes) := placeTerm nodes operand
    push nodes (.not id) p
  | .logical p op left right =>
    let (l, nodes) := placeTerm nodes left
    let (r, nodes) := placeTerm nodes right
    push nodes (.logical op l r) p

/-- Appends the nodes of terms one after the other. -/
def placeTerms (nodes : Array Placed) : List Term → List Nat × Array Placed
  | [] => ([], nodes)
  | t :: ts =>
    let (id, nodes) := placeTerm nodes t
    let (ids, nodes) := placeTerms nodes ts
    (id :: ids, nodes)

end

def placeStatement (nodes : Array Placed) : Statement → Nat × Array Placed
  | .identifier p i => push nodes (.identifierStatement i) p
  | .filter p clause condition =>
    let (id, nodes) := placeTerm nodes condition
    push nodes (.filterStatement clause id) p
  | .expression p e =>
    let (id, nodes) := placeTerm nodes e
    push nodes (.expressionStatement id) p

def placeStatements (nodes : Array Placed) : List Statement → List Nat × Array Placed
  | [] => ([], nodes)
  | s :: rest =>
    let (id, nodes) := placeStatement nodes s
    let (ids, nodes) := placeStatements nodes rest
    (id :: ids, nodes)

/-- The nodes of a document. -/
def ofDocument (d : Document) : Arena :=
  let (ids, nodes) := placeStatements #[] d.statements
  let (root, nodes) := push nodes (.statementList ids) d.position
  ⟨nodes, root⟩

/-! ## Layouts -/

/-- Things that take runs of numbers, each right behind the one before: from `lo` up to `next`,
with the last number of each run. -/
inductive Consecutive {α : Type} (spans : Nat → Nat → α → Prop) :
    Nat → List Nat → Nat → List α → Prop where
  | nil (lo : Nat) : Consecutive spans lo [] lo []
  | cons {lo id next : Nat} {ids : List Nat} {x : α} {xs : List α} (h : spans lo id x)
      (hs : Consecutive spans (id + 1) ids next xs) :
      Consecutive spans lo (id :: ids) next (x :: xs)

variable (a : Arena)

/-- The nodes of a term have the numbers from `lo` to `id`, and `id` is its own. -/
inductive Spans : Nat → Nat → Term → Prop where
  | literal {id : Nat} {p : Position} {l : Literal} (h : a.nodes[id]? = some ⟨.literal l, p⟩) :
      Spans id id (.literal p l)
  | column {id : Nat} {p : Position} {name : String}
      (h : a.nodes[id]? = some ⟨.column name, p⟩) : Spans id id (.column p name)
  | call {lo id : Nat} {ids : List Nat} {p : Position} {name : String} {arguments : List Term}
      (hs : Consecutive Spans lo ids id arguments) (h : a.nodes[id]? = some ⟨.call name ids, p⟩) :
      Spans lo id (.call p name arguments)
  | unary {lo id : Nat} {p : Position} {op : UnaryOperator} {operand : Term}
      (ho : Spans lo id operand) (h : a.nodes[id + 1]? = some ⟨.unary op id, p⟩) :
      Spans lo (id + 1) (.unary p op operand)
  | binary {lo l r : Nat} {p : Position} {op : Operator} {left right : Term}
      (hl : Spans lo l left) (hr : Spans (l + 1) r right)
      (h : a.nodes[r + 1]? = some ⟨.binary op l r, p⟩) :
      Spans lo (r + 1) (.binary p op left right)
  | predicate {lo l r : Nat} {p : Position} {op : Operator} {left right : Term}
      (hl : Spans lo l left) (hr : Spans (l + 1) r right)
      (h : a.nodes[r + 1]? = some ⟨.predicate op l r, p⟩) :
      Spans lo (r + 1) (.predicate p op left right)
  | inList {lo o id : Nat} {ids : List Nat} {p : Position} {operand : Term} {items : List Term}
      {negated exact : Bool} (ho : Spans lo o operand)
      (hs : Consecutive Spans (o + 1) ids id items)
      (h : a.nodes[id]? = some ⟨.inList o ids negated exact, p⟩) :
      Spans lo id (.inList p operand items negated exact)
  | isNull {lo id : Nat} {p : Position} {operand : Term} {negated : Bool}
      (ho : Spans lo id operand) (h : a.nodes[id + 1]? = some ⟨.isNull id negated, p⟩) :
      Spans lo (id + 1) (.isNull p operand negated)
  | not {lo id : Nat} {p : Position} {operand : Term} (ho : Spans lo id operand)
      (h : a.nodes[id + 1]? = some ⟨.not id, p⟩) : Spans lo (id + 1) (.not p operand)
  | logical {lo l r : Nat} {p : Position} {op : Operator} {left right : Term}
      (hl : Spans lo l left) (hr : Spans (l + 1) r right)
      (h : a.nodes[r + 1]? = some ⟨.logical op l r, p⟩) :
      Spans lo (r + 1) (.logical p op left right)

/-- The nodes of a statement have the numbers from `lo` to `id`, and `id` is its own. -/
inductive SpansStatement : Nat → Nat → Statement → Prop where
  | identifier {id : Nat} {p : Position} {i : Identifier}
      (h : a.nodes[id]? = some ⟨.identifierStatement i, p⟩) :
      SpansStatement id id (.identifier p i)
  | filter {lo id : Nat} {p : Position} {clause : FilterClause} {condition : Term}
      (hc : a.Spans lo id condition)
      (h : a.nodes[id + 1]? = some ⟨.filterStatement clause id, p⟩) :
      SpansStatement lo (id + 1) (.filter p clause condition)
  | expression {lo id : Nat} {p : Position} {e : Term} (he : a.Spans lo id e)
      (h : a.nodes[id + 1]? = some ⟨.expressionStatement id, p⟩) :
      SpansStatement lo (id + 1) (.expression p e)

/-- The arena holds a document and nothing else: its statements one after the other, and behind
them the root, which lists them. -/
def Holds (d : Document) : Prop :=
  ∃ ids, Consecutive a.SpansStatement 0 ids a.root d.statements ∧
    a.nodes[a.root]? = some ⟨.statementList ids, d.position⟩ ∧ a.nodes.size = a.root + 1

/-! ## Numbers in a layout -/

variable {a}

mutual

theorem Spans.le (t : Term) {lo id : Nat} (h : a.Spans lo id t) : lo ≤ id := by
  match t, h with
  | _, .literal _ | _, .column _ => exact Nat.le_refl _
  | .call _ _ arguments, .call hs _ => exact le_of_terms arguments hs
  | .unary _ _ operand, .unary ho _ => exact Nat.le_succ_of_le (Spans.le operand ho)
  | .isNull _ operand _, .isNull ho _ => exact Nat.le_succ_of_le (Spans.le operand ho)
  | .not _ operand, .not ho _ => exact Nat.le_succ_of_le (Spans.le operand ho)
  | .binary _ _ left right, .binary hl hr _ | .predicate _ _ left right, .predicate hl hr _
  | .logical _ _ left right, .logical hl hr _ =>
    have := Spans.le left hl
    have := Spans.le right hr
    omega
  | .inList _ operand items _ _, .inList ho hs _ =>
    have := Spans.le operand ho
    have := le_of_terms items hs
    omega

theorem le_of_terms (ts : List Term) {lo next : Nat} {ids : List Nat}
    (h : Consecutive a.Spans lo ids next ts) : lo ≤ next := by
  match ts, h with
  | [], .nil _ => exact Nat.le_refl _
  | t :: ts, .cons ht hs =>
    have := Spans.le t ht
    have := le_of_terms ts hs
    omega

end

theorem Consecutive.length_eq {α : Type} {spans : Nat → Nat → α → Prop} {lo next : Nat}
    {ids : List Nat} {xs : List α} (h : Consecutive spans lo ids next xs) :
    ids.length = xs.length := by
  induction h with
  | nil => rfl
  | cons _ _ ih => exact congrArg (· + 1) ih

theorem SpansStatement.le {lo id : Nat} {s : Statement} (h : a.SpansStatement lo id s) :
    lo ≤ id := by
  cases h with
  | identifier => exact Nat.le_refl _
  | filter hc => exact Nat.le_succ_of_le (Spans.le _ hc)
  | expression he => exact Nat.le_succ_of_le (Spans.le _ he)

theorem le_of_statements {lo next : Nat} {ids : List Nat} {list : List Statement}
    (h : Consecutive a.SpansStatement lo ids next list) : lo ≤ next := by
  induction h with
  | nil => exact Nat.le_refl _
  | cons hs _ ih => exact Nat.le_trans (Nat.le_succ_of_le hs.le) ih

/-- The first statements of a run take a run of their own. -/
theorem Consecutive.take {lo next : Nat} {ids : List Nat} {list : List Statement}
    (h : Consecutive a.SpansStatement lo ids next list) (k : Nat) :
    ∃ m, m ≤ next ∧ Consecutive a.SpansStatement lo (ids.take k) m (list.take k) := by
  induction h generalizing k with
  | nil lo =>
    rw [List.take_nil, List.take_nil]
    exact ⟨lo, Nat.le_refl lo, .nil lo⟩
  | @cons lo id next ids s list hs hall ih =>
    cases k with
    | zero => exact ⟨lo, le_of_statements (.cons hs hall), .nil lo⟩
    | succ k =>
      obtain ⟨m, hm, hfirst⟩ := ih k
      exact ⟨m, hm, .cons hs hfirst⟩

/-- The numbers of consecutive terms ascend and lie in the run that the terms take. -/
theorem Consecutive.bounds {lo next : Nat} {ids : List Nat} {ts : List Term}
    (h : Consecutive a.Spans lo ids next ts) :
    (∀ id ∈ ids, lo ≤ id ∧ id < next) ∧ ids.Pairwise (· < ·) := by
  induction h with
  | nil => exact ⟨nofun, .nil⟩
  | @cons lo id next ids t ts ht hs ih =>
    have hlo := Spans.le t ht
    have hnext := le_of_terms ts hs
    refine ⟨?_, List.pairwise_cons.mpr ⟨fun i hi => (ih.1 i hi).1, ih.2⟩⟩
    rw [List.forall_mem_cons]
    refine ⟨⟨hlo, hnext⟩, fun i hi => ⟨?_, (ih.1 i hi).2⟩⟩
    have := (ih.1 i hi).1
    omega

/-! ## Placing makes the layout -/

/-- The nodes placed so far stand at the front of the arena. -/
def Extends (a : Arena) (nodes : Array Placed) : Prop := ∃ more, a.nodes = nodes ++ more

theorem Extends.of_push {nodes : Array Placed} {node : Node} {p : Position}
    (h : a.Extends (push nodes node p).2) :
    a.Extends nodes ∧ a.nodes[nodes.size]? = some ⟨node, p⟩ := by
  obtain ⟨more, hmore⟩ := h
  -- the node stands right behind the nodes before it, whatever comes after
  have hnodes : a.nodes = nodes ++ (#[⟨node, p⟩] ++ more) := by
    rw [hmore, ← Array.append_assoc]
    rfl
  refine ⟨⟨_, hnodes⟩, ?_⟩
  rw [hnodes, Array.getElem?_append_right (Nat.le_refl _), Nat.sub_self,
    Array.getElem?_append_left Nat.one_pos]
  rfl

/-- What placing a thing has done, once it is in the arena: the nodes before are in the arena, the
thing takes the numbers behind them, and the next number is free. -/
structure Laid {α : Type} (spans : Nat → Nat → α → Prop) (a : Arena) (nodes : Array Placed)
    (placed : Nat × Array Placed) (x : α) : Prop where
  before : a.Extends nodes
  spans : spans nodes.size placed.1 x
  size : placed.2.size = placed.1 + 1

structure LaidAll {α : Type} (spans : Nat → Nat → α → Prop) (a : Arena) (nodes : Array Placed)
    (placed : List Nat × Array Placed) (xs : List α) : Prop where
  before : a.Extends nodes
  consecutive : Consecutive spans nodes.size placed.1 placed.2.size xs

/-- A node put behind the nodes of its children, whose last number is `id`. -/
theorem Laid.of_push {α : Type} {spans : Nat → Nat → α → Prop} {nodes placed : Array Placed}
    {id : Nat} {node : Node} {p : Position} {x : α} (hsize : placed.size = id + 1)
    (hbefore : a.Extends nodes) (h : a.Extends (push placed node p).2)
    (hspans : a.nodes[id + 1]? = some ⟨node, p⟩ → spans nodes.size (id + 1) x) :
    Laid spans a nodes (push placed node p) x := by
  have hnode := h.of_push.2
  rw [hsize] at hnode
  have hid : (push placed node p).1 = id + 1 := hsize
  refine ⟨hbefore, ?_, Array.size_push _⟩
  rw [hid]
  exact hspans hnode

mutual

theorem laid_placeTerm (nodes : Array Placed) (t : Term)
    (h : a.Extends (placeTerm nodes t).2) : Laid a.Spans a nodes (placeTerm nodes t) t := by
  match t with
  | .literal p l =>
    obtain ⟨hbefore, hnode⟩ := h.of_push
    exact ⟨hbefore, .literal hnode, nodes.size_push _⟩
  | .column p name =>
    obtain ⟨hbefore, hnode⟩ := h.of_push
    exact ⟨hbefore, .column hnode, nodes.size_push _⟩
  | .call p name arguments =>
    obtain ⟨hbefore, hnode⟩ := h.of_push
    have hs := laid_placeTerms nodes arguments hbefore
    exact ⟨hs.before, .call hs.consecutive hnode, Array.size_push _⟩
  | .unary p op operand =>
    have ho := laid_placeTerm nodes operand h.of_push.1
    exact .of_push ho.size ho.before h (.unary ho.spans)
  | .binary p op left right =>
    -- that the arena holds the nodes placed last says that it holds those placed before them
    have hr := laid_placeTerm (placeTerm nodes left).2 right h.of_push.1
    have hl := laid_placeTerm nodes left hr.before
    exact .of_push hr.size hl.before h (.binary hl.spans (hl.size ▸ hr.spans))
  | .predicate p op left right =>
    have hr := laid_placeTerm (placeTerm nodes left).2 right h.of_push.1
    have hl := laid_placeTerm nodes left hr.before
    exact .of_push hr.size hl.before h (.predicate hl.spans (hl.size ▸ hr.spans))
  | .inList p operand items negated exact =>
    obtain ⟨hbefore, hnode⟩ := h.of_push
    have hs := laid_placeTerms (placeTerm nodes operand).2 items hbefore
    have ho := laid_placeTerm nodes operand hs.before
    exact ⟨ho.before, .inList ho.spans (ho.size ▸ hs.consecutive) hnode, Array.size_push _⟩
  | .isNull p operand negated =>
    have ho := laid_placeTerm nodes operand h.of_push.1
    exact .of_push ho.size ho.before h (.isNull ho.spans)
  | .not p operand =>
    have ho := laid_placeTerm nodes operand h.of_push.1
    exact .of_push ho.size ho.before h (.not ho.spans)
  | .logical p op left right =>
    have hr := laid_placeTerm (placeTerm nodes left).2 right h.of_push.1
    have hl := laid_placeTerm nodes left hr.before
    exact .of_push hr.size hl.before h (.logical hl.spans (hl.size ▸ hr.spans))

theorem laid_placeTerms (nodes : Array Placed) (ts : List Term)
    (h : a.Extends (placeTerms nodes ts).2) : LaidAll a.Spans a nodes (placeTerms nodes ts) ts := by
  match ts with
  | [] => exact ⟨h, .nil _⟩
  | t :: ts =>
    have hs := laid_placeTerms (placeTerm nodes t).2 ts h
    have ht := laid_placeTerm nodes t hs.before
    exact ⟨ht.before, .cons ht.spans (ht.size ▸ hs.consecutive)⟩

end

theorem laid_placeStatement (nodes : Array Placed) (s : Statement)
    (h : a.Extends (placeStatement nodes s).2) :
    Laid a.SpansStatement a nodes (placeStatement nodes s) s := by
  cases s with
  | identifier p i =>
    obtain ⟨hbefore, hnode⟩ := h.of_push
    exact ⟨hbefore, .identifier hnode, nodes.size_push _⟩
  | filter p clause condition =>
    have hc := laid_placeTerm nodes condition h.of_push.1
    exact .of_push hc.size hc.before h (.filter hc.spans)
  | expression p e =>
    have he := laid_placeTerm nodes e h.of_push.1
    exact .of_push he.size he.before h (.expression he.spans)

theorem laid_placeStatements (nodes : Array Placed) (list : List Statement)
    (h : a.Extends (placeStatements nodes list).2) :
    LaidAll a.SpansStatement a nodes (placeStatements nodes list) list := by
  induction list generalizing nodes with
  | nil => exact ⟨h, .nil _⟩
  | cons s list ih =>
    have hs := ih (placeStatement nodes s).2 h
    have ht := laid_placeStatement nodes s hs.before
    exact ⟨ht.before, .cons ht.spans (ht.size ▸ hs.consecutive)⟩

/-- The arena that is made for a document holds it. -/
theorem holds_ofDocument (d : Document) : (ofDocument d).Holds d := by
  -- the arena consists of what has been placed, and nothing was added after the root
  have hextends : (ofDocument d).Extends
      (push (placeStatements #[] d.statements).2
        (.statementList (placeStatements #[] d.statements).1) d.position).2 :=
    ⟨#[], Array.append_empty.symm⟩
  obtain ⟨hbefore, hroot⟩ := hextends.of_push
  exact ⟨_, (laid_placeStatements #[] d.statements hbefore).consecutive, hroot, Array.size_push _⟩

end Arena

end RowFilter.Syntax
