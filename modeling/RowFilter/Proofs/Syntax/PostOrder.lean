import Mathlib.Data.List.Lattice
import Mathlib.Data.List.Nodup
import Mathlib.Data.List.Pairwise
import Mathlib.Logic.Relation
import RowFilter.Proofs.Binding.Simulation

/-!
The nodes of a document are a tree in post-order. A run of consecutive nodes is built up from
nothing, from runs put one behind the other, and from nodes that come behind all that is below them;
what holds of a run because of this is proved once for each of the three steps (`IsBuiltUp`).
-/

namespace RowFilter.Syntax

open Text (Position)

/-- The numbers of the nodes right below a node, in their order. -/
def Node.children : Node → List Nat
  | .statementList statements => statements
  | .filterStatement _ condition => [condition]
  | .expressionStatement e => [e]
  | node => Binding.parts node

/-- The event that says that a node is complete: for a statement its exit, for a term the exit of
its kind. The list of all statements has none. -/
def Node.completion? : Node → Option EventKind
  | .identifierStatement _ | .filterStatement .. | .expressionStatement _ => some .exitStatement
  | node => Binding.completion? node

theorem Node.children_of_completion {node : Node} {kind : EventKind}
    (h : Binding.completion? node = some kind) :
    node.children = Binding.parts node ∧ node.completion? = some kind := by
  cases node <;> cases h <;> exact ⟨rfl, rfl⟩

namespace Arena

/-- The numbers of the nodes right below the one with this number. -/
def childrenAt (a : Arena) (id : Nat) : List Nat :=
  match a.node? id with
  | some node => node.children
  | none => []

/-- The first node is the second one or somewhere below it. -/
def IsBelow (a : Arena) : Nat → Nat → Prop :=
  Relation.ReflTransGen fun child parent => child ∈ a.childrenAt parent

/-- The nodes of the arena are a tree, every node behind those below it and the root last. -/
structure IsPostOrdered (a : Arena) : Prop where
  root_last : a.nodes.size = a.root + 1
  root_lists : a.node? a.root = some (.statementList a.statements)
  /-- Every other node is below exactly one, once, and that one comes later. -/
  parent : ∀ id < a.root, ∃ parent, id < parent ∧ (∀ p, id ∈ a.childrenAt p ↔ p = parent) ∧
    (a.childrenAt parent).count id = 1

variable {a : Arena}

theorem node?_eq {node : Node} {p : Position} {id : Nat} (h : a.nodes[id]? = some ⟨node, p⟩) :
    a.node? id = some node := by
  rw [node?, h]
  rfl

theorem childrenAt_eq {node : Node} {p : Position} {id : Nat}
    (h : a.nodes[id]? = some ⟨node, p⟩) : a.childrenAt id = node.children := by
  rw [childrenAt, node?_eq h]

/-! ## Runs of nodes -/

/-- The property holds of a run from `lo` up to `next`, given the nodes in it that are not below
others, if it holds of no nodes, of runs one behind the other, and of a term behind its parts. -/
structure IsBuiltUp (a : Arena) (P : Nat → List Nat → Nat → Prop) : Prop where
  nil (lo : Nat) : P lo [] lo
  append {lo mid next : Nat} {tops tops' : List Nat} (h : P lo tops mid) (h' : P mid tops' next) :
    P lo (tops ++ tops') next
  term {lo id : Nat} {tops : List Nat} {node : Node} {p : Position} {kind : EventKind}
    (h : P lo tops id) (hnode : a.nodes[id]? = some ⟨node, p⟩)
    (hparts : Binding.parts node = tops) (hkind : Binding.completion? node = some kind) :
    P lo [id] (id + 1)

section

variable {P : Nat → List Nat → Nat → Prop} (hP : a.IsBuiltUp P)

include hP

mutual

theorem IsBuiltUp.of_spans (t : Term) {lo id : Nat} (h : a.Spans lo id t) : P lo [id] (id + 1) := by
  match t, h with
  | .literal .., .literal hnode | .column .., .column hnode =>
    exact hP.term (hP.nil lo) hnode rfl rfl
  | .call _ _ arguments, .call hs hnode => exact hP.term (of_terms arguments hs) hnode rfl rfl
  | .unary _ _ operand, .unary ho hnode | .not _ operand, .not ho hnode
  | .isNull _ operand _, .isNull ho hnode => exact hP.term (of_spans operand ho) hnode rfl rfl
  | .binary _ _ left right, .binary hl hr hnode
  | .predicate _ _ left right, .predicate hl hr hnode
  | .logical _ _ left right, .logical hl hr hnode =>
    exact hP.term (hP.append (of_spans left hl) (of_spans right hr)) hnode rfl rfl
  | .inList _ operand items _ _, .inList ho hs hnode =>
    exact hP.term (hP.append (of_spans operand ho) (of_terms items hs)) hnode rfl rfl

theorem IsBuiltUp.of_terms (ts : List Term) {lo next : Nat} {ids : List Nat}
    (h : Consecutive a.Spans lo ids next ts) : P lo ids next := by
  match ts, h with
  | [], .nil _ => exact hP.nil lo
  | t :: ts, .cons ht hs => exact hP.append (of_spans t ht) (of_terms ts hs)

end

end

/-- The nodes from `lo` up to `next` are below one another, except for `tops`, which are below none
of them. -/
structure IsForest (a : Arena) (lo : Nat) (tops : List Nat) (next : Nat) : Prop where
  le : lo ≤ next
  /-- Nodes have those below them before them, and in the run. -/
  before : ∀ id, lo ≤ id → id < next → ∀ child ∈ a.childrenAt id, lo ≤ child ∧ child < id
  /-- Each node of the run is at the top or below one node, once. -/
  perm : (tops ++ (List.range' lo (next - lo)).flatMap a.childrenAt).Perm
    (List.range' lo (next - lo))

namespace IsForest

variable {lo mid next : Nat} {tops tops' : List Nat}

theorem nil (lo : Nat) : a.IsForest lo [] lo where
  le := Nat.le_refl lo
  before id hlo hid := absurd hid (Nat.not_lt.mpr hlo)
  perm := by rw [Nat.sub_self]; exact .nil

/-- The numbers of two runs one behind the other. -/
theorem range'_append_of_le (h : lo ≤ mid) (h' : mid ≤ next) :
    List.range' lo (next - lo) = List.range' lo (mid - lo) ++ List.range' mid (next - mid) := by
  have hmid : List.range' mid (next - mid) = List.range' (lo + (mid - lo)) (next - mid) := by
    rw [Nat.add_sub_cancel' h]
  have hlength : next - lo = mid - lo + (next - mid) := by omega
  rw [hmid, List.range'_append_1, hlength]

theorem append (h : a.IsForest lo tops mid) (h' : a.IsForest mid tops' next) :
    a.IsForest lo (tops ++ tops') next where
  le := Nat.le_trans h.le h'.le
  before id hlo hid child hchild := by
    rcases Nat.lt_or_ge id mid with hlt | hge
    · exact h.before id hlo hlt child hchild
    · obtain ⟨hmid, hlt⟩ := h'.before id hge hid child hchild
      exact ⟨Nat.le_trans h.le hmid, hlt⟩
  perm := by
    rw [range'_append_of_le h.le h'.le, List.flatMap_append]
    -- both runs keep their own nodes, only the tops come first
    refine List.Perm.trans ?_ (h.perm.append h'.perm)
    rw [List.append_assoc, List.append_assoc]
    exact List.Perm.append_left tops (by
      rw [← List.append_assoc, ← List.append_assoc]
      exact List.Perm.append_right _ List.perm_append_comm)

/-- A node behind the run whose tops are right below it. -/
theorem node {node : Node} {p : Position} {id : Nat} (h : a.IsForest lo tops id)
    (hnode : a.nodes[id]? = some ⟨node, p⟩) (hchildren : node.children = tops) :
    a.IsForest lo [id] (id + 1) where
  le := Nat.le_succ_of_le h.le
  before i hlo hi child hchild := by
    rcases Nat.lt_succ_iff_lt_or_eq.mp hi with hlt | rfl
    · exact h.before i hlo hlt child hchild
    · rw [childrenAt_eq hnode, hchildren] at hchild
      have hmem := h.perm.mem_iff.mp (List.mem_append_left _ hchild)
      have hle := h.le
      rw [List.mem_range'_1] at hmem
      omega
  perm := by
    have hlength : id + 1 - lo = id - lo + 1 := by have := h.le; omega
    have hlast : lo + 1 * (id - lo) = id := by have := h.le; omega
    rw [hlength, List.range'_concat, hlast, List.flatMap_append, List.flatMap_singleton,
      childrenAt_eq hnode, hchildren]
    refine List.Perm.trans ?_ List.perm_append_comm
    exact List.Perm.append_left [id] (List.perm_append_comm.trans h.perm)

theorem isBuiltUp (a : Arena) : a.IsBuiltUp a.IsForest where
  nil := nil
  append := append
  term h hnode hparts hkind :=
    h.node hnode ((Node.children_of_completion hkind).1.trans hparts)

theorem of_statement {id : Nat} {s : Statement} (h : a.SpansStatement lo id s) :
    a.IsForest lo [id] (id + 1) := by
  cases h with
  | identifier hnode => exact (nil lo).node hnode rfl
  | filter hc hnode => exact ((isBuiltUp a).of_spans _ hc).node hnode rfl
  | expression he hnode => exact ((isBuiltUp a).of_spans _ he).node hnode rfl

theorem of_statements {ids : List Nat} {list : List Statement}
    (h : Consecutive a.SpansStatement lo ids next list) : a.IsForest lo ids next := by
  induction h with
  | nil lo => exact nil lo
  | cons hs _ ih => exact (of_statement hs).append ih

/-- What is below a node of the run lies in the run. -/
theorem le_of_isBelow (h : a.IsForest lo tops next) {i id : Nat} (hbelow : a.IsBelow i id)
    (hlo : lo ≤ id) (hid : id < next) : lo ≤ i ∧ i ≤ id := by
  induction hbelow using Relation.ReflTransGen.head_induction_on with
  | refl => exact ⟨hlo, Nat.le_refl id⟩
  | @head i c hchild _ ih =>
    obtain ⟨hc, hcid⟩ := ih
    obtain ⟨hi, hic⟩ := h.before c hc (Nat.lt_of_le_of_lt hcid hid) i hchild
    exact ⟨hi, Nat.le_trans (Nat.le_of_lt hic) hcid⟩

/-- In a run from zero on with a single top, every other node is right below one node only. -/
theorem exists_parent {root : Nat} (h : a.IsForest 0 [root] (root + 1))
    (hsize : a.nodes.size = root + 1) {id : Nat} (hid : id < root) :
    ∃ parent, id < parent ∧ (∀ p, id ∈ a.childrenAt p ↔ p = parent) ∧
      (a.childrenAt parent).count id = 1 := by
  have hperm := h.perm
  rw [Nat.sub_zero, ← List.range_eq_range', List.singleton_append] at hperm
  -- no number is below two nodes, or twice below one
  have hnodup := (List.nodup_cons.mp (hperm.nodup_iff.mpr List.nodup_range)).2
  obtain ⟨honce, hdisjoint⟩ := List.nodup_flatMap.mp hnodup
  have hmem : id ∈ (List.range (root + 1)).flatMap a.childrenAt := by
    have hrange := hperm.mem_iff.mpr (List.mem_range.mpr (Nat.lt_succ_of_lt hid))
    exact (List.mem_cons.mp hrange).resolve_left (Nat.ne_of_lt hid)
  obtain ⟨parent, hparent, hchild⟩ := List.mem_flatMap.mp hmem
  have hlt := List.mem_range.mp hparent
  refine ⟨parent, (h.before parent (Nat.zero_le _) hlt id hchild).2, fun p => ⟨fun hp => ?_, ?_⟩,
    List.count_eq_one_of_mem (honce parent hparent) hchild⟩
  · by_contra hne
    -- behind the last node there is none
    have hlast : p < root + 1 := by
      by_contra hge
      have hnone : a.nodes[p]? = none := Array.getElem?_eq_none (by omega)
      rw [childrenAt, node?, hnone] at hp
      exact absurd hp List.not_mem_nil
    have : Std.Symm (Function.onFun List.Disjoint a.childrenAt) :=
      ⟨fun _ _ h => List.Disjoint.symm h⟩
    exact hdisjoint.forall (List.mem_range.mpr hlast) hparent hne hp hchild
  · rintro rfl
    exact hchild

end IsForest

/-- An arena that holds a document is a tree in post-order. -/
theorem Holds.isPostOrdered {d : Document} (h : a.Holds d) : a.IsPostOrdered := by
  obtain ⟨ids, hids, hroot, hsize⟩ := h
  have hforest : a.IsForest 0 ids a.root := .of_statements hids
  refine ⟨hsize, ?_, fun id hid => (hforest.node hroot rfl).exists_parent hsize hid⟩
  rw [node?_eq hroot, Arena.Holds.statements hroot]

end Arena

end RowFilter.Syntax
