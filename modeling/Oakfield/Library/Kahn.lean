import Mathlib.Data.Fintype.Card
import Mathlib.Data.List.Perm.Subperm
import Mathlib.Data.List.Nodup
import Mathlib.Data.Set.Finite.List
import Mathlib.Logic.Relation
import Mathlib.Order.WellFounded
import Mathlib.Tactic.ByContra
import Mathlib.Tactic.Set

/-! Topological sorting with a first-in first-out queue of ready nodes. The
graph is a list of edges with multiplicity; the loop sees it only through the
number of incoming edges and the successor lists. -/
namespace Library.Kahn

variable {α : Type*} [DecidableEq α]

/-- Counters, ready queue and emitted order of the sorting loop. -/
structure State (α : Type*) where
  indegree : α → ℕ
  queue : List α
  order : List α

/-- Consume one edge into `v`. A counter that is already zero is left alone;
one that drops to zero makes its node ready. -/
def State.relax (s : State α) (v : α) : State α :=
  if s.indegree v = 0 then s
  else
    let indegree := Function.update s.indegree v (s.indegree v - 1)
    if indegree v = 0 then { s with indegree := indegree, queue := s.queue ++ [v] }
    else { s with indegree := indegree }

/-- Emit ready nodes until the queue is empty or the fuel is spent. -/
def loop (succs : α → List α) : ℕ → State α → State α
  | 0, s => s
  | fuel + 1, s =>
      match s.queue with
      | [] => s
      | node :: rest =>
          loop succs fuel
            ((succs node).foldl State.relax { s with queue := rest, order := s.order ++ [node] })

/-- Edges into `v` whose source has not been emitted. -/
def pending (edges : List (α × α)) (order : List α) (v : α) : ℕ :=
  edges.countP fun e => e.2 = v ∧ e.1 ∉ order

/-- The loop invariant. `todo` holds the successors of the node emitted last
which are still to be relaxed. -/
structure Inv (edges : List (α × α)) (nodes todo : List α) (s : State α) : Prop where
  nodup : (s.order ++ s.queue).Nodup
  mem : ∀ v ∈ s.order ++ s.queue, v ∈ nodes
  todo_mem : ∀ v ∈ todo, v ∈ nodes
  count : ∀ v, s.indegree v = pending edges s.order v + todo.count v
  ready : ∀ v ∈ nodes, v ∈ s.order ++ s.queue ↔ s.indegree v = 0
  sorted : ∀ e ∈ edges, e.2 ∈ s.order →
    e.1 ∈ s.order ∧ s.order.idxOf e.1 < s.order.idxOf e.2

/-- The successor lists agree with the edges, multiplicities included. -/
def SuccsOf (edges : List (α × α)) (succs : α → List α) : Prop :=
  ∀ u v, (succs u).count v = edges.countP fun e => e.1 = u ∧ e.2 = v

theorem mem_of_mem_succs {edges : List (α × α)} {succs : α → List α}
    (hSuccs : SuccsOf edges succs) {u v : α} (hMem : v ∈ succs u) : (u, v) ∈ edges := by
  have hCount : 0 < edges.countP fun e => e.1 = u ∧ e.2 = v := by
    rw [← hSuccs u v]
    exact List.count_pos_iff.mpr hMem
  obtain ⟨⟨a, b⟩, hEdge, hEq⟩ := List.countP_pos_iff.mp hCount
  simp only [decide_eq_true_eq] at hEq
  rwa [hEq.1, hEq.2] at hEdge

/-- Emitting `u` turns its pending outgoing edges into edges to relax. -/
theorem pending_emit (edges : List (α × α)) {order : List α} {u : α} (hNew : u ∉ order) (v : α) :
    pending edges order v =
      pending edges (order ++ [u]) v + edges.countP (fun e => e.1 = u ∧ e.2 = v) := by
  induction edges with
  | nil => simp [pending]
  | cons e edges ih =>
      simp only [pending, List.countP_cons] at ih ⊢
      rw [ih]
      by_cases hTarget : e.2 = v
      · by_cases hSource : e.1 = u
        · have hOld : e.1 ∉ order := hSource ▸ hNew
          simp [hTarget, hSource, hNew]
          omega
        · by_cases hOld : e.1 ∈ order
          · simp [hTarget, hSource, hOld]
          · simp [hTarget, hSource, hOld]
            omega
      · simp [hTarget]

/-- Relaxing one edge consumes it from the edges to relax. -/
theorem Inv.relax {edges : List (α × α)} {nodes todo : List α} {s : State α} {v : α}
    (hInv : Inv edges nodes (v :: todo) s) : Inv edges nodes todo (s.relax v) := by
  have hPos : s.indegree v ≠ 0 := by
    rw [hInv.count v]
    simp
  have hNode : v ∈ nodes := hInv.todo_mem v (by simp)
  have hFresh : v ∉ s.order ++ s.queue := fun h => hPos ((hInv.ready v hNode).mp h)
  have hCount : ∀ w, Function.update s.indegree v (s.indegree v - 1) w =
      pending edges s.order w + todo.count w := by
    intro w
    have hOld := hInv.count w
    by_cases hEq : w = v
    · subst hEq
      rw [Function.update_self]
      simp only [List.count_cons_self] at hOld
      omega
    · rw [Function.update_of_ne hEq, hOld, List.count_cons_of_ne (Ne.symm hEq)]
  have hTodo : ∀ w ∈ todo, w ∈ nodes := fun w h => hInv.todo_mem w (List.mem_cons_of_mem _ h)
  have hOther : ∀ w, w ≠ v →
      (Function.update s.indegree v (s.indegree v - 1) w = 0 ↔ s.indegree w = 0) := by
    intro w hNe
    rw [Function.update_of_ne hNe]
  unfold State.relax
  rw [if_neg hPos]
  dsimp only
  split
  case isTrue hZero =>
    refine ⟨?_, ?_, hTodo, hCount, ?_, hInv.sorted⟩
    · rw [← List.append_assoc]
      exact List.nodup_append.mpr ⟨hInv.nodup, by simp, by
        intro a hA b hB hAB
        rw [List.mem_singleton] at hB
        subst hAB hB
        exact hFresh hA⟩
    · intro w hMem
      rw [← List.append_assoc, List.mem_append, List.mem_singleton] at hMem
      rcases hMem with hMem | rfl
      · exact hInv.mem w hMem
      · exact hNode
    · intro w hW
      rw [← List.append_assoc, List.mem_append, List.mem_singleton]
      by_cases hEq : w = v
      · rw [hEq]
        exact ⟨fun _ => hZero, fun _ => Or.inr rfl⟩
      · rw [hInv.ready w hW, ← hOther w hEq]
        exact ⟨fun h => h.resolve_right hEq, Or.inl⟩
  case isFalse hNonzero =>
    refine ⟨hInv.nodup, hInv.mem, hTodo, hCount, ?_, hInv.sorted⟩
    intro w hW
    by_cases hEq : w = v
    · subst hEq
      exact ⟨fun h => absurd h hFresh, fun h => absurd h hNonzero⟩
    · rw [hInv.ready w hW, ← hOther w hEq]

theorem Inv.foldl_relax {edges : List (α × α)} {nodes todo : List α} {s : State α}
    (hInv : Inv edges nodes todo s) : Inv edges nodes [] (todo.foldl State.relax s) := by
  induction todo generalizing s with
  | nil => exact hInv
  | cons v todo ih => exact ih hInv.relax

/-- Emitting the head of the queue opens its successor list for relaxation.
Every edge into the emitted node starts at a node emitted before it. -/
theorem Inv.emit {edges : List (α × α)} {nodes : List α} {succs : α → List α} {s : State α}
    (hSuccs : SuccsOf edges succs) (hEdges : ∀ e ∈ edges, e.1 ∈ nodes ∧ e.2 ∈ nodes)
    (hInv : Inv edges nodes [] s) {node : α} {rest : List α} (hQueue : s.queue = node :: rest) :
    Inv edges nodes (succs node) { s with queue := rest, order := s.order ++ [node] } := by
  have hNode : node ∈ nodes := hInv.mem node (by simp [hQueue])
  have hZero : s.indegree node = 0 := (hInv.ready node hNode).mp (by simp [hQueue])
  have hNodup : (s.order ++ node :: rest).Nodup := hQueue ▸ hInv.nodup
  have hNew : node ∉ s.order := by
    intro hMem
    exact (List.nodup_append.mp hNodup).2.2 node hMem node (by simp) rfl
  have hPending : pending edges s.order node = 0 := by
    have := hInv.count node
    omega
  have hPreds : ∀ e ∈ edges, e.2 = node → e.1 ∈ s.order := by
    intro e hMem hTarget
    by_contra hOut
    have := List.countP_eq_zero.mp hPending e hMem
    simp [hTarget, hOut] at this
  have hSplit : (s.order ++ [node]) ++ rest = s.order ++ s.queue := by simp [hQueue]
  refine ⟨hSplit ▸ hInv.nodup, hSplit ▸ hInv.mem, ?_, ?_, ?_, ?_⟩
  · intro v hMem
    exact (hEdges _ (mem_of_mem_succs hSuccs hMem)).2
  · intro v
    rw [hSuccs node v, ← pending_emit edges hNew v]
    simpa using hInv.count v
  · intro v hV
    change v ∈ (s.order ++ [node]) ++ rest ↔ _
    rw [hSplit]
    exact hInv.ready v hV
  · intro e hMem hTarget
    rw [List.mem_append, List.mem_singleton] at hTarget
    rcases hTarget with hOld | hLast
    · obtain ⟨hSource, hLt⟩ := hInv.sorted e hMem hOld
      refine ⟨by simp [hSource], ?_⟩
      rwa [List.idxOf_append_of_mem hSource, List.idxOf_append_of_mem hOld]
    · have hSource := hPreds e hMem hLast
      refine ⟨by simp [hSource], ?_⟩
      rw [hLast, List.idxOf_append_of_mem hSource, List.idxOf_append_of_notMem hNew]
      exact Nat.lt_of_lt_of_le (List.idxOf_lt_length_of_mem hSource) (by simp)

theorem Inv.loop {edges : List (α × α)} {nodes : List α} {succs : α → List α}
    (hSuccs : SuccsOf edges succs) (hEdges : ∀ e ∈ edges, e.1 ∈ nodes ∧ e.2 ∈ nodes)
    (fuel : ℕ) {s : State α} (hInv : Inv edges nodes [] s) :
    Inv edges nodes [] (loop succs fuel s) := by
  induction fuel generalizing s with
  | zero => exact hInv
  | succ fuel ih =>
      cases hQueue : s.queue with
      | nil => simpa only [Kahn.loop, hQueue] using hInv
      | cons node rest =>
          simp only [Kahn.loop, hQueue]
          exact ih (hInv.emit hSuccs hEdges hQueue).foldl_relax

/-- Emitted and queued nodes are distinct nodes of the graph. -/
theorem Inv.length_le {edges : List (α × α)} {nodes todo : List α} {s : State α}
    (hInv : Inv edges nodes todo s) : s.order.length + s.queue.length ≤ nodes.length := by
  rw [← List.length_append]
  exact (hInv.nodup.subperm fun v h => hInv.mem v h).length_le

@[simp]
theorem State.relax_order (s : State α) (v : α) : (s.relax v).order = s.order := by
  unfold State.relax
  dsimp only
  split
  · rfl
  · split <;> rfl

theorem State.foldl_relax_order (s : State α) (todo : List α) :
    (todo.foldl State.relax s).order = s.order := by
  induction todo generalizing s with
  | nil => rfl
  | cons v todo ih => rw [List.foldl_cons, ih, State.relax_order]

/-- One unit of fuel for each node empties the queue, so the bound on the
number of iterations never cuts a run short. -/
theorem loop_queue_eq_nil {edges : List (α × α)} {nodes : List α} {succs : α → List α}
    (hSuccs : SuccsOf edges succs) (hEdges : ∀ e ∈ edges, e.1 ∈ nodes ∧ e.2 ∈ nodes)
    (fuel : ℕ) {s : State α} (hInv : Inv edges nodes [] s)
    (hFuel : nodes.length ≤ fuel + s.order.length) : (loop succs fuel s).queue = [] := by
  induction fuel generalizing s with
  | zero =>
      have := hInv.length_le
      exact List.length_eq_zero_iff.mp (by simp only [Kahn.loop]; omega)
  | succ fuel ih =>
      cases hQueue : s.queue with
      | nil => simp only [Kahn.loop, hQueue]
      | cons node rest =>
          simp only [Kahn.loop, hQueue]
          refine ih (hInv.emit hSuccs hEdges hQueue).foldl_relax ?_
          rw [State.foldl_relax_order]
          simp only [List.length_append, List.length_cons, List.length_nil]
          omega

/-- The state before the first iteration: nothing emitted, exact counters and
a queue of the nodes without incoming edges. -/
theorem Inv.init {edges : List (α × α)} {nodes : List α} {indegree : α → ℕ}
    (hNodes : nodes.Nodup) (hCount : ∀ v, indegree v = edges.countP fun e => e.2 = v) :
    Inv edges nodes [] ⟨indegree, nodes.filter (indegree · = 0), []⟩ := by
  refine ⟨?_, ?_, by simp, ?_, ?_, by simp⟩
  · rw [List.nil_append]
    exact hNodes.filter _
  · intro v hMem
    rw [List.nil_append] at hMem
    exact List.mem_of_mem_filter hMem
  · intro v
    simp [hCount, pending]
  · intro v hV
    simp [hV]

/-- A run which emits as many nodes as there are emits each of them once. -/
theorem Inv.order_perm {edges : List (α × α)} {nodes : List α} {s : State α}
    (hInv : Inv edges nodes [] s) (hLength : s.order.length = nodes.length) :
    s.order.Perm nodes := by
  have hNodup : s.order.Nodup := (List.nodup_append.mp hInv.nodup).1
  have hSub : s.order.Subperm nodes :=
    hNodup.subperm fun v h => hInv.mem v (List.mem_append_left _ h)
  exact hSub.perm_of_length_le (Nat.le_of_eq hLength.symm)

/-- Precedence in a list, by position. -/
def Before (order : List α) (u v : α) : Prop := order.idxOf u < order.idxOf v

instance (order : List α) (u v : α) : Decidable (Before order u v) :=
  inferInstanceAs (Decidable (_ < _))

theorem Before.trans {order : List α} {u v w : α} (hUV : Before order u v)
    (hVW : Before order v w) : Before order u w := Nat.lt_trans hUV hVW

/-- A complete order respects every path of the graph, not only its edges. -/
theorem Inv.before_of_transGen {edges : List (α × α)} {nodes : List α} {s : State α}
    (hInv : Inv edges nodes [] s) (hPerm : s.order.Perm nodes)
    (hEdges : ∀ e ∈ edges, e.1 ∈ nodes ∧ e.2 ∈ nodes) {u v : α}
    (hPath : Relation.TransGen (fun a b => (a, b) ∈ edges) u v) : Before s.order u v := by
  have hEdge : ∀ a b, (a, b) ∈ edges → Before s.order a b := fun a b hMem =>
    (hInv.sorted (a, b) hMem (hPerm.mem_iff.mpr (hEdges _ hMem).2)).2
  induction hPath with
  | single hMem => exact hEdge _ _ hMem
  | tail _ hMem ih => exact ih.trans (hEdge _ _ hMem)

/-! ### Cycles -/

/-- With an empty queue, a node left over has a predecessor left over. -/
theorem Inv.exists_source {edges : List (α × α)} {nodes : List α} {s : State α}
    (hInv : Inv edges nodes [] s) (hQueue : s.queue = []) {v : α} (hV : v ∈ nodes)
    (hOut : v ∉ s.order) : ∃ u, (u, v) ∈ edges ∧ u ∉ s.order := by
  have hPositive : s.indegree v ≠ 0 := by
    intro hZero
    have hMem := (hInv.ready v hV).mpr hZero
    rw [hQueue, List.append_nil] at hMem
    exact hOut hMem
  rw [hInv.count v, List.count_nil, Nat.add_zero] at hPositive
  obtain ⟨⟨u, w⟩, hEdge, hPending⟩ := List.countP_pos_iff.mp (Nat.pos_of_ne_zero hPositive)
  simp only [decide_eq_true_eq] at hPending
  obtain ⟨rfl, hSource⟩ := hPending
  exact ⟨u, hEdge, hSource⟩

/-- Nodes left over by a finished run hold a cycle. -/
theorem Inv.exists_cycle {edges : List (α × α)} {nodes : List α} {s : State α}
    (hInv : Inv edges nodes [] s) (hQueue : s.queue = [])
    (hEdges : ∀ e ∈ edges, e.1 ∈ nodes ∧ e.2 ∈ nodes) {v : α} (hV : v ∈ nodes)
    (hOut : v ∉ s.order) : ∃ u, Relation.TransGen (fun a b => (a, b) ∈ edges) u u := by
  by_contra hAcyclic
  rw [not_exists] at hAcyclic
  let Left := {u // u ∈ nodes ∧ u ∉ s.order}
  have hFinite : Finite Left := (List.finite_toSet nodes).subset fun u h => h.1
  let path : Left → Left → Prop := fun a b => Relation.TransGen (fun a b => (a, b) ∈ edges) a b
  have hTrans : IsTrans Left path := ⟨fun _ _ _ => Relation.TransGen.trans⟩
  have hIrrefl : Std.Irrefl path := ⟨fun u => hAcyclic u⟩
  have hWellFounded : WellFounded path := Finite.wellFounded_of_trans_of_irrefl path
  obtain ⟨least, -, hLeast⟩ := hWellFounded.has_min Set.univ ⟨⟨v, hV, hOut⟩, trivial⟩
  obtain ⟨u, hEdge, hSource⟩ := hInv.exists_source hQueue least.2.1 least.2.2
  exact hLeast ⟨u, (hEdges _ hEdge).1, hSource⟩ trivial (Relation.TransGen.single hEdge)

/-- A finished run emits all nodes exactly if there is no cycle. -/
theorem Inv.length_eq_iff {edges : List (α × α)} {nodes : List α} {s : State α}
    (hInv : Inv edges nodes [] s) (hQueue : s.queue = []) (hNodes : nodes.Nodup)
    (hEdges : ∀ e ∈ edges, e.1 ∈ nodes ∧ e.2 ∈ nodes) :
    s.order.length = nodes.length ↔ ∀ v, ¬Relation.TransGen (fun a b => (a, b) ∈ edges) v v := by
  constructor
  · intro hLength v hCycle
    exact Nat.lt_irrefl _ (hInv.before_of_transGen (hInv.order_perm hLength) hEdges hCycle)
  · intro hAcyclic
    have hAll : ∀ v ∈ nodes, v ∈ s.order := by
      intro v hV
      by_contra hOut
      obtain ⟨u, hCycle⟩ := hInv.exists_cycle hQueue hEdges hV hOut
      exact hAcyclic u hCycle
    apply Nat.le_antisymm
    · exact Nat.le_trans (Nat.le_add_right _ _) hInv.length_le
    · exact (hNodes.subperm hAll).length_le

/-! ### Positions in the queue

In an array, the queue occupies the positions behind those of the emitted
nodes. -/

/-- The first position behind the queue. -/
def State.tail (s : State α) : ℕ := s.order.length + s.queue.length

/-- Positions written while edges into the given nodes are consumed. -/
def relaxWrites : List α → State α → List ℕ
  | [], _ => []
  | v :: todo, s =>
      if s.indegree v = 1 then s.tail :: relaxWrites todo (s.relax v)
      else relaxWrites todo (s.relax v)

/-- Positions of the queue written by the loop. -/
def loopWrites (succs : α → List α) : ℕ → State α → List ℕ
  | 0, _ => []
  | fuel + 1, s =>
      match s.queue with
      | [] => []
      | node :: rest =>
          let s := { s with queue := rest, order := s.order ++ [node] }
          relaxWrites (succs node) s ++ loopWrites succs fuel ((succs node).foldl State.relax s)

theorem State.tail_relax {s : State α} {v : α} (hLast : s.indegree v = 1) :
    (s.relax v).tail = s.tail + 1 := by
  unfold State.relax
  rw [if_neg (by omega)]
  dsimp only
  rw [if_pos (by rw [Function.update_self, hLast])]
  simp only [State.tail, List.length_append, List.length_singleton]
  omega

theorem Inv.relaxWrites {edges : List (α × α)} {nodes todo : List α} {s : State α}
    (hInv : Inv edges nodes todo s) : ∀ position ∈ relaxWrites todo s, position < nodes.length := by
  induction todo generalizing s with
  | nil => exact fun _ hMem => absurd hMem List.not_mem_nil
  | cons v todo ih =>
      rw [Kahn.relaxWrites]
      split
      case isTrue hLast =>
        intro position hMem
        rcases List.mem_cons.mp hMem with rfl | hMem
        · have hTail : (s.relax v).tail ≤ nodes.length := hInv.relax.length_le
          rw [State.tail_relax hLast] at hTail
          exact hTail
        · exact ih hInv.relax position hMem
      case isFalse => exact ih hInv.relax

/-- The queue never outgrows the number of nodes. -/
theorem Inv.loopWrites {edges : List (α × α)} {nodes : List α} {succs : α → List α}
    (hSuccs : SuccsOf edges succs) (hEdges : ∀ e ∈ edges, e.1 ∈ nodes ∧ e.2 ∈ nodes)
    (fuel : ℕ) {s : State α} (hInv : Inv edges nodes [] s) :
    ∀ position ∈ loopWrites succs fuel s, position < nodes.length := by
  induction fuel generalizing s with
  | zero => exact fun _ hMem => absurd hMem List.not_mem_nil
  | succ fuel ih =>
      intro position hMem
      rw [Kahn.loopWrites] at hMem
      cases hQueue : s.queue with
      | nil =>
          rw [hQueue] at hMem
          exact absurd hMem List.not_mem_nil
      | cons node rest =>
          rw [hQueue] at hMem
          have hEmit := hInv.emit hSuccs hEdges hQueue
          rcases List.mem_append.mp hMem with hMem | hMem
          · exact hEmit.relaxWrites position hMem
          · exact ih hEmit.foldl_relax position hMem

end Library.Kahn
