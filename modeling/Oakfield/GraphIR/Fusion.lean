import Oakfield.GraphIR.Graph
import Mathlib.Order.Monotone.Basic

/-! Where fusion moves the nodes of a graph: every node and every reference follows the
node into which it has been merged. -/
namespace Oakfield.GraphIR

open KernelIR Cpu

variable {D : Type}

/-! ### Where the nodes of a graph go -/

theorem renumber_eq (i id : ℕ) : renumber i id = if id ≤ i then id else id - 1 := by
  unfold renumber
  split_ifs <;> omega

theorem renumber_monotone (i : ℕ) : Monotone (renumber i) := by
  intro a b hLe
  rw [renumber_eq, renumber_eq]
  split_ifs <;> omega

/-- Node identifiers of a graph in the fused one: each denotes the node into which the
original one has been merged. -/
def fuseHome (raw : RawEqual D) : ℕ → ℕ → SimGraphIR D → ℕ → ℕ
  | 0, _, _ => id
  | fuel + 1, i, graph =>
      match graph.nodes[i]?, graph.nodes[i + 1]? with
      | some left, some right =>
          match mergedNode? raw left right with
          | none => fuseHome raw fuel (i + 1) graph
          | some merged => fun id => fuseHome raw fuel i (graph.merge i merged) (renumber i id)
      | _, _ => id

def SimGraphIR.home (raw : RawEqual D) (graph : SimGraphIR D) : ℕ → ℕ :=
  fuseHome raw graph.nodes.length 0 graph

/-- Every node of the graph is the first of the original nodes which have been merged into
it, with its reference renamed; references and edges follow the nodes. -/
structure FusedBy (home : ℕ → ℕ) (original graph : SimGraphIR D) : Prop where
  monotone : Monotone home
  lt_iff : ∀ id, home id < graph.nodes.length ↔ id < original.nodes.length
  edges : graph.edges = original.edges.map (·.rename home)
  node : ∀ k node, graph.nodes[k]? = some node →
    ∃ lead first, original.nodes[lead]? = some first ∧ home lead = k ∧
      (∀ id, home id = k → lead ≤ id) ∧ node.input = first.input.map home ∧
        node.output = first.output ∧ node.contract = first.contract

theorem SimGraphIRInputRef.map_map (inner outer : ℕ → ℕ) (input : SimGraphIRInputRef) :
    (input.map inner).map outer = input.map (outer ∘ inner) := by
  cases input <;> rfl

theorem FusedBy.refl (graph : SimGraphIR D) : FusedBy id graph graph where
  monotone := monotone_id
  lt_iff _ := Iff.rfl
  edges := by simp [SimGraphIREdge.rename]
  node k node hNode := by
    refine ⟨k, node, hNode, rfl, fun id hHome => hHome.ge, ?_, rfl, rfl⟩
    cases node.input <;> rfl

/-- A merged node keeps everything but its kernel. -/
theorem mergedNode?_spec {raw : RawEqual D} {left right merged : SimGraphIRNode D}
    (hMerged : mergedNode? raw left right = some merged) :
    merged.input = left.input ∧ merged.output = left.output ∧ merged.contract = left.contract := by
  unfold mergedNode? at hMerged
  split at hMerged
  case h_1 =>
    split at hMerged
    case isTrue =>
      cases hMerged
      exact ⟨rfl, rfl, rfl⟩
    case isFalse => cases hMerged
  case h_2 => cases hMerged

variable {original graph : SimGraphIR D} {home : ℕ → ℕ} {i : ℕ}

theorem merge_length (merged : SimGraphIRNode D) (hPair : i + 1 < graph.nodes.length) :
    (graph.merge i merged).nodes.length = graph.nodes.length - 1 := by
  rw [SimGraphIR.merge, List.length_map, List.length_eraseIdx_of_lt (by simpa using hPair),
    List.length_set]

theorem merge_node? (merged : SimGraphIRNode D) (hPair : i + 1 < graph.nodes.length) (k : ℕ) :
    (graph.merge i merged).nodes[k]? =
      (if k < i then graph.nodes[k]? else if k = i then some merged
        else graph.nodes[k + 1]?).map (·.rename (renumber i)) := by
  simp only [SimGraphIR.merge, List.getElem?_map, List.getElem?_eraseIdx, List.getElem?_set]
  congr 1
  split_ifs <;> first | rfl | omega

/-- One merge of neighbours. -/
theorem FusedBy.merge (hFused : FusedBy home original graph) {raw : RawEqual D}
    {left right merged : SimGraphIRNode D} (hLeft : graph.nodes[i]? = some left)
    (hRight : graph.nodes[i + 1]? = some right)
    (hMerged : mergedNode? raw left right = some merged) :
    FusedBy (renumber i ∘ home) original (graph.merge i merged) := by
  have hPair : i + 1 < graph.nodes.length := (List.getElem?_eq_some_iff.mp hRight).1
  constructor
  case monotone => exact (renumber_monotone i).comp hFused.monotone
  case lt_iff =>
    intro id
    rw [← hFused.lt_iff, merge_length merged hPair, Function.comp_apply, renumber_eq]
    split_ifs <;> omega
  case edges =>
    simp only [SimGraphIR.merge, hFused.edges, List.map_map]
    rfl
  case node =>
    intro k node hNode
    rw [merge_node? merged hPair] at hNode
    obtain ⟨old, hOld, rfl⟩ := Option.map_eq_some_iff.mp hNode
    -- The node of the graph before the merge from which this one comes.
    obtain ⟨source, found, hSource, hFound, hInput, hOutput, hContract⟩ :
        ∃ source found, (source = if k ≤ i then k else k + 1) ∧
          graph.nodes[source]? = some found ∧ old.input = found.input ∧
            old.output = found.output ∧ old.contract = found.contract := by
      by_cases hBelow : k < i
      case pos =>
        rw [if_pos hBelow] at hOld
        exact ⟨k, old, by rw [if_pos hBelow.le], hOld, rfl, rfl, rfl⟩
      case neg =>
        rw [if_neg hBelow] at hOld
        by_cases hHere : k = i
        case pos =>
          rw [if_pos hHere] at hOld
          cases hOld
          exact ⟨k, left, by rw [if_pos hHere.le], hHere ▸ hLeft, mergedNode?_spec hMerged⟩
        case neg =>
          rw [if_neg hHere] at hOld
          exact ⟨k + 1, old, by rw [if_neg (by omega)], hOld, rfl, rfl, rfl⟩
    obtain ⟨lead, first, hFirst, hHome, hLeast, hFirstInput, hFirstOutput, hFirstContract⟩ :=
      hFused.node source found hFound
    refine ⟨lead, first, hFirst, ?_, ?_, ?_, hOutput.trans hFirstOutput,
      hContract.trans hFirstContract⟩
    · rw [Function.comp_apply, hHome, renumber_eq, hSource]
      split_ifs <;> omega
    · intro id hId
      rw [Function.comp_apply, renumber_eq] at hId
      by_contra hBefore
      have hBelow := hFused.monotone (not_le.mp hBefore).le
      have hOther : home id ≠ source := fun hSame => hBefore (hLeast id hSame)
      rw [hHome] at hBelow
      split_ifs at hId hSource <;> omega
    · show (old.input.map (renumber i)) = _
      rw [hInput, hFirstInput, SimGraphIRInputRef.map_map]

/-- A run of the loop which ends without an error. -/
theorem fusedBy_fuseLoop {raw : RawEqual D} {allocate : ℕ → Bool} {fuel : ℕ} {code : Unit}
    {later : SimGraphIR D} (hFused : FusedBy home original graph)
    (hRun : fuseLoop raw allocate fuel i graph = (later, .ok code)) :
    FusedBy (fuseHome raw fuel i graph ∘ home) original later := by
  induction fuel generalizing i graph home with
  | zero =>
      cases hRun
      exact hFused
  | succ fuel ih =>
      rw [fuseLoop] at hRun
      rw [fuseHome]
      cases hLeft : graph.nodes[i]? with
      | none =>
          simp only [hLeft] at hRun ⊢
          cases hRun
          exact hFused
      | some left =>
          cases hRight : graph.nodes[i + 1]? with
          | none =>
              simp only [hLeft, hRight] at hRun ⊢
              cases hRun
              exact hFused
          | some right =>
              cases hMerged : mergedNode? raw left right with
              | none =>
                  simp only [hLeft, hRight, hMerged] at hRun ⊢
                  exact ih hFused hRun
              | some merged =>
                  simp only [hLeft, hRight, hMerged] at hRun ⊢
                  split at hRun
                  case isTrue => cases hRun
                  case isFalse => exact ih (hFused.merge hLeft hRight hMerged) hRun

/-- Fusion moves every identifier to the node which contains the original one. -/
theorem fusedBy_simGraphIrFusePointwise {raw : RawEqual D} {allocate : ℕ → Bool} {code : Unit}
    {graph later : SimGraphIR D}
    (hRun : simGraphIrFusePointwise raw allocate graph = (later, .ok code)) :
    FusedBy (graph.home raw) graph later :=
  fusedBy_fuseLoop (.refl graph) hRun

end Oakfield.GraphIR
