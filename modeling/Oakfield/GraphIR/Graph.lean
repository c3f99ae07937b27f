import Oakfield.Context
import Oakfield.Cpu.Kernel

/-! Graphs of kernels, transforms and copies, and the fusion of neighbouring
pointwise kernels. -/
namespace Oakfield.GraphIR

open KernelIR Cpu

inductive SimGraphIRTimeSource where
  | none
  | param
  | stepPure
  | accumulated
deriving DecidableEq, Repr

inductive SimGraphIRDTSrc where
  | none
  | param
  | nominal
deriving DecidableEq, Repr

structure SimGraphIRPurity where
  timeSource : SimGraphIRTimeSource
  dtSource : SimGraphIRDTSrc
  hasState : Bool
  resetOnRewind : Bool
deriving DecidableEq, Repr

/-- `SimGraphIROutputGuarantee`. -/
structure SimGraphIROutputGuarantee where
  domain : SimFieldDomain
  valueKind : SimFieldValueKind
  preservesRealSubspace : Bool
  preservesRealConstraint : Bool
deriving DecidableEq, Repr

/-- `SimGraphIRRepresentationContract`. A `SimGraphIRInputRequirement` has the members of a
field representation. -/
structure SimGraphIRRepresentationContract where
  input : SimFieldRepresentation
  output : SimGraphIROutputGuarantee
  purity : SimGraphIRPurity
deriving DecidableEq, Repr

/-- `SimGraphIRInputRef`. -/
inductive SimGraphIRInputRef where
  | none
  | field (index : ℕ)
  | node (id : ℕ)
deriving DecidableEq, Repr

/-- `SimGraphIROutputRef`. -/
inductive SimGraphIROutputRef where
  | none
  | field (index : ℕ)
  | temp
deriving DecidableEq, Repr

structure SimOperatorKernelBindingDescriptor where
  irFieldIndex : ℕ
  contextFieldIndex : ℕ
deriving DecidableEq, Repr

/-- `SimGraphIRKernel`. The output descriptors `output_map` have the members of the outputs
and are filled alike. -/
structure SimGraphIRKernel (D : Type) where
  builder : SimIRBuilder D
  bindingMap : List SimOperatorKernelBindingDescriptor
  outputs : List SimKernelIROutput
  params : List D
  requiredFeatures : BitVec 64
  complexSemantics : SimKernelComplexSemantics

/-- The kind of a node together with the part of its state which a graph is built with. -/
inductive SimGraphIRNodeData (D : Type) where
  | pointwiseKernel (kernel : SimGraphIRKernel D)
  | fftForward
  | fftInverse
  | promoteComplex
  | castCopy
  | canonicalizeRealConstraint (tolerance : D)

structure SimGraphIRNode (D : Type) where
  data : SimGraphIRNodeData D
  input : SimGraphIRInputRef
  output : SimGraphIROutputRef
  contract : SimGraphIRRepresentationContract

structure SimGraphIREdge where
  source : ℕ
  target : ℕ
deriving DecidableEq, Repr

structure SimGraphIR (D : Type) where
  nodes : List (SimGraphIRNode D)
  edges : List SimGraphIREdge

variable {D : Type}

/-! ### Fusion -/

/-- `memcmp` on the node arrays of two builders, padding included, and on their doubles. -/
structure RawEqual (D : Type) where
  nodes : List (SimIRNode D) → List (SimIRNode D) → Bool
  doubles : List D → List D → Bool

/-- `memcmp` on two arrays, which is not called on empty ones. -/
def sameBytes {α : Type} (compare : List α → List α → Bool) (a b : List α) : Bool :=
  a.length == b.length && (a.isEmpty || compare a b)

/-- `sim_graph_ir_builder_equal` on two copies. -/
def simGraphIrBuilderEqual (raw : RawEqual D) (a b : SimIRBuilder D) : Bool :=
  a.defaultBoundary == b.defaultBoundary && sameBytes raw.nodes a.nodes b.nodes &&
    a.constantsOffsets == b.constantsOffsets && a.constantsComponents == b.constantsComponents &&
      (a.constantsOffsets.isEmpty || sameBytes raw.doubles a.constantsData b.constantsData)

/-- `sim_graph_ir_kernel_outputs_disjoint`. -/
def simGraphIrKernelOutputsDisjoint (a b : SimGraphIRKernel D) : Bool :=
  a.outputs.all fun x => b.outputs.all fun y => x.fieldIndex != y.fieldIndex

/-- `sim_graph_ir_kernels_compatible`. -/
def simGraphIrKernelsCompatible (raw : RawEqual D) (a b : SimGraphIRKernel D) : Bool :=
  simGraphIrBuilderEqual raw a.builder b.builder && a.bindingMap == b.bindingMap &&
    sameBytes raw.doubles a.params b.params && a.requiredFeatures == b.requiredFeatures &&
      a.complexSemantics == b.complexSemantics && simGraphIrKernelOutputsDisjoint a b

/-- The node which the left one of two compatible kernels becomes. It keeps its own input,
output and contract. -/
def mergedNode? (raw : RawEqual D) (left right : SimGraphIRNode D) : Option (SimGraphIRNode D) :=
  match left.data, right.data with
  | .pointwiseKernel a, .pointwiseKernel b =>
      if simGraphIrKernelsCompatible raw a b then
        some { left with data := .pointwiseKernel { a with outputs := a.outputs ++ b.outputs } }
      else none
  | _, _ => none

/-- The new identifier of a node once node `i + 1` has been merged into node `i`. -/
def renumber (i id : ℕ) : ℕ := if id = i + 1 then i else if i + 1 < id then id - 1 else id

def SimGraphIRInputRef.map (rename : ℕ → ℕ) : SimGraphIRInputRef → SimGraphIRInputRef
  | .none => .none
  | .field index => .field index
  | .node id => .node (rename id)

def SimGraphIRNode.rename (rename : ℕ → ℕ) (node : SimGraphIRNode D) : SimGraphIRNode D :=
  { node with input := node.input.map rename }

def SimGraphIREdge.rename (rename : ℕ → ℕ) (edge : SimGraphIREdge) : SimGraphIREdge :=
  ⟨rename edge.source, rename edge.target⟩

/-- The graph with node `i` replaced by `merged` and node `i + 1` removed. -/
def SimGraphIR.merge (graph : SimGraphIR D) (i : ℕ) (merged : SimGraphIRNode D) : SimGraphIR D where
  nodes := ((graph.nodes.set i merged).eraseIdx (i + 1)).map (·.rename (renumber i))
  edges := graph.edges.map (·.rename (renumber i))

/-- The loop of `sim_graph_ir_fuse_pointwise`; the fuel is a bound on the iterations, which
also numbers the allocations. -/
def fuseLoop (raw : RawEqual D) (allocate : ℕ → Bool) :
    ℕ → ℕ → SimGraphIR D → SimGraphIR D × Except SimError Unit
  | 0, _, graph => (graph, .ok ())
  | fuel + 1, i, graph =>
      match graph.nodes[i]?, graph.nodes[i + 1]? with
      | some left, some right =>
          match mergedNode? raw left right with
          | none => fuseLoop raw allocate fuel (i + 1) graph
          | some merged =>
              if !allocate fuel then (graph, .error .outOfMemory)
              else fuseLoop raw allocate fuel i (graph.merge i merged)
      | _, _ => (graph, .ok ())

/-- `sim_graph_ir_fuse_pointwise`. Every iteration passes a node or removes one. -/
def simGraphIrFusePointwise (raw : RawEqual D) (allocate : ℕ → Bool) (graph : SimGraphIR D) :
    SimGraphIR D × Except SimError Unit :=
  fuseLoop raw allocate graph.nodes.length 0 graph

end Oakfield.GraphIR
