import Oakfield.KernelIR.CDouble
import Oakfield.KernelIR.ScalarDomain

/-! Nodes of the kernel expression graph and the builder which owns them. -/
namespace Oakfield.KernelIR

/-- `SimIRNodeId`; the sentinel `SIM_IR_INVALID_NODE` is `none` where a node
identifier is returned, and is out of range where one is passed. -/
abbrev SimIRNodeId := ℕ

inductive SimIRBoundaryPolicy where
  | neumann
  | dirichlet
  | periodic
  | reflective
deriving DecidableEq, Repr

inductive SimIRDiffMethod where
  | auto
  | central
  | forward
  | backward
deriving DecidableEq, Repr

inductive SimIRNoiseLaw where
  | ito
  | stratonovich
deriving DecidableEq, Repr

inductive SimIRNoiseDistribution where
  | uniform
  | gaussian
deriving DecidableEq, Repr

inductive SimIRParamKind where
  | dt
  | stepIndex
  | sqrtDt
  | time
deriving DecidableEq, Repr

/-- The enumerator as an index into `kernel->params`. -/
def SimIRParamKind.index : SimIRParamKind → ℕ
  | .dt => 0
  | .stepIndex => 1
  | .sqrtDt => 2
  | .time => 3

inductive SimIRWarpProfile where
  | digamma
  | trigamma
  | digamma7Tail
  | digamma5Tail
  | digammaAdaptive
  | digammaMortici
deriving DecidableEq, Repr

inductive SimIRCallKind where
  | sin
  | cos
  | exp
  | abs
  | log
  | tanh
  | sinh
  | sign
deriving DecidableEq, Repr

inductive SimContinuityMode where
  | none
  | strict
  | clamped
  | limited
deriving DecidableEq, Repr

inductive SimWarpLevel where
  | none
  | level0
  | level1
  | level2
deriving DecidableEq, Repr

inductive SimIROpcode where
  | diff
  | conv
  | disp
  | diffuse
  | warp
  | noise
  | flow
  | misc
  | core
deriving DecidableEq, Repr

/-- Node types with the payload `data.binary`. -/
inductive SimIRBinaryOp where
  | add
  | sub
  | mul
  | div
  | pow
  | mod
deriving DecidableEq, Repr

structure SimIRConstant (D : Type) where
  scalar : D
  signedScalar : BitVec 64
  unsignedScalar : BitVec 64
  exactInteger : Bool
  /-- Pool index, `none` for `SIM_IR_INVALID_CONSTANT_INDEX`. -/
  constantIndex : Option ℕ
  /-- The `SIM_IR_SMALL_CONSTANT_CAPACITY` inline lanes. -/
  small : List D
deriving DecidableEq, Repr

structure SimIRDiff (D : Type) where
  operand : SimIRNodeId
  axis : ℕ
  dx : D
  scale : D
  order : ℕ
  stencilOrder : ℕ
  method : SimIRDiffMethod
  consistencyConstant : D
  boundary : SimIRBoundaryPolicy
deriving DecidableEq, Repr

structure SimIRNoise (D : Type) where
  seed : BitVec 32
  amplitude : D
  variance : D
  law : SimIRNoiseLaw
  distribution : SimIRNoiseDistribution
deriving DecidableEq, Repr

structure SimIRWarpGuard (D : Type) where
  mode : SimContinuityMode
  clampMin : D
  clampMax : D
  tolerance : D
deriving DecidableEq, Repr

structure SimIRWarp (D : Type) where
  operand : SimIRNodeId
  bias : D
  delta : D
  lambda : D
  tolerance : D
  profile : SimIRWarpProfile
  guard : SimIRWarpGuard D
deriving DecidableEq, Repr

/-- Callback, user pointer and label of a stateful node, by address. -/
structure SimIRStateful where
  eval : ℕ
  userdata : ℕ
  label : ℕ
deriving DecidableEq, Repr

/-- The node type together with its member of the payload union. -/
inductive SimIRNodeData (D : Type) where
  | constant (value : SimIRConstant D)
  | fieldRef (field : ℕ)
  | binary (op : SimIRBinaryOp) (lhs rhs : SimIRNodeId)
  | diff (spec : SimIRDiff D)
  | noise (spec : SimIRNoise D)
  | warp (spec : SimIRWarp D)
  | param (kind : SimIRParamKind)
  | complexPack (real imag : SimIRNodeId)
  | complexRotate (operand angle : SimIRNodeId)
  | index
  | call (kind : SimIRCallKind) (operand : SimIRNodeId)
  | floor (operand : SimIRNodeId)
  | coord (field axis : ℕ)
  | stateful (spec : SimIRStateful)
deriving DecidableEq, Repr

/-- Operand slots of a node. -/
def SimIRNodeData.operands {D : Type} : SimIRNodeData D → List SimIRNodeId
  | .constant _ => []
  | .fieldRef _ => []
  | .binary _ lhs rhs => [lhs, rhs]
  | .diff spec => [spec.operand]
  | .noise _ => []
  | .warp spec => [spec.operand]
  | .param _ => []
  | .complexPack real imag => [real, imag]
  | .complexRotate operand angle => [operand, angle]
  | .index => []
  | .call _ operand => [operand]
  | .floor operand => [operand]
  | .coord _ _ => []
  | .stateful _ => []

/-- Index and coordinate nodes, which only the CPU backend evaluates. -/
def SimIRNodeData.readsPosition {D : Type} : SimIRNodeData D → Bool
  | .index | .coord _ _ => true
  | _ => false

/-- Nodes whose operand is evaluated at neighbouring elements too. -/
def SimIRNodeData.readsNeighbors {D : Type} : SimIRNodeData D → Bool
  | .diff _ => true
  | _ => false

structure SimIRNode (D : Type) where
  id : SimIRNodeId
  data : SimIRNodeData D
  valueType : SimIRType
  opcode : SimIROpcode
  warpClass : SimWarpLevel
  isLocal : Bool
deriving DecidableEq, Repr

/-- Node storage and the flattened pool of large vector constants. -/
structure SimIRBuilder (D : Type) where
  nodes : List (SimIRNode D)
  defaultBoundary : SimIRBoundaryPolicy
  constantsData : List D
  constantsOffsets : List ℕ
  constantsComponents : List ℕ
deriving DecidableEq, Repr

namespace SimIRBuilder

variable {D : Type}

def count (builder : SimIRBuilder D) : ℕ := builder.nodes.length

/-- `sim_ir_builder_get`. -/
def node? (builder : SimIRBuilder D) (id : SimIRNodeId) : Option (SimIRNode D) := builder.nodes[id]?

@[simp]
theorem node?_isSome {builder : SimIRBuilder D} {id : SimIRNodeId} :
    (builder.node? id).isSome = true ↔ id < builder.count := by
  simp [node?, count]

theorem lt_count_of_node? {builder : SimIRBuilder D} {id : SimIRNodeId} {node : SimIRNode D}
    (hNode : builder.node? id = some node) : id < builder.count := by
  rw [← node?_isSome, hNode]
  rfl

end SimIRBuilder

end Oakfield.KernelIR
