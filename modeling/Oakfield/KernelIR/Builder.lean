import Oakfield.KernelIR.IntegerWord
import Oakfield.KernelIR.Node

/-! Constructors of the kernel expression builder. A constructor returns the new
identifier and the grown builder; `none` is `SIM_IR_INVALID_NODE`. Enumerators
outside their type, which the C code also receives, are `none`. -/
namespace Oakfield.KernelIR

open CDouble

variable {D : Type} [CDouble D]

/-- `sim_ir_canonicalize_constant`: both zeros become `0.0`. -/
def simIrCanonicalizeConstant (value : D) : D := if eq value zero then zero else value

def simIrPositiveOrDefault (value fallback : D) : D :=
  if !isfinite value || le value zero then fallback else value

def simIrBuilderInit : SimIRBuilder D := ⟨[], .neumann, [], [], []⟩

def simIrBuilderReset (builder : SimIRBuilder D) : SimIRBuilder D :=
  ⟨[], builder.defaultBoundary, [], [], []⟩

def simIrBuilderSetDefaultBoundary (builder : SimIRBuilder D)
    (boundary : Option SimIRBoundaryPolicy) : SimIRBuilder D :=
  { builder with defaultBoundary := boundary.getD .neumann }

/-- `sim_ir_builder_append` followed by the assignments of its caller. -/
def simIrBuilderAppend (builder : SimIRBuilder D) (data : SimIRNodeData D) (valueType : SimIRType)
    (warpClass : SimWarpLevel) (isLocal : Bool) : SimIRNodeId × SimIRBuilder D :=
  (builder.count,
    { builder with
      nodes := builder.nodes ++ [⟨builder.count, data, valueType, .misc, warpClass, isLocal⟩] })

/-! ### Leaves -/

def simIrSmallConstantCapacity : ℕ := 4

/-- A cleared constant payload, as left by `memset`. -/
def SimIRConstant.cleared : SimIRConstant D :=
  ⟨zero, 0, 0, false, none, List.replicate simIrSmallConstantCapacity zero⟩

def simIrBuilderConstantIntegerRawTyped (builder : SimIRBuilder D) (raw : Word) (type : SimIRType) :
    Option (SimIRNodeId × SimIRBuilder D) :=
  let normalized := type.normalize
  let domain := normalized.scalarDomain
  if !normalized.isScalar || !domain.isInteger then none
  else
    some (simIrBuilderAppend builder
      (.constant { SimIRConstant.cleared with
        scalar := simIrIntegerRawToDouble raw domain
        signedScalar := simIrIntegerAsI64 raw domain
        unsignedScalar := simIrIntegerTruncate raw domain
        exactInteger := true }) normalized .none true)

def simIrBuilderConstantTyped (builder : SimIRBuilder D) (value : D) (type : SimIRType) :
    Option (SimIRNodeId × SimIRBuilder D) :=
  let normalized := type.normalize
  if normalized.scalarDomain.isInteger then
    match simIrIntegerRawFromDouble value normalized.scalarDomain with
    | none => none
    | some raw => simIrBuilderConstantIntegerRawTyped builder raw normalized
  else
    some (simIrBuilderAppend builder
      (.constant { SimIRConstant.cleared with scalar := simIrCanonicalizeConstant value })
      normalized .none true)

def simIrBuilderConstant (builder : SimIRBuilder D) (value : D) :
    Option (SimIRNodeId × SimIRBuilder D) :=
  simIrBuilderConstantTyped builder value simIrTypeScalar

def simIrBuilderConstantI64Typed (builder : SimIRBuilder D) (value : Word) (type : SimIRType) :
    Option (SimIRNodeId × SimIRBuilder D) :=
  match simIrIntegerRawFromSigned value type.normalize.scalarDomain with
  | none => none
  | some raw => simIrBuilderConstantIntegerRawTyped builder raw type.normalize

def simIrBuilderConstantU64Typed (builder : SimIRBuilder D) (value : Word) (type : SimIRType) :
    Option (SimIRNodeId × SimIRBuilder D) :=
  match simIrIntegerRawFromUnsigned value type.normalize.scalarDomain with
  | none => none
  | some raw => simIrBuilderConstantIntegerRawTyped builder raw type.normalize

/-- The lanes of pool entry `k`. -/
def SimIRBuilder.poolLanes (builder : SimIRBuilder D) (k : ℕ) : List D :=
  (builder.constantsData.drop (builder.constantsOffsets.getD k 0)).take
    (builder.constantsComponents.getD k 0)

/-- Pool entry `k` has the lanes of `values`, by the comparison `==`. -/
def SimIRBuilder.poolMatches (builder : SimIRBuilder D) (values : List D) (k : ℕ) : Bool :=
  builder.constantsComponents.getD k 0 == values.length &&
    ((builder.poolLanes k).zip values).all fun lane => eq lane.1 (simIrCanonicalizeConstant lane.2)

/-- A new pool entry behind the used part of the pool. -/
def simIrBuilderPoolPush (builder : SimIRBuilder D) (values : List D) : SimIRBuilder D :=
  { builder with
    constantsData := builder.constantsData ++ values.map simIrCanonicalizeConstant
    constantsOffsets := builder.constantsOffsets ++ [builder.constantsData.length]
    constantsComponents := builder.constantsComponents ++ [values.length] }

def simIrBuilderConstantVectorTyped (builder : SimIRBuilder D) (values : List D)
    (type : SimIRType) : Option (SimIRNodeId × SimIRBuilder D) :=
  let normalized := type.normalize
  if values.length = 0 ∨ normalized.components ≠ values.length then none
  else if normalized.scalarDomain.isInteger then none
  else if values.length ≤ simIrSmallConstantCapacity then
    some (simIrBuilderAppend builder
      (.constant { SimIRConstant.cleared with
        small := values.map simIrCanonicalizeConstant ++
          List.replicate (simIrSmallConstantCapacity - values.length) zero }) normalized .none true)
  else
    let entries := builder.constantsComponents.length
    match (List.range entries).find? (builder.poolMatches values) with
    | some k =>
        some (simIrBuilderAppend builder
          (.constant { SimIRConstant.cleared with constantIndex := some k }) normalized .none true)
    | none =>
        some (simIrBuilderAppend (simIrBuilderPoolPush builder values)
          (.constant { SimIRConstant.cleared with constantIndex := some entries })
          normalized .none true)

def simIrBuilderConstantVector (builder : SimIRBuilder D) (values : List D) :
    Option (SimIRNodeId × SimIRBuilder D) :=
  simIrBuilderConstantVectorTyped builder values (simIrTypeVector values.length)

def simIrBuilderConstantComplex (builder : SimIRBuilder D) (real imag : D) :
    Option (SimIRNodeId × SimIRBuilder D) :=
  simIrBuilderConstantVectorTyped builder [real, imag] simIrTypeComplex

def SimIRParamKind.valueType (param : SimIRParamKind) : SimIRType :=
  if param = .stepIndex then simIrTypeScalarDomainTyped simScalarDomainU64 else simIrTypeScalar

def simIrBuilderParam (builder : SimIRBuilder D) (param : Option SimIRParamKind) :
    Option (SimIRNodeId × SimIRBuilder D) :=
  match param with
  | none => none
  | some param => some (simIrBuilderAppend builder (.param param) param.valueType .none true)

def simIrBuilderIndex (builder : SimIRBuilder D) : SimIRNodeId × SimIRBuilder D :=
  simIrBuilderAppend builder .index (simIrTypeScalarDomainTyped simScalarDomainU64) .none true

def simIrBuilderCoord (builder : SimIRBuilder D) (field axis : ℕ) : SimIRNodeId × SimIRBuilder D :=
  simIrBuilderAppend builder (.coord field axis) (simIrTypeScalarDomainTyped simScalarDomainU64)
    .none true

def simIrBuilderFieldRefTyped (builder : SimIRBuilder D) (field : ℕ) (type : SimIRType) :
    SimIRNodeId × SimIRBuilder D :=
  simIrBuilderAppend builder (.fieldRef field) type.normalize .none true

def simIrBuilderFieldRef (builder : SimIRBuilder D) (field : ℕ) : SimIRNodeId × SimIRBuilder D :=
  simIrBuilderFieldRefTyped builder field simIrTypeScalar

structure SimIRNoiseSpec (D : Type) where
  seed : BitVec 32
  amplitude : D
  variance : D
  law : SimIRNoiseLaw
  distribution : SimIRNoiseDistribution
  valueType : SimIRType

/-- `sim_ir_builder_noise_spec`; `none` is a null specification. -/
def simIrBuilderNoiseSpec (builder : SimIRBuilder D) (spec : Option (SimIRNoiseSpec D)) :
    Option (SimIRNodeId × SimIRBuilder D) :=
  let spec := spec.getD ⟨0, one, one, .ito, .uniform, simIrTypeScalar⟩
  if lt spec.amplitude zero then none
  else
    let variance :=
      if lt spec.variance zero || !isfinite spec.variance then mul spec.amplitude spec.amplitude
      else spec.variance
    some (simIrBuilderAppend builder
      (.noise ⟨spec.seed, spec.amplitude, variance, spec.law, spec.distribution⟩)
      spec.valueType.normalize .none true)

def simIrBuilderNoise (builder : SimIRBuilder D) (seed : BitVec 32) (amplitude : D) :
    Option (SimIRNodeId × SimIRBuilder D) :=
  simIrBuilderNoiseSpec builder
    (some ⟨seed, amplitude, mul amplitude amplitude, .ito, .uniform, simIrTypeScalar⟩)

/-- Callback (`none` when null), user pointer, label and type of a stateful node. -/
structure SimIRStatefulSpec where
  eval : Option ℕ
  userdata : ℕ
  label : ℕ
  valueType : SimIRType

def simIrBuilderStatefulSpec (builder : SimIRBuilder D) (spec : SimIRStatefulSpec) :
    Option (SimIRNodeId × SimIRBuilder D) :=
  match spec.eval with
  | none => none
  | some eval =>
      let type := if spec.valueType.components = 0 then simIrTypeScalar else spec.valueType
      some (simIrBuilderAppend builder (.stateful ⟨eval, spec.userdata, spec.label⟩) type.normalize
        .none false)

def simIrBuilderStateful (builder : SimIRBuilder D) (eval : Option ℕ) (userdata label : ℕ) :
    Option (SimIRNodeId × SimIRBuilder D) :=
  simIrBuilderStatefulSpec builder ⟨eval, userdata, label, simIrTypeScalar⟩

/-! ### Operations on earlier nodes -/

def simIrBuilderCall (builder : SimIRBuilder D) (kind : Option SimIRCallKind)
    (operand : SimIRNodeId) : Option (SimIRNodeId × SimIRBuilder D) :=
  match builder.node? operand, kind with
  | some node, some kind =>
      let type := node.valueType.normalize
      if !type.domain.supports .analyticCall then none
      else some (simIrBuilderAppend builder (.call kind operand) type .none node.isLocal)
  | _, _ => none

def simIrBuilderFloor (builder : SimIRBuilder D) (operand : SimIRNodeId) :
    Option (SimIRNodeId × SimIRBuilder D) :=
  match builder.node? operand with
  | none => none
  | some node =>
      let type := node.valueType.normalize
      if !type.isScalar || !type.domain.supports .floor then none
      else some (simIrBuilderAppend builder (.floor operand) type .none node.isLocal)

def simIrBuilderMod (builder : SimIRBuilder D) (lhs rhs : SimIRNodeId) :
    Option (SimIRNodeId × SimIRBuilder D) :=
  match builder.node? lhs, builder.node? rhs with
  | some left, some right =>
      let lhsType := left.valueType.normalize
      let rhsType := right.valueType.normalize
      if !lhsType.isScalar || !lhsType.equal rhsType || !lhsType.domain.supports .modulo ||
          !rhsType.isScalar || !rhsType.domain.supports .modulo then none
      else
        some (simIrBuilderAppend builder (.binary .mod lhs rhs) lhsType .none
          (left.isLocal && right.isLocal))
  | _, _ => none

/-- The capability `sim_ir_builder_binary` asks of the domain of its operands. -/
def SimIRBinaryOp.capability : SimIRBinaryOp → SimScalarCapability
  | .add | .sub => .additiveArithmetic
  | .mul => .multiplicativeArithmetic
  | .div => .division
  | .pow => .power
  | .mod => .modulo

def simIrBuilderBinary (builder : SimIRBuilder D) (op : SimIRBinaryOp) (lhs rhs : SimIRNodeId) :
    Option (SimIRNodeId × SimIRBuilder D) :=
  if op = .mod then none
  else
    match builder.node? lhs, builder.node? rhs with
    | some left, some right =>
        if !left.valueType.equal right.valueType then none
        else
          let type := left.valueType.normalize
          if !type.domain.supports op.capability then none
          else
            some (simIrBuilderAppend builder (.binary op lhs rhs) type .none
              (left.isLocal && right.isLocal))
    | _, _ => none

def simIrBuilderPow (builder : SimIRBuilder D) (lhs rhs : SimIRNodeId) :
    Option (SimIRNodeId × SimIRBuilder D) :=
  simIrBuilderBinary builder .pow lhs rhs

structure SimIRDiffSpec (D : Type) where
  operand : SimIRNodeId
  axis : ℕ
  dx : D
  scale : D
  order : ℕ
  stencilOrder : ℕ
  method : Option SimIRDiffMethod
  consistencyConstant : D
  boundary : Option SimIRBoundaryPolicy
  resultType : SimIRType

def simIrBuilderDiffSpec (builder : SimIRBuilder D) (spec : SimIRDiffSpec D) :
    Option (SimIRNodeId × SimIRBuilder D) :=
  match builder.node? spec.operand with
  | none => none
  | some node =>
      if le spec.dx zero then none
      else
        let order := if spec.order = 0 then 1 else spec.order
        let stencilOrder := if spec.stencilOrder = 0 then order else spec.stencilOrder
        let consistencyConstant :=
          if !isfinite spec.consistencyConstant || lt spec.consistencyConstant zero then zero
          else spec.consistencyConstant
        let type := if spec.resultType.components = 0 then node.valueType else spec.resultType
        some (simIrBuilderAppend builder
          (.diff ⟨spec.operand, spec.axis, spec.dx, spec.scale, order, stencilOrder,
            spec.method.getD .auto, consistencyConstant,
            spec.boundary.getD builder.defaultBoundary⟩) type.normalize .none false)

def simIrBuilderDiff (builder : SimIRBuilder D) (operand : SimIRNodeId) (axis : ℕ)
    (dx scale : D) : Option (SimIRNodeId × SimIRBuilder D) :=
  match builder.node? operand with
  | none => none
  | some node =>
      simIrBuilderDiffSpec builder ⟨operand, axis, dx, scale, 1, 1, some .auto, zero,
        some builder.defaultBoundary, node.valueType⟩

/-- `SimIRWarpGuard` as passed by a caller. -/
structure SimIRWarpGuardSpec (D : Type) where
  mode : Option SimContinuityMode
  clampMin : D
  clampMax : D
  tolerance : D

/-- `sim_ir_guard_normalize`. -/
def simIrGuardNormalize (guard : SimIRWarpGuardSpec D) : SimIRWarpGuard D :=
  let mode := guard.mode.getD .none
  if mode = .clamped ∨ mode = .limited then
    let clampMin := if !isfinite guard.clampMin then lit (-1) 6 else guard.clampMin
    let clampMax := if !isfinite guard.clampMax then lit 1 6 else guard.clampMax
    let tolerance := simIrPositiveOrDefault guard.tolerance (lit 1 (-6))
    if gt clampMin clampMax then ⟨mode, clampMax, clampMin, tolerance⟩
    else ⟨mode, clampMin, clampMax, tolerance⟩
  else ⟨mode, zero, zero, zero⟩

structure SimIRWarpSpec (D : Type) where
  operand : SimIRNodeId
  bias : D
  delta : D
  lambda : D
  tolerance : D
  profile : Option SimIRWarpProfile
  warpClass : Option SimWarpLevel
  guard : SimIRWarpGuardSpec D
  resultType : SimIRType

/-- The default width `1.0e-6` replaces a width which is not positive. -/
def simIrWarpDelta (delta : D) : D :=
  if !isfinite delta then lit 1 (-6)
  else if le (fabs delta) zero then lit 1 (-6)
  else fabs delta

/-- The class of `sim_ir_builder_warp_spec`: every profile is of level 2. -/
def simIrWarpClass (warpClass : Option SimWarpLevel) : SimWarpLevel :=
  match warpClass.getD .none with
  | .none => .level2
  | level => level

def simIrBuilderWarpSpec (builder : SimIRBuilder D) (spec : SimIRWarpSpec D) :
    Option (SimIRNodeId × SimIRBuilder D) :=
  match builder.node? spec.operand with
  | none => none
  | some node =>
      let type := (if spec.resultType.components = 0 then node.valueType else
        spec.resultType).normalize
      if !node.valueType.isScalar then none
      else if !type.isScalar then none
      else
        some (simIrBuilderAppend builder
          (.warp ⟨spec.operand, if !isfinite spec.bias then zero else spec.bias,
            simIrWarpDelta spec.delta, if !isfinite spec.lambda then one else spec.lambda,
            if !isfinite spec.tolerance || le spec.tolerance zero then zero else spec.tolerance,
            spec.profile.getD .digamma, simIrGuardNormalize spec.guard⟩)
          type (simIrWarpClass spec.warpClass) true)

def simIrBuilderWarp (builder : SimIRBuilder D) (operand : SimIRNodeId)
    (profile : Option SimIRWarpProfile) (bias delta lambda : D) :
    Option (SimIRNodeId × SimIRBuilder D) :=
  simIrBuilderWarpSpec builder ⟨operand, bias, delta, lambda, zero, profile, some .none,
    ⟨some .none, zero, zero, zero⟩, simIrTypeScalar⟩

/-- The result is local when the rotated operand is; the angle is not asked. -/
def simIrBuilderComplexRotate (builder : SimIRBuilder D) (operand angle : SimIRNodeId) :
    Option (SimIRNodeId × SimIRBuilder D) :=
  match builder.node? operand, builder.node? angle with
  | some node, some angleNode =>
      let type := node.valueType.normalize
      let angleType := angleNode.valueType.normalize
      if type.components ≠ 2 ∨ type.domain.supports .complexRotation = false then none
      else if !angleType.isScalar || !angleType.domain.supports .ordering then none
      else some (simIrBuilderAppend builder (.complexRotate operand angle) type .none node.isLocal)
  | _, _ => none

def simIrBuilderComplexPack (builder : SimIRBuilder D) (real imag : SimIRNodeId) :
    Option (SimIRNodeId × SimIRBuilder D) :=
  match builder.node? real, builder.node? imag with
  | some re, some im =>
      let reType := re.valueType.normalize
      let imType := im.valueType.normalize
      if !reType.isScalar || reType.domain.isComplex || !reType.domain.supports .additiveArithmetic ||
          !imType.isScalar || imType.domain.isComplex ||
          !imType.domain.supports .additiveArithmetic then none
      else
        some (simIrBuilderAppend builder (.complexPack real imag) simIrTypeComplex .none
          (re.isLocal && im.isLocal))
  | _, _ => none

/-! ### Updates of stored nodes -/

/-- `sim_ir_builder_set_node_warp_class`; rejected calls change nothing. -/
def simIrBuilderSetNodeWarpClass (builder : SimIRBuilder D) (id : SimIRNodeId)
    (warpClass : Option SimWarpLevel) : SimIRBuilder D :=
  match warpClass with
  | none => builder
  | some level =>
      { builder with nodes := builder.nodes.modify id fun node => { node with warpClass := level } }

/-- Opcode of the nodes selected by `selected`, unless an existing one is kept. -/
def simIrBuilderRetag (builder : SimIRBuilder D) (selected : SimIRNodeId → Bool)
    (opcode : Option SimIROpcode) (preserveExisting : Bool) : SimIRBuilder D :=
  { builder with
    nodes := builder.nodes.mapIdx fun id node =>
      if selected id && (!preserveExisting || node.opcode == .misc) then
        { node with opcode := opcode.getD .misc }
      else node }

def simIrBuilderApplyOpcode (builder : SimIRBuilder D) (opcode : Option SimIROpcode)
    (preserveExisting : Bool) : SimIRBuilder D :=
  simIrBuilderRetag builder (fun _ => true) opcode preserveExisting

/-- The byte arrays of `sim_ir_collect_reachable`. -/
structure ReachState where
  reachable : SimIRNodeId → Bool
  stackFlags : SimIRNodeId → Bool

/-- Visit operands in order, up to the first error. -/
def ReachState.visitAll (visit : SimIRNodeId → ReachState → Option (Except SimError Unit × ReachState)) :
    List SimIRNodeId → ReachState → Option (Except SimError Unit × ReachState)
  | [], state => some (.ok (), state)
  | id :: ids, state =>
      match visit id state with
      | some (.ok (), state) => visitAll visit ids state
      | stopped => stopped

/-- `sim_ir_collect_reachable_node` with at most `fuel` nested calls. -/
def simIrCollectReachableNode (builder : SimIRBuilder D) :
    ℕ → SimIRNodeId → ReachState → Option (Except SimError Unit × ReachState)
  | 0, _, _ => none
  | fuel + 1, id, state =>
      match builder.node? id with
      | none => some (.error .invalidArgument, state)
      | some node =>
          if state.stackFlags id then some (.error .dependencyError, state)
          else if state.reachable id then some (.ok (), state)
          else
            let entered : ReachState :=
              ⟨Function.update state.reachable id true, Function.update state.stackFlags id true⟩
            match ReachState.visitAll (simIrCollectReachableNode builder fuel) node.data.operands
                entered with
            | none => none
            | some (result, state) =>
                some (result, { state with stackFlags := Function.update state.stackFlags id false })

/-- `sim_ir_collect_reachable` from cleared arrays. Every nested call is on
another node, so `count + 1` calls are enough. -/
def simIrCollectReachable (builder : SimIRBuilder D) (roots : List SimIRNodeId) :
    Option (Except SimError Unit × ReachState) :=
  if builder.count = 0 then some (.ok (), ⟨fun _ => false, fun _ => false⟩)
  else
    ReachState.visitAll (simIrCollectReachableNode builder (builder.count + 1)) roots
      ⟨fun _ => false, fun _ => false⟩

/-- `sim_ir_builder_apply_opcode_reachable`; nothing changes when the reachable
nodes cannot be collected. -/
def simIrBuilderApplyOpcodeReachable (builder : SimIRBuilder D) (opcode : Option SimIROpcode)
    (preserveExisting : Bool) (roots : List SimIRNodeId) : SimIRBuilder D :=
  match simIrCollectReachable builder roots with
  | some (.ok (), state) => simIrBuilderRetag builder state.reachable opcode preserveExisting
  | _ => builder

end Oakfield.KernelIR
