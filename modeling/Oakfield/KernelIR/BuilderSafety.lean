import Oakfield.KernelIR.EvalDomain

/-! Calls on a builder append at most the node which they return, and every
recursion over the resulting graph ends without leaving it. -/
namespace Oakfield.KernelIR

open CDouble Library.Memo

variable {D : Type} [CDouble D] {builder builder' : SimIRBuilder D}

/-! ### Appending calls -/

/-- The result of a constructor is one appended node, behind at most one new
pool entry. -/
def AppendsOne (builder : SimIRBuilder D) (result : Option (SimIRNodeId × SimIRBuilder D)) : Prop :=
  ∀ grown, result = some grown →
    ∃ base, (base = builder ∨ ∃ values, base = simIrBuilderPoolPush builder values) ∧
      ∃ data type warpClass isLocal,
        grown = simIrBuilderAppend base data type warpClass isLocal

theorem appendsOne_none : AppendsOne builder none := by
  intro grown hResult
  cases hResult

theorem appendsOne_append (data : SimIRNodeData D) (type : SimIRType) (warpClass : SimWarpLevel)
    (isLocal : Bool) : AppendsOne builder (some (simIrBuilderAppend builder data type warpClass isLocal)) := by
  intro grown hResult
  exact ⟨builder, Or.inl rfl, data, type, warpClass, isLocal, (Option.some.inj hResult).symm⟩

theorem appendsOne_constantIntegerRawTyped (raw : Word) (type : SimIRType) :
    AppendsOne builder (simIrBuilderConstantIntegerRawTyped builder raw type) := by
  rw [simIrBuilderConstantIntegerRawTyped]
  split
  case isTrue => exact appendsOne_none
  case isFalse => exact appendsOne_append _ _ _ _

theorem appendsOne_constantTyped (value : D) (type : SimIRType) :
    AppendsOne builder (simIrBuilderConstantTyped builder value type) := by
  rw [simIrBuilderConstantTyped]
  split
  case isTrue =>
    split
    case h_1 => exact appendsOne_none
    case h_2 => exact appendsOne_constantIntegerRawTyped _ _
  case isFalse => exact appendsOne_append _ _ _ _

theorem appendsOne_constantVectorTyped (values : List D) (type : SimIRType) :
    AppendsOne builder (simIrBuilderConstantVectorTyped builder values type) := by
  rw [simIrBuilderConstantVectorTyped]
  split_ifs
  · exact appendsOne_none
  · exact appendsOne_none
  · exact appendsOne_append _ _ _ _
  · dsimp only
    split
    case h_1 => exact appendsOne_append _ _ _ _
    case h_2 =>
      intro grown hResult
      exact ⟨_, Or.inr ⟨values, rfl⟩, _, _, _, _, (Option.some.inj hResult).symm⟩

/-- A constructor which checks its arguments before it appends. -/
theorem appendsOne_guarded {rejected : Prop} [Decidable rejected] (data : SimIRNodeData D)
    (type : SimIRType) (warpClass : SimWarpLevel) (isLocal : Bool) :
    AppendsOne builder (if rejected then none
      else some (simIrBuilderAppend builder data type warpClass isLocal)) := by
  split
  case isTrue => exact appendsOne_none
  case isFalse => exact appendsOne_append _ _ _ _

theorem appendsOne_binary (op : SimIRBinaryOp) (lhs rhs : SimIRNodeId) :
    AppendsOne builder (simIrBuilderBinary builder op lhs rhs) := by
  rw [simIrBuilderBinary]
  split
  case isTrue => exact appendsOne_none
  case isFalse =>
    split
    case h_1 =>
      split
      case isTrue => exact appendsOne_none
      case isFalse => exact appendsOne_guarded _ _ _ _
    case h_2 => exact appendsOne_none

theorem appendsOne_diffSpec (spec : SimIRDiffSpec D) :
    AppendsOne builder (simIrBuilderDiffSpec builder spec) := by
  rw [simIrBuilderDiffSpec]
  split
  case h_1 => exact appendsOne_none
  case h_2 => exact appendsOne_guarded _ _ _ _

theorem appendsOne_call (kind : Option SimIRCallKind) (operand : SimIRNodeId) :
    AppendsOne builder (simIrBuilderCall builder kind operand) := by
  unfold simIrBuilderCall
  cases builder.node? operand with
  | none => exact appendsOne_none
  | some node =>
      cases kind with
      | none => exact appendsOne_none
      | some kind => exact appendsOne_guarded (.call kind operand) _ _ _

theorem appendsOne_noiseSpec (spec : Option (SimIRNoiseSpec D)) :
    AppendsOne builder (simIrBuilderNoiseSpec builder spec) := by
  rw [simIrBuilderNoiseSpec]
  dsimp only
  split
  case isTrue => exact appendsOne_none
  case isFalse => exact appendsOne_append _ _ _ _

theorem appendsOne_statefulSpec (spec : SimIRStatefulSpec) :
    AppendsOne builder (simIrBuilderStatefulSpec builder spec) := by
  rw [simIrBuilderStatefulSpec]
  split
  case h_1 => exact appendsOne_none
  case h_2 => exact appendsOne_append _ _ _ _

theorem appendsOne_warpSpec (spec : SimIRWarpSpec D) :
    AppendsOne builder (simIrBuilderWarpSpec builder spec) := by
  rw [simIrBuilderWarpSpec]
  split
  case h_1 => exact appendsOne_none
  case h_2 =>
    dsimp only
    split
    case isTrue => exact appendsOne_none
    case isFalse => exact appendsOne_guarded _ _ _ _

theorem appendsOne_complexRotate (operand angle : SimIRNodeId) :
    AppendsOne builder (simIrBuilderComplexRotate builder operand angle) := by
  rw [simIrBuilderComplexRotate]
  split
  case h_1 =>
    dsimp only
    split
    case isTrue => exact appendsOne_none
    case isFalse => exact appendsOne_guarded _ _ _ _
  case h_2 => exact appendsOne_none

/-- Every constructor appends the one node it returns. -/
theorem BuilderCall.appendsOne (call : BuilderCall D) : AppendsOne builder (call.run builder) := by
  cases call with
  | constant value => exact appendsOne_constantTyped value simIrTypeScalar
  | constantTyped value type => exact appendsOne_constantTyped value type
  | constantI64Typed value type =>
      rw [BuilderCall.run, simIrBuilderConstantI64Typed]
      split
      case h_1 => exact appendsOne_none
      case h_2 => exact appendsOne_constantIntegerRawTyped _ _
  | constantU64Typed value type =>
      rw [BuilderCall.run, simIrBuilderConstantU64Typed]
      split
      case h_1 => exact appendsOne_none
      case h_2 => exact appendsOne_constantIntegerRawTyped _ _
  | constantVector values => exact appendsOne_constantVectorTyped values _
  | constantVectorTyped values type => exact appendsOne_constantVectorTyped values type
  | constantComplex real imag => exact appendsOne_constantVectorTyped [real, imag] simIrTypeComplex
  | param kind =>
      cases kind with
      | none => exact appendsOne_none
      | some kind => exact appendsOne_append _ _ _ _
  | index => exact appendsOne_append .index _ _ _
  | coord field axis => exact appendsOne_append (.coord field axis) _ _ _
  | fieldRef field => exact appendsOne_append (.fieldRef field) _ _ _
  | fieldRefTyped field type => exact appendsOne_append (.fieldRef field) _ _ _
  | noise seed amplitude => exact appendsOne_noiseSpec _
  | noiseSpec spec => exact appendsOne_noiseSpec spec
  | stateful eval userdata label => exact appendsOne_statefulSpec _
  | statefulSpec spec => exact appendsOne_statefulSpec spec
  | call kind operand => exact appendsOne_call kind operand
  | floor operand =>
      rw [BuilderCall.run, simIrBuilderFloor]
      split
      case h_1 => exact appendsOne_none
      case h_2 => exact appendsOne_guarded _ _ _ _
  | mod lhs rhs =>
      rw [BuilderCall.run, simIrBuilderMod]
      split
      case h_1 => exact appendsOne_guarded _ _ _ _
      case h_2 => exact appendsOne_none
  | binary op lhs rhs => exact appendsOne_binary op lhs rhs
  | pow lhs rhs => exact appendsOne_binary .pow lhs rhs
  | diff operand axis dx scale =>
      rw [BuilderCall.run, simIrBuilderDiff]
      split
      case h_1 => exact appendsOne_none
      case h_2 => exact appendsOne_diffSpec _
  | diffSpec spec => exact appendsOne_diffSpec spec
  | warp operand profile bias delta lambda => exact appendsOne_warpSpec _
  | warpSpec spec => exact appendsOne_warpSpec spec
  | complexRotate operand angle => exact appendsOne_complexRotate operand angle
  | complexPack real imag =>
      rw [BuilderCall.run, simIrBuilderComplexPack]
      split
      case h_1 => exact appendsOne_guarded _ _ _ _
      case h_2 => exact appendsOne_none

theorem SimIRBuilder.WellFormed.le_of_reaches (hBuilder : builder.WellFormed) {root id : SimIRNodeId}
    (hReaches : builder.Reaches root id) : id ≤ root := by
  induction hReaches with
  | refl => exact Nat.le_refl _
  | tail prior last ih =>
      obtain ⟨node, hNode, hMem⟩ := last
      exact Nat.le_trans (Nat.le_of_lt ((hBuilder.nodes _ node hNode).operands_lt _ hMem)) ih

end Oakfield.KernelIR
