import Oakfield.Context.Execute
import Oakfield.Field.PromotionValues
import Oakfield.KernelIR.ExactDouble
import Oakfield.Operator.PlanHazards
import Mathlib.Algebra.BigOperators.Group.Finset.Basic
import Mathlib.Analysis.Real.Sqrt

/-! The norm budget of an operator, in exact real arithmetic: which fields it
rescales, and which norms it leaves. -/
namespace Oakfield

open KernelIR Operator

attribute [local instance] two_atLeastTwo

/-! ### Exact arithmetic -/

/-- The primitives which the budget uses are the ones of the reals. -/
structure ExactReal [CDouble ℝ] : Prop where
  add : ∀ a b : ℝ, CDouble.add a b = a + b
  mul : ∀ a b : ℝ, CDouble.mul a b = a * b
  div : ∀ a b : ℝ, CDouble.div a b = a / b
  sqrt : ∀ a : ℝ, CDouble.sqrt a = Real.sqrt a
  lt : ∀ a b : ℝ, CDouble.lt a b = true ↔ a < b
  zero : (CDouble.zero : ℝ) = 0

section Norm

variable [CDouble ℝ]

/-- A scalar of the field's elements; two of them make up a complex element. -/
noncomputable def SimField.scalar (field : SimField ℝ) (j : ℕ) : ℝ :=
  match field.data with
  | none => 0
  | some data =>
      if field.domain.kind = .integer ∨ field.domain.kind = .modular then
        SimField.integerValue field.domain (data.word j)
      else data.lane j

/-- The Euclidean norm over all elements. -/
noncomputable def SimField.norm (field : SimField ℝ) : ℝ :=
  Real.sqrt (∑ j ∈ Finset.range (SimField.elementCount field.shape * field.components),
    field.scalar j ^ 2)

/-- The fields which the budget is enforced on: doubles that are not complex. -/
def SimField.Enforceable (field : SimField ℝ) : Prop :=
  field.components ≠ 0 ∧ (field.elementSize = 8 ∨ field.elementSize = 16) ∧
    SimField.elementCount field.shape ≠ 0 ∧ field.realData.isSome = true

variable {field : SimField ℝ} {budget : ℝ}

omit [CDouble ℝ] in
theorem SimField.realData_some {data : FieldData ℝ} (hData : field.realData = some data) :
    field.data = some data ∧ field.domain.kind ≠ .integer ∧ field.domain.kind ≠ .modular := by
  rw [SimField.realData] at hData
  split_ifs at hData with hInit hDomain
  simp only [not_or] at hDomain
  exact ⟨hData, hDomain.1, hDomain.2.1⟩

theorem SimField.scalar_eq {data : FieldData ℝ} (hData : field.data = some data)
    (hInteger : field.domain.kind ≠ .integer) (hModular : field.domain.kind ≠ .modular) (j : ℕ) :
    field.scalar j = data.lane j := by
  rw [SimField.scalar, hData]
  dsimp only
  rw [if_neg (by simp [hInteger, hModular])]

/-- The accumulation loop computes the sum of squares. -/
theorem ExactReal.foldl_sq (hExact : ExactReal) (lane : ℕ → ℝ) (n : ℕ) :
    (List.range n).foldl
        (fun sum j => CDouble.add sum (CDouble.mul (lane j) (lane j))) CDouble.zero =
      ∑ j ∈ Finset.range n, lane j ^ 2 := by
  induction n with
  | zero => exact hExact.zero
  | succ n ih =>
      rw [List.range_succ, List.foldl_append, ih, Finset.sum_range_succ, List.foldl_cons,
        List.foldl_nil, hExact.add, hExact.mul, sq]

/-- The field with all scalars of its elements scaled. -/
noncomputable def SimField.rescaled (field : SimField ℝ) (data : FieldData ℝ) (scale : ℝ) :
    SimField ℝ :=
  { field with
    data := some (.lanes fun j =>
      if j < SimField.elementCount field.shape * field.components then data.lane j * scale
      else data.lane j) }

/-- A field which is skipped stays. -/
theorem SimField.applyNormBudget_skipped (hSkipped : ¬field.Enforceable) :
    field.applyNormBudget budget = field := by
  rw [SimField.applyNormBudget]
  dsimp only
  split_ifs with hStorage hCount
  · rfl
  · rfl
  · cases hData : field.realData with
    | none => rfl
    | some data =>
        refine absurd ?_ hSkipped
        rw [not_or] at hStorage
        exact ⟨hStorage.1, by omega, hCount, by rw [hData]; rfl⟩

/-- An enforced field with a norm above the budget is scaled down to it. -/
theorem SimField.applyNormBudget_enforced (hExact : ExactReal) (hBudget : 0 < budget)
    (hField : field.Enforceable) :
    (field.norm ≤ budget → field.applyNormBudget budget = field) ∧
      (budget < field.norm → (field.applyNormBudget budget).norm = budget) := by
  obtain ⟨hComponents, hSize, hCount, hSome⟩ := hField
  obtain ⟨data, hReal⟩ := Option.isSome_iff_exists.mp hSome
  obtain ⟨hData, hInteger, hModular⟩ := SimField.realData_some hReal
  have hNorm : field.norm = Real.sqrt (∑ j ∈ Finset.range
      (SimField.elementCount field.shape * field.components), data.lane j ^ 2) := by
    rw [SimField.norm]
    congr 1
    apply Finset.sum_congr rfl
    intro j _
    rw [SimField.scalar_eq hData hInteger hModular]
  have hTest : (CDouble.gt field.norm budget && CDouble.gt field.norm CDouble.zero) = true ↔
      budget < field.norm := by
    rw [Bool.and_eq_true, CDouble.gt, CDouble.gt, hExact.lt, hExact.lt, hExact.zero]
    exact ⟨fun hBoth => hBoth.1, fun hAbove => ⟨hAbove, hBudget.trans hAbove⟩⟩
  have hApply : field.applyNormBudget budget =
      if budget < field.norm then field.rescaled data (budget / field.norm) else field := by
    rw [SimField.applyNormBudget]
    dsimp only
    rw [if_neg (by omega), if_neg hCount, hReal]
    dsimp only
    rw [hExact.foldl_sq, hExact.sqrt, ← hNorm]
    by_cases hAbove : budget < field.norm
    · rw [if_pos (hTest.mpr hAbove), if_pos hAbove]
      simp only [hExact.mul, hExact.div, SimField.rescaled]
    · rw [if_neg (fun hGt => hAbove (hTest.mp hGt)), if_neg hAbove]
  constructor
  · intro hWithin
    rw [hApply, if_neg (not_lt.mpr hWithin)]
  · intro hAbove
    have hPos : 0 < field.norm := hBudget.trans hAbove
    rw [hApply, if_pos hAbove]
    -- domain and shape are as before, and each scalar is scaled
    have hScaled : ∀ j < SimField.elementCount field.shape * field.components,
        (field.rescaled data (budget / field.norm)).scalar j =
          field.scalar j * (budget / field.norm) := by
      intro j hJ
      have hNew : (field.rescaled data (budget / field.norm)).data = some (.lanes fun j =>
          if j < SimField.elementCount field.shape * field.components then
            data.lane j * (budget / field.norm) else data.lane j) := rfl
      have hLane := SimField.scalar_eq hNew hInteger hModular j
      rw [SimField.scalar_eq hData hInteger hModular, hLane]
      exact if_pos hJ
    have hSum : ∑ j ∈ Finset.range (SimField.elementCount field.shape * field.components),
        field.scalar j ^ 2 = field.norm ^ 2 := by
      rw [SimField.norm, Real.sq_sqrt (Finset.sum_nonneg fun j _ => sq_nonneg _)]
    calc
      _ = Real.sqrt (∑ j ∈ Finset.range (SimField.elementCount field.shape * field.components),
            (field.scalar j * (budget / field.norm)) ^ 2) := by
          rw [SimField.norm]
          congr 1
          apply Finset.sum_congr rfl
          intro j hJ
          rw [hScaled j (Finset.mem_range.mp hJ)]
      _ = Real.sqrt (budget ^ 2) := by
          congr 1
          simp only [mul_pow]
          rw [← Finset.sum_mul, hSum, div_pow, mul_div_cancel₀ _ (pow_ne_zero 2 hPos.ne')]
      _ = budget := Real.sqrt_sq hBudget.le

end Norm

/-! ### The collected fields -/

section Fields

variable {μ : Type} {op : SimOperatorRecord ℝ μ} {context : SimContext ℝ μ}

/-- An element is appended once. -/
theorem foldl_insert (list init : List SizeT) (hInit : init.Nodup) :
    (list.foldl (fun indices field => if field ∈ indices then indices else indices ++ [field])
        init).Nodup ∧
      ∀ field, field ∈ list.foldl
        (fun indices field => if field ∈ indices then indices else indices ++ [field]) init ↔
          field ∈ init ∨ field ∈ list := by
  induction list generalizing init with
  | nil => exact ⟨hInit, fun field => by simp⟩
  | cons head list ih =>
      rw [List.foldl_cons]
      split_ifs with hMem
      · obtain ⟨hNodup, hAll⟩ := ih init hInit
        refine ⟨hNodup, fun field => ?_⟩
        rw [hAll, List.mem_cons]
        constructor
        · rintro (hOld | hNew)
          · exact .inl hOld
          · exact .inr (.inr hNew)
        · rintro (hOld | rfl | hNew)
          · exact .inl hOld
          · exact .inl hMem
          · exact .inr hNew
      · obtain ⟨hNodup, hAll⟩ := ih (init ++ [head])
          (List.nodup_append.mpr ⟨hInit, List.nodup_singleton _, by
            intro old hOld new hNew hSame
            rw [List.mem_singleton] at hNew
            exact hMem (hNew ▸ hSame ▸ hOld)⟩)
        refine ⟨hNodup, fun field => ?_⟩
        rw [hAll, List.mem_append, List.mem_singleton, List.mem_cons, or_assoc]

theorem mem_uniqueFields {field : SizeT} : field ∈ op.uniqueFields ↔
    (if op.writeMask ≠ 0 then op.writeMask else op.readMask).getLsbD field.toNat = true ∨
      field ∈ op.readIndices ∨ field ∈ op.writeIndices := by
  rw [SimOperatorRecord.uniqueFields, (foldl_insert _ [] List.nodup_nil).2]
  simp [mem_maskFields]

/-- A loop over distinct indices changes each of these fields once. -/
theorem foldl_modify_getElem? {F : Type} (change : F → F) (indices : List SizeT)
    (hNodup : indices.Nodup) (fields : List F) (i : ℕ) :
    (indices.foldl (fun fields index => fields.modify index.toNat change) fields)[i]? =
      if ∃ index ∈ indices, index.toNat = i then fields[i]?.map change else fields[i]? := by
  induction indices generalizing fields with
  | nil => simp
  | cons head indices ih =>
      obtain ⟨hNew, hRest⟩ := List.nodup_cons.mp hNodup
      rw [List.foldl_cons, ih hRest, List.getElem?_modify]
      by_cases hHead : head.toNat = i
      · have hOthers : ¬∃ index ∈ indices, index.toNat = i := by
          rintro ⟨index, hIndex, hSame⟩
          have hEq : index = head := BitVec.eq_of_toNat_eq (hSame.trans hHead.symm)
          exact hNew (hEq ▸ hIndex)
        rw [if_neg hOthers, if_pos ⟨head, List.mem_cons_self, hHead⟩]
        simp [hHead]
      · have hSame : (∃ index ∈ head :: indices, index.toNat = i) ↔
            ∃ index ∈ indices, index.toNat = i := by
          simp [hHead]
        simp only [hSame, hHead, if_false]
        simp

/-- The operator declares that it writes the field, by mask or by index. -/
def WrittenField (op : SimOperatorRecord ℝ μ) (i : ℕ) : Prop :=
  ∃ field : SizeT, field.toNat = i ∧ op.Writes field

/-- A field which is only read, but listed by index, or in the read mask of an operator
without a write mask. -/
def SpilledField (op : SimOperatorRecord ℝ μ) (i : ℕ) : Prop :=
  ¬WrittenField op i ∧ ∃ field : SizeT, field.toNat = i ∧
    (field ∈ op.readIndices ∨ op.writeMask = 0 ∧ op.readMask.getLsbD i = true)

theorem collected_iff (i : ℕ) : (∃ field ∈ op.uniqueFields, field.toNat = i) ↔
    WrittenField op i ∨ SpilledField op i := by
  constructor
  · rintro ⟨field, hField, hIndex⟩
    by_cases hWritten : WrittenField op i
    · exact .inl hWritten
    · right
      refine ⟨hWritten, field, hIndex, ?_⟩
      rcases mem_uniqueFields.mp hField with hMask | hRead | hWrite
      · split_ifs at hMask with hZero
        · exact absurd ⟨field, hIndex, .inl hMask⟩ hWritten
        · exact .inr ⟨not_not.mp hZero, hIndex ▸ hMask⟩
      · exact .inl hRead
      · exact absurd ⟨field, hIndex, .inr hWrite⟩ hWritten
  · rintro (⟨field, hIndex, hWrites⟩ | ⟨_, field, hIndex, hRead⟩)
    · refine ⟨field, mem_uniqueFields.mpr ?_, hIndex⟩
      rcases hWrites with hMask | hListed
      · have hNonzero : op.writeMask ≠ 0 := by
          intro hZero
          rw [hZero] at hMask
          simp at hMask
        rw [if_pos hNonzero]
        exact .inl hMask
      · exact .inr (.inr hListed)
    · refine ⟨field, mem_uniqueFields.mpr ?_, hIndex⟩
      rcases hRead with hListed | ⟨hZero, hMask⟩
      · exact .inr (.inl hListed)
      · rw [if_neg (not_not.mpr hZero), hIndex]
        exact .inl hMask

variable [CDouble ℝ]

/-- Only written fields change, and afterwards none of them exceeds a budget which is
not disabled. -/
structure NormBudgetKept (op : SimOperatorRecord ℝ μ) (context : SimContext ℝ μ) : Prop where
  frame : ∀ i, ¬WrittenField op i → (context.applyNormBudget op).fields[i]? = context.fields[i]?
  rest : { context.applyNormBudget op with fields := context.fields } = context
  bound : 0 < op.config.normBudget → ∀ i field, WrittenField op i →
    (context.applyNormBudget op).fields[i]? = some field → field.norm ≤ op.config.normBudget

/-- No field which is only read has to be rescaled, and no written field which the
budget is not enforced on. -/
structure NormBudgetFits (op : SimOperatorRecord ℝ μ) (context : SimContext ℝ μ) : Prop where
  spilled : ∀ i field, SpilledField op i → context.fields[i]? = some field →
    field.Enforceable → field.norm ≤ op.config.normBudget
  skipped : ∀ i field, WrittenField op i → context.fields[i]? = some field →
    ¬field.Enforceable → field.norm ≤ op.config.normBudget

/-- The fields afterwards, when the budget is enabled. -/
theorem applyNormBudget_fields (hExact : ExactReal) (hBudget : 0 < op.config.normBudget) (i : ℕ) :
    (WrittenField op i ∨ SpilledField op i → (context.applyNormBudget op).fields[i]? =
      context.fields[i]?.map (SimField.applyNormBudget op.config.normBudget)) ∧
    (¬(WrittenField op i ∨ SpilledField op i) →
      (context.applyNormBudget op).fields[i]? = context.fields[i]?) := by
  have hEnabled : CDouble.gt op.config.normBudget CDouble.zero = true := by
    rw [CDouble.gt, hExact.lt, hExact.zero]
    exact hBudget
  have hFields : (context.applyNormBudget op).fields = op.uniqueFields.foldl
      (fun fields i => fields.modify i.toNat fun field =>
        field.applyNormBudget op.config.normBudget) context.fields := by
    rw [SimContext.applyNormBudget, hEnabled]
    rfl
  have hNodup : op.uniqueFields.Nodup := (foldl_insert _ [] List.nodup_nil).1
  rw [hFields, foldl_modify_getElem? _ _ hNodup, ← collected_iff]
  exact ⟨fun hCollected => if_pos hCollected, fun hOther => if_neg hOther⟩

/-- A field which is only read stays within the budget, or it is rescaled. -/
theorem NormBudgetKept.spilled (hKept : NormBudgetKept op context) (hExact : ExactReal)
    (hBudget : 0 < op.config.normBudget) {i : ℕ} {field : SimField ℝ} (hSpilled : SpilledField op i)
    (hField : context.fields[i]? = some field) (hEnforceable : field.Enforceable) :
    field.norm ≤ op.config.normBudget := by
  by_contra hAbove
  rw [not_le] at hAbove
  -- the rescaled field has the norm of the budget
  have hSame := hKept.frame i hSpilled.1
  rw [(applyNormBudget_fields hExact hBudget i).1 (.inr hSpilled), hField] at hSame
  have hNorm := (SimField.applyNormBudget_enforced hExact hBudget hEnforceable).2 hAbove
  rw [Option.some.inj hSame] at hNorm
  exact hAbove.ne' hNorm

/-- The norm budget keeps its frame and its bound exactly when it is disabled or no
field is treated otherwise than its declaration says. -/
theorem normBudgetKept_iff (hExact : ExactReal) (op : SimOperatorRecord ℝ μ)
    (context : SimContext ℝ μ) :
    NormBudgetKept op context ↔ (0 < op.config.normBudget → NormBudgetFits op context) := by
  by_cases hBudget : 0 < op.config.normBudget
  · rw [imp_iff_right hBudget]
    constructor
    · intro hKept
      constructor
      · intro i field hSpilled hField hEnforceable
        exact hKept.spilled hExact hBudget hSpilled hField hEnforceable
      · intro i field hWritten hField hSkipped
        apply hKept.bound hBudget i field hWritten
        rw [(applyNormBudget_fields hExact hBudget i).1 (.inl hWritten), hField,
          Option.map_some, SimField.applyNormBudget_skipped hSkipped]
    · intro hFits
      refine ⟨?_, ?_, ?_⟩
      · intro i hUnwritten
        by_cases hCollected : WrittenField op i ∨ SpilledField op i
        · rw [(applyNormBudget_fields hExact hBudget i).1 hCollected]
          have hSpilled := hCollected.resolve_left hUnwritten
          cases hField : context.fields[i]? with
          | none => rfl
          | some field =>
              rw [Option.map_some]
              congr 1
              by_cases hEnforceable : field.Enforceable
              · exact (SimField.applyNormBudget_enforced hExact hBudget hEnforceable).1
                  (hFits.spilled i field hSpilled hField hEnforceable)
              · exact SimField.applyNormBudget_skipped hEnforceable
        · exact (applyNormBudget_fields hExact hBudget i).2 hCollected
      · rw [SimContext.applyNormBudget]
        split_ifs <;> rfl
      · intro _ i field hWritten hField
        rw [(applyNormBudget_fields hExact hBudget i).1 (.inl hWritten)] at hField
        obtain ⟨before, hBefore, rfl⟩ := Option.map_eq_some_iff.mp hField
        by_cases hEnforceable : before.Enforceable
        · obtain ⟨hWithin, hScaled⟩ :=
            SimField.applyNormBudget_enforced hExact hBudget hEnforceable
          rcases le_or_gt before.norm op.config.normBudget with hLe | hAbove
          · rw [hWithin hLe]
            exact hLe
          · rw [hScaled hAbove]
        · rw [SimField.applyNormBudget_skipped hEnforceable]
          exact hFits.skipped i before hWritten hBefore hEnforceable
  · -- a budget of 0 or less disables the call
    have hDisabled : CDouble.gt op.config.normBudget CDouble.zero = false := by
      rw [Bool.eq_false_iff, ne_eq, CDouble.gt, hExact.lt, hExact.zero]
      exact hBudget
    refine iff_of_true ?_ fun hEnabled => absurd hEnabled hBudget
    refine ⟨fun i _ => ?_, ?_, fun hEnabled => absurd hEnabled hBudget⟩
    · rw [SimContext.applyNormBudget, hDisabled]
      rfl
    · rw [SimContext.applyNormBudget, hDisabled]
      rfl

end Fields

/-! ### A field which is only read -/

open Classical in
/-- The reals with their own arithmetic; what the budget does not use is left at 0. -/
noncomputable instance : CDouble ℝ where
  lit mantissa exponent := mantissa * 10 ^ exponent
  nan := 0
  pi := 0
  add a b := a + b
  sub a b := a - b
  mul a b := a * b
  div a b := a / b
  neg a := -a
  eq a b := decide (a = b)
  lt a b := decide (a < b)
  le a b := decide (a ≤ b)
  isfinite _ := true
  sin _ := 0
  cos _ := 0
  exp _ := 0
  fabs a := |a|
  log _ := 0
  tanh _ := 0
  sinh _ := 0
  sqrt a := Real.sqrt a
  floor _ := 0
  trunc _ := 0
  pow _ _ := 0
  fmod _ _ := 0
  copysign _ _ := 0
  cpow a _ := a
  ofI64 x := x.toInt
  ofU64 x := x.toNat
  toI64 _ := 0
  toU64 _ := 0
  toU32 _ := 0
  ofBits _ := 0
  toBits _ := 0
  digamma _ := 0
  trigamma _ := 0
  digamma7 _ := 0
  digamma5 _ := 0
  digammaTail _ _ := 0
  digammaMortici _ := 0
  indeterminate := 0

theorem exactReal : ExactReal where
  add _ _ := rfl
  mul _ _ := rfl
  div _ _ := rfl
  sqrt _ := rfl
  lt _ _ := decide_eq_true_iff
  zero := by
    show ((0 : ℤ) : ℝ) * 10 ^ (0 : ℤ) = 0
    simp

/-- An operator which reads field 0 and writes field 1, with a budget of 1. -/
noncomputable def budgetOperator : SimOperatorRecord ℝ Unit where
  dependencies := []
  readMask := 1
  writeMask := 2
  readIndices := [0]
  writeIndices := [1]
  representation := ⟨false, false, .unknown⟩
  config := ⟨.none, 1⟩
  warpLevel := .none
  kernel := none
  evaluate := none
  saveState := none
  restoreState := none
  userdata := none

/-- A field of a single real element. -/
def singleField (value : ℝ) : SimField ℝ :=
  SimField.ofElementSize ⟨[1], [1], true⟩ 8 (.lanes fun _ => value)

noncomputable def budgetContext : SimContext ℝ Unit :=
  { SimContext.init ⟨0, 0, 0, 0, 0⟩ () with fields := [singleField 2, singleField 0] }

theorem normBudgetKept_iff_single : NormBudgetKept budgetOperator budgetContext ↔
    (0 < budgetOperator.config.normBudget → NormBudgetFits budgetOperator budgetContext) :=
  normBudgetKept_iff exactReal budgetOperator budgetContext

theorem singleField_domain (value : ℝ) : (singleField value).domain = simScalarDomainF64 := rfl

theorem singleField_scalars (value : ℝ) : (singleField value).components = 1 ∧
    SimField.elementCount (singleField value).shape = 1 ∧ (singleField value).scalar 0 = value := by
  refine ⟨?_, rfl, ?_⟩
  · rw [SimField.components, singleField_domain]
    simp [singleField, SimField.ofElementSize, simScalarDomainF64, SimScalarDomain.isComplex]
  · apply SimField.scalar_eq (show (singleField value).data = some _ from rfl)
    · rw [singleField_domain]
      intro hDomain
      cases hDomain
    · rw [singleField_domain]
      intro hDomain
      cases hDomain

theorem singleField_enforceable (value : ℝ) : (singleField value).Enforceable := by
  obtain ⟨hComponents, hCount, _⟩ := singleField_scalars value
  refine ⟨by rw [hComponents]; exact one_ne_zero, .inl rfl, by rw [hCount]; exact one_ne_zero, ?_⟩
  rw [SimField.realData, singleField_domain]
  simp [singleField, SimField.ofElementSize, simScalarDomainF64, SimScalarDomain.isComplex]

/-- The field which is only read has norm 2 and is scaled down to 1. -/
theorem budgetContext_notKept : ¬NormBudgetKept budgetOperator budgetContext := by
  intro hKept
  have hUnwritten : ¬WrittenField budgetOperator 0 := by
    rintro ⟨field, hIndex, hMask | hListed⟩
    · rw [hIndex] at hMask
      exact absurd hMask (by decide)
    · rw [show field = 0 from BitVec.eq_of_toNat_eq hIndex] at hListed
      exact absurd hListed (by decide)
  have hSpilled : SpilledField budgetOperator 0 :=
    ⟨hUnwritten, 0, rfl, .inl List.mem_cons_self⟩
  have hWithin := hKept.spilled exactReal (show (0 : ℝ) < 1 from one_pos) hSpilled rfl
    (singleField_enforceable 2)
  have hNorm : (singleField 2).norm = 2 := by
    obtain ⟨hComponents, hCount, hScalar⟩ := singleField_scalars 2
    rw [SimField.norm, hComponents, hCount, Nat.mul_one, Finset.sum_range_one, hScalar,
      Real.sqrt_sq (by norm_num)]
  rw [hNorm] at hWithin
  exact absurd hWithin (show ¬(2 : ℝ) ≤ 1 by norm_num)

end Oakfield
