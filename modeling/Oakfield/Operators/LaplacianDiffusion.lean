import Oakfield.KernelIR.ExactDouble
import Oakfield.Library.Diffusion
import Oakfield.Operators.Laplacian
import Oakfield.Operators.NeighborLinks
import Mathlib.Algebra.BigOperators.Fin

/-! In exact arithmetic the `laplacian` operator is an exchange along the links of its stencil. -/
namespace Oakfield

open KernelIR Library

attribute [local instance] two_atLeastTwo

/-! ### Samples along links -/

section Links

variable {K : Type} [Field K] [LinearOrder K] [CDouble K] [ExactDouble K]
variable {field : SimField K} {boundary : SimIRBoundaryPolicy} {shape : List ℕ} {elementSize : ℕ}
variable {offsets : List ℤ}

/-- The boundaries under which the centre stands for a missing neighbour. -/
def keepsCenter (boundary : SimIRBoundaryPolicy) : Bool := decide (boundary ≠ .dirichlet)

theorem laplacianSampleReal_eq (hLinks : Linkable field boundary shape elementSize offsets)
    (src : ℕ → K) (k : Fin shape.prod) :
    laplacianSampleReal (simNdOffsetNeighbor field k offsets boundary) src boundary (src k) =
      Diffusion.sample (keepsCenter boundary) (neighborLinks hLinks) (fun i => src i) k := by
  have hMissing : (if boundary = .dirichlet then CDouble.zero else src k) =
      if keepsCenter boundary then src k else 0 := by
    rw [keepsCenter, ExactDouble.zero_eq]
    by_cases hZero : boundary = .dirichlet <;> simp [hZero]
  have hSome := fun j => @neighborOf_eq_some_iff boundary shape offsets K field elementSize
    hLinks.dense hLinks.size hLinks.rank hLinks.policy hLinks.length hLinks.short k j k.isLt
  show laplacianSampleReal _ src boundary (src k) =
    (neighborTarget field boundary shape.prod offsets k).elim _ fun i => src i
  unfold laplacianSampleReal
  rw [neighborTarget, hMissing]
  cases hRun : simNdOffsetNeighbor field k offsets boundary with
  | error failure => rfl
  | ok neighbor =>
      rw [hRun] at hSome
      dsimp only [neighborOf] at hSome ⊢
      cases hValid : neighbor.valid with
      | false => rfl
      | true =>
          rw [hValid] at hSome
          have hBelow := ((hSome neighbor.index).mp rfl).1
          rw [show (if (!true) = true then none else some neighbor.index) = some neighbor.index
            from rfl, Option.bind_some, dif_pos hBelow]
          rfl

/-- The samples at a vector of offsets and at its negation, against the centre. -/
theorem exchange_neighborLinks (hLinks : Linkable field boundary shape elementSize offsets)
    (src : ℕ → K) (k : Fin shape.prod) :
    Diffusion.exchange (keepsCenter boundary) (neighborLinks hLinks) (fun i => src i) k =
      laplacianSampleReal (simNdOffsetNeighbor field k offsets boundary) src boundary (src k) -
        2 * src k +
        laplacianSampleReal (simNdOffsetNeighbor field k (offsets.map Neg.neg) boundary) src
          boundary (src k) := by
  rw [laplacianSampleReal_eq hLinks, laplacianSampleReal_eq hLinks.neg]
  rfl

/-- The offset of one axis. -/
def axisOffsets (rank axis : ℕ) (offset : ℤ) : List ℤ := (List.replicate rank 0).set axis offset

theorem axisOffsets_map (f : ℤ → ℤ) (hZero : f 0 = 0) (rank axis : ℕ) (offset : ℤ) :
    (axisOffsets rank axis offset).map f = axisOffsets rank axis (f offset) := by
  rw [axisOffsets, List.map_set, List.map_replicate, hZero]
  rfl

theorem shortOffsets_axis {offset : ℤ} (hShort : 2 * (offset.natAbs : ℤ) ≤ ptrdiffMax)
    (rank axis : ℕ) : ShortOffsets (axisOffsets rank axis offset) := by
  intro other hOther
  rcases List.mem_or_eq_of_mem_set hOther with hZero | rfl
  · obtain rfl := List.eq_of_mem_replicate hZero
    decide
  · exact hShort

omit [Field K] [LinearOrder K] [CDouble K] [ExactDouble K] in
theorem linkable_axis (hDense : DenseField field shape elementSize) (hSize : 8 ≤ elementSize)
    (hRank : shape ≠ []) (hPolicy : boundary ≠ .reflective) {offset : ℤ}
    (hShort : 2 * (offset.natAbs : ℤ) ≤ ptrdiffMax) (axis : ℕ) :
    Linkable field boundary shape elementSize (axisOffsets shape.length axis offset) where
  dense := hDense
  size := hSize
  rank := hRank
  policy := hPolicy
  length := by rw [axisOffsets, List.length_set, List.length_replicate]
  short := shortOffsets_axis hShort shape.length axis

omit [Field K] [LinearOrder K] [ExactDouble K] in
theorem laplacianSampleRealAxis_eq (hDense : DenseField field shape elementSize)
    (hSize : 8 ≤ elementSize) {axis : ℕ} (hAxis : axis < shape.length) (src : ℕ → K) (k : ℕ)
    (offset : ℤ) (center : K) :
    laplacianSampleRealAxis field k boundary src axis offset center =
      laplacianSampleReal
        (simNdOffsetNeighbor field k (axisOffsets shape.length axis offset) boundary) src boundary
        center := by
  have hCount := hDense.count hSize
  rw [laplacianSampleRealAxis, simNdAxisOffsetNeighbor_eq hDense.positive (by omega)
    hDense.initialized hDense.shape_eq hDense.strides_eq hAxis]
  rfl

end Links

/-! ### Stencils -/

section Stencils

variable {K : Type} [Field K] [LinearOrder K] [IsStrictOrderedRing K] [CDouble K] [ExactDouble K]
variable {field : SimField K} {config : SimLaplacianOperatorConfig K} {shape : List ℕ}
variable {elementSize : ℕ}

/-- A value computed from the elements of a field is the one of a diffusive operator, which
constants are lost on unless zero stands for a missing neighbour. -/
def ComputesDiffusion (boundary : SimIRBoundaryPolicy) (count : ℕ) (value : (ℕ → K) → ℕ → K) :
    Prop :=
  ∃ L : (Fin count → K) → Fin count → K, Diffusion.Diffusive L ∧
    (boundary ≠ .dirichlet → ∀ i, L (fun _ => 1) i = 0) ∧
    ∀ (src : ℕ → K) (k : Fin count), value src k = L (fun i => src i) k

omit [CDouble K] [ExactDouble K] in
theorem ComputesDiffusion.add {boundary : SimIRBoundaryPolicy} {count : ℕ}
    {first second : (ℕ → K) → ℕ → K} (hFirst : ComputesDiffusion boundary count first)
    (hSecond : ComputesDiffusion boundary count second) :
    ComputesDiffusion boundary count fun src k => first src k + second src k := by
  obtain ⟨L, hL, hConst, hValue⟩ := hFirst
  obtain ⟨M, hM, hConst', hValue'⟩ := hSecond
  refine ⟨fun u i => L u i + M u i, hL.add hM, fun hKeeps i => ?_, fun src k => ?_⟩
  · dsimp only
    rw [hConst hKeeps, hConst' hKeeps, add_zero]
  · dsimp only
    rw [hValue, hValue']

omit [CDouble K] [ExactDouble K] in
theorem ComputesDiffusion.smul {boundary : SimIRBoundaryPolicy} {count : ℕ}
    {value : (ℕ → K) → ℕ → K} {c : K} (hPos : 0 ≤ c)
    (hValue : ComputesDiffusion boundary count value) :
    ComputesDiffusion boundary count fun src k => c * value src k := by
  obtain ⟨L, hL, hConst, hValue⟩ := hValue
  refine ⟨fun u i => c * L u i, hL.smul hPos, fun hKeeps i => ?_, fun src k => ?_⟩
  · dsimp only
    rw [hConst hKeeps, mul_zero]
  · dsimp only
    rw [hValue]

/-- What the samples at a vector of offsets and its negation exchange with the centre. -/
def laplacianExchange (field : SimField K) (boundary : SimIRBoundaryPolicy) (offsets : List ℤ)
    (src : ℕ → K) (k : ℕ) : K :=
  laplacianSampleReal (simNdOffsetNeighbor field k offsets boundary) src boundary (src k) -
    2 * src k +
    laplacianSampleReal (simNdOffsetNeighbor field k (offsets.map Neg.neg) boundary) src boundary
      (src k)

theorem keepsCenter_eq {boundary : SimIRBoundaryPolicy} (hKeeps : boundary ≠ .dirichlet) :
    keepsCenter boundary = true :=
  decide_eq_true hKeeps

theorem computesDiffusion_exchange {boundary : SimIRBoundaryPolicy} {offsets : List ℤ}
    (hLinks : Linkable field boundary shape elementSize offsets) :
    ComputesDiffusion boundary shape.prod (laplacianExchange field boundary offsets) := by
  refine ⟨_, Diffusion.diffusive_exchange (keepsCenter boundary) (neighborLinks hLinks),
    fun hKeeps i => ?_, fun src k => ?_⟩
  · rw [keepsCenter_eq hKeeps, Diffusion.exchange_const]
  · rw [exchange_neighborLinks hLinks]
    rfl

theorem computesDiffusion_twice {boundary : SimIRBoundaryPolicy} {offsets : List ℤ}
    (hLinks : Linkable field boundary shape elementSize offsets)
    (hTwice : Linkable field boundary shape elementSize (offsets.map (2 * ·))) :
    ComputesDiffusion boundary shape.prod fun src k =>
      16 * laplacianExchange field boundary offsets src k -
        laplacianExchange field boundary (offsets.map (2 * ·)) src k := by
  refine ⟨_, Diffusion.diffusive_exchange_twice (keepsCenter boundary) (neighborLinks hLinks),
    fun hKeeps i => ?_, fun src k => ?_⟩
  · rw [keepsCenter_eq hKeeps, Diffusion.exchange_const, Diffusion.exchange_const, mul_zero,
      sub_zero]
  · dsimp only
    rw [← neighborLinks_twice hLinks hTwice, exchange_neighborLinks hLinks,
      exchange_neighborLinks hTwice]
    rfl

omit [IsStrictOrderedRing K] in
theorem laplacianCross2_eq (dx f0 fp1 fm1 : K) :
    laplacianCross2 dx f0 fp1 fm1 = (dx * dx)⁻¹ * (fp1 - 2 * f0 + fm1) := by
  rw [laplacianCross2]
  simp only [ExactDouble.div_eq, ExactDouble.add_eq, ExactDouble.sub_eq, ExactDouble.mul_eq,
    ExactDouble.two_eq]
  rw [div_eq_inv_mul]

omit [IsStrictOrderedRing K] in
theorem laplacianCross4_eq (dx f0 fp1 fm1 fp2 fm2 : K) :
    laplacianCross4 dx f0 fp1 fm1 fp2 fm2 =
      (12 * (dx * dx))⁻¹ * (16 * (fp1 - 2 * f0 + fm1) - (fp2 - 2 * f0 + fm2)) := by
  rw [laplacianCross4]
  simp only [ExactDouble.div_eq, ExactDouble.add_eq, ExactDouble.sub_eq, ExactDouble.mul_eq,
    ExactDouble.neg_eq, ExactDouble.lit_zero, Int.cast_ofNat]
  rw [div_eq_inv_mul, mul_assoc]
  ring

/-- A second difference along an axis, by the order of its cross stencil. -/
theorem computesDiffusion_second (hDense : DenseField field shape elementSize)
    (hSize : 8 ≤ elementSize) (hRank : shape ≠ []) (hPolicy : config.boundary ≠ .reflective)
    {axis : ℕ} (hAxis : axis < shape.length) (dx : K) :
    ComputesDiffusion config.boundary shape.prod fun src k =>
      laplacianSecondReal field config src k axis dx := by
  have hNeg : ∀ offset : ℤ, axisOffsets shape.length axis (-offset) =
      (axisOffsets shape.length axis offset).map Neg.neg :=
    fun offset => (axisOffsets_map Neg.neg rfl _ _ _).symm
  have hDouble : axisOffsets shape.length axis 2 =
      (axisOffsets shape.length axis 1).map (2 * ·) :=
    (axisOffsets_map (2 * ·) rfl _ _ 1).symm
  have hOne := @linkable_axis K field config.boundary shape elementSize hDense hSize hRank hPolicy
    1 (by decide) axis
  have hTwo := @linkable_axis K field config.boundary shape elementSize hDense hSize hRank hPolicy
    2 (by decide) axis
  have hSample := fun src k offset center => @laplacianSampleRealAxis_eq K _ field config.boundary
    shape elementSize hDense hSize axis hAxis src k offset center
  have hSquare : 0 ≤ dx * dx := mul_self_nonneg dx
  have hSecond : ∀ src k, laplacianCross2 dx (src k)
      (laplacianSampleRealAxis field k config.boundary src axis 1 (src k))
      (laplacianSampleRealAxis field k config.boundary src axis (-1) (src k)) =
        (dx * dx)⁻¹ * laplacianExchange field config.boundary (axisOffsets shape.length axis 1)
          src k := by
    intro src k
    rw [hSample, hSample, laplacianCross2_eq, hNeg]
    rfl
  have hFourth : ∀ src k, laplacianCross4 dx (src k)
      (laplacianSampleRealAxis field k config.boundary src axis 1 (src k))
      (laplacianSampleRealAxis field k config.boundary src axis (-1) (src k))
      (laplacianSampleRealAxis field k config.boundary src axis 2 (src k))
      (laplacianSampleRealAxis field k config.boundary src axis (-2) (src k)) =
        (12 * (dx * dx))⁻¹ *
          (16 * laplacianExchange field config.boundary (axisOffsets shape.length axis 1) src k -
            laplacianExchange field config.boundary
              ((axisOffsets shape.length axis 1).map (2 * ·)) src k) := by
    intro src k
    rw [hSample, hSample, hSample, hSample, laplacianCross4_eq, hNeg 1, hNeg 2, ← hDouble]
    rfl
  unfold laplacianSecondReal
  cases config.stencil with
  | cross4 =>
      dsimp only
      simp only [hFourth]
      rw [hDouble] at hTwo
      exact (computesDiffusion_twice hOne hTwo).smul (inv_nonneg.mpr (by linarith))
  | cross2 | isotropic9 =>
      dsimp only
      simp only [hSecond]
      exact (computesDiffusion_exchange hOne).smul (inv_nonneg.mpr hSquare)

omit [IsStrictOrderedRing K] in
theorem laplacianIsotropic9_eq (dx center axialSum diagSum : K) :
    laplacianIsotropic9 dx center axialSum diagSum =
      (6 * (dx * dx))⁻¹ * (4 * axialSum + diagSum - 20 * center) := by
  rw [laplacianIsotropic9]
  simp only [ExactDouble.div_eq, ExactDouble.add_eq, ExactDouble.sub_eq, ExactDouble.mul_eq,
    ExactDouble.one_eq, ExactDouble.lit_zero, Int.cast_ofNat]
  rw [div_div, one_div, mul_comm (dx * dx), mul_comm]

/-- The nine-point stencil exchanges along the axes and the diagonals. -/
theorem computesDiffusion_isotropic (hDense : DenseField field shape elementSize)
    (hSize : 8 ≤ elementSize) (hRank : shape.length = 2) (hPolicy : config.boundary ≠ .reflective)
    (hStencil : config.stencil = .isotropic9) (axes : ℕ × ℕ) :
    ComputesDiffusion config.boundary shape.prod (laplacianRealValue field config axes) := by
  have hLinks : ∀ first second : ℤ, 2 * (first.natAbs : ℤ) ≤ ptrdiffMax →
      2 * (second.natAbs : ℤ) ≤ ptrdiffMax →
        Linkable field config.boundary shape elementSize [first, second] := by
    intro first second hFirst hSecond
    refine ⟨hDense, hSize, fun hNil => ?_, hPolicy, hRank.symm, ?_⟩
    · rw [hNil] at hRank
      exact (nomatch hRank)
    · rintro offset hOffset
      rw [List.mem_pair] at hOffset
      rcases hOffset with rfl | rfl
      · exact hFirst
      · exact hSecond
  have hExchange := fun first second hFirst hSecond =>
    computesDiffusion_exchange (hLinks first second hFirst hSecond)
  have hAxial := ((hExchange 1 0 (by decide) (by decide)).add
    (hExchange 0 1 (by decide) (by decide))).smul (by norm_num : (0 : K) ≤ 4)
  have hDiagonal := (hExchange 1 1 (by decide) (by decide)).add
    (hExchange 1 (-1) (by decide) (by decide))
  have hInverse : (0 : K) ≤ (6 * (config.spacingX * config.spacingX))⁻¹ := by
    have hSquare := mul_self_nonneg config.spacingX
    exact inv_nonneg.mpr (by linarith)
  obtain ⟨L, hL, hConst, hValue⟩ := (hAxial.add hDiagonal).smul hInverse
  refine ⟨L, hL, hConst, fun src k => ?_⟩
  rw [← hValue]
  unfold laplacianRealValue
  rw [hStencil]
  dsimp only [laplacianSampleRealOffset, laplacianExchange]
  rw [show [1, 0].map Neg.neg = ([-1, 0] : List ℤ) from rfl,
    show [0, 1].map Neg.neg = ([0, -1] : List ℤ) from rfl,
    show [1, 1].map Neg.neg = ([-1, -1] : List ℤ) from rfl,
    show [1, -1].map Neg.neg = ([-1, 1] : List ℤ) from rfl]
  simp only [laplacianIsotropic9_eq, ExactDouble.add_eq, ExactDouble.zero_eq]
  ring

omit [Field K] [LinearOrder K] [IsStrictOrderedRing K] [CDouble K] [ExactDouble K] in
theorem laplacianResolveAxes_some {axes : ℕ × ℕ}
    (hAxes : laplacianResolveAxes field config = some axes) :
    axes.1 < field.shape.length ∧ axes.2 < field.shape.length := by
  unfold laplacianResolveAxes at hAxes
  generalize hRank : (if field.initialized then field.shape.length else 0) = rank at hAxes
  have hLe : rank ≤ field.shape.length := by
    rw [← hRank]
    split
    · exact Nat.le_refl _
    · exact Nat.zero_le _
  dsimp only at hAxes
  generalize (if config.axisX = simLaplacianAxisAuto then rank - 1 else config.axisX) =
    axisX at hAxes
  generalize (if config.axisY = simLaplacianAxisAuto then rank - 2 else config.axisY) =
    axisY at hAxes
  split_ifs at hAxes with hTwo hChosen
  obtain rfl := Option.some.inj hAxes
  dsimp only
  omega

/-- Every stencil computes a diffusive operator. -/
theorem computesDiffusion_real (hDense : DenseField field shape elementSize)
    (hSize : 8 ≤ elementSize) (hPolicy : config.boundary ≠ .reflective) {axes : ℕ × ℕ}
    (hAxes : laplacianResolveAxes field config = some axes)
    (hIsotropic : config.stencil = .isotropic9 → shape.length = 2) :
    ComputesDiffusion config.boundary shape.prod (laplacianRealValue field config axes) := by
  obtain ⟨hFirst, hSecond⟩ := laplacianResolveAxes_some hAxes
  rw [hDense.shape_eq] at hFirst hSecond
  have hRank : shape ≠ [] := List.ne_nil_of_length_pos (Nat.lt_of_le_of_lt (Nat.zero_le _) hFirst)
  cases hStencil : config.stencil with
  | isotropic9 =>
      exact computesDiffusion_isotropic hDense hSize (hIsotropic hStencil) hPolicy hStencil axes
  | cross2 | cross4 =>
      unfold laplacianRealValue
      rw [hStencil]
      simp only [ExactDouble.add_eq]
      exact (computesDiffusion_second hDense hSize hRank hPolicy hFirst _).add
        (computesDiffusion_second hDense hSize hRank hPolicy hSecond _)

end Stencils

/-! ### Applications -/

section Applications

/-- A dense field of doubles, or of pairs of them. -/
structure DoubleField {D : Type} (field : SimField D) (shape : List ℕ) (complex : Bool) : Prop
    extends DenseField field shape (if complex then 16 else 8) where
  data : (if complex then field.complexData else field.realData).isSome

/-- What an application needs to run. -/
structure LaplacianReady {D : Type} [CDouble D] (fields : List (SimField D))
    (config : SimLaplacianOperatorConfig D) (shape : List ℕ) (complex : Bool)
    (input output : SimField D) : Prop where
  distinct : config.inputField ≠ config.outputField
  input_eq : fields[config.inputField]? = some input
  output_eq : fields[config.outputField]? = some output
  input_double : DoubleField input shape complex
  output_double : DoubleField output shape complex
  axes : (laplacianResolveAxes input config).isSome
  isotropic : config.stencil = .isotropic9 → laplacianIsotropicAllowed input config = true

/-- The fields with other contents of one of them. -/
def holding {D : Type} (fields : List (SimField D)) (k : ℕ) (u : ℕ → D) : List (SimField D) :=
  fields.modify k fun field => { field with data := some (.lanes u) }

/-- An application on an input which holds `u`: its result, and what the output then holds. -/
def laplacianRun {D : Type} [CDouble D] (dt : D) (runtime : SimRuntimeState D)
    (fields : List (SimField D)) (config : SimLaplacianOperatorConfig D) (u : ℕ → D) :
    Except SimError Unit × (ℕ → D) :=
  let fields := holding fields config.inputField u
  let outcome := laplacianApply dt fields runtime config
  let output := (writeFields outcome.writes fields)[config.outputField]?.bind SimField.buffer
  (outcome.result, (output.map FieldData.lane).getD fun _ => CDouble.indeterminate)

variable {K : Type} [Field K] [LinearOrder K] [CDouble K] {dt : K} {runtime : SimRuntimeState K}
variable {fields : List (SimField K)} {config : SimLaplacianOperatorConfig K} {shape : List ℕ}
variable {complex : Bool} {input output : SimField K}

omit [Field K] [LinearOrder K] in
theorem elementCount_of_dense {D : Type} {field : SimField D} {elementSize : ℕ}
    (hDense : DenseField field shape elementSize) (hSize : 8 ≤ elementSize) (hRank : shape ≠ []) :
    SimField.elementCount field.shape = shape.prod := by
  have hCount := hDense.count hSize
  rw [hDense.shape_eq, elementCount_eq_prod_mod hRank, Nat.mod_eq_of_lt (by omega)]

omit [Field K] [LinearOrder K] in
theorem LaplacianReady.validates (hReady : LaplacianReady fields config shape complex input output)
    (hRank : shape ≠ []) : laplacianValidateFields input output = true := by
  have hSize : 8 ≤ if complex then 16 else 8 := by cases complex <;> decide
  have hInput := elementCount_of_dense hReady.input_double.toDenseField hSize hRank
  have hOutput := elementCount_of_dense hReady.output_double.toDenseField hSize hRank
  have hPos := MixedRadix.prod_pos hReady.input_double.positive
  rw [laplacianValidateFields, hInput, hOutput, hReady.input_double.elementSize_eq,
    hReady.output_double.elementSize_eq]
  simp only [ne_eq, not_true_eq_false, or_false, if_false, Nat.ne_of_gt hPos]
  cases complex <;> rfl

/-- The store of an application, given the value of each lane. -/
def laplacianLanes {D : Type} [CDouble D] (dt : D) (config : SimLaplacianOperatorConfig D)
    (count : ℕ) (old value : ℕ → D) (k : ℕ) : D :=
  if k < count then laplacianStore config (laplacianScale dt config) (old k) (value k) else old k

theorem output_writeFields {D : Type} {fields : List (SimField D)} {field : SimField D} {k : ℕ}
    (hField : fields[k]? = some field) (hInit : field.initialized = true)
    (hData : field.data.isSome) {writes : ℕ → Option (FieldWrite D)} {lane : ℕ → D}
    {repr : SimFieldRepresentation} {complexMode : Bool}
    (hWrite : writes k = some ⟨.lanes lane, repr, complexMode⟩) :
    (writeFields writes fields)[k]?.bind SimField.buffer = some (.lanes lane) := by
  obtain ⟨data, hSome⟩ := Option.isSome_iff_exists.mp hData
  rw [writeFields, List.getElem?_mapIdx, hField, Option.map_some, Option.bind_some, hWrite]
  dsimp only [SimField.buffer, SimField.write]
  rw [hInit, hSome]
  rfl

/-- What a field holds. -/
def heldLanes {D : Type} [CDouble D] (field : SimField D) : ℕ → D :=
  (field.data.map FieldData.lane).getD fun _ => CDouble.indeterminate

omit [Field K] [LinearOrder K] in
theorem isotropic_passes (hReady : LaplacianReady fields config shape complex input output)
    (u : ℕ → K) :
    ¬ (config.stencil = .isotropic9 ∧
      laplacianIsotropicAllowed { input with data := some (.lanes u) } config = false) := by
  rintro ⟨hStencil, hRefused⟩
  have hAllowed := hReady.isotropic hStencil
  exact Bool.false_ne_true (hRefused.symm.trans hAllowed)

omit [Field K] [LinearOrder K] in
theorem getElem?_holding (hReady : LaplacianReady fields config shape complex input output)
    (u : ℕ → K) :
    (holding fields config.inputField u)[config.inputField]? =
        some { input with data := some (.lanes u) } ∧
      (holding fields config.inputField u)[config.outputField]? = some output := by
  rw [holding, List.getElem?_modify, List.getElem?_modify, hReady.input_eq, hReady.output_eq,
    Option.map_eq_map, Option.map_eq_map, Option.map_some, Option.map_some, if_pos rfl,
    if_neg hReady.distinct]
  exact ⟨rfl, rfl⟩

omit [Field K] [LinearOrder K] in
/-- Where a field keeps its data does not depend on what it holds. -/
theorem realData_replace {D : Type} {field : SimField D} {src : FieldData D}
    (hData : field.realData = some src) (data : FieldData D) :
    field.data = some src ∧
      ({ field with data := some data } : SimField D).realData = some data := by
  have hSame : ({ field with data := some data } : SimField D).domain = field.domain := rfl
  rw [SimField.realData] at hData ⊢
  rw [hSame]
  split_ifs at hData ⊢
  exact ⟨hData, rfl⟩

omit [Field K] [LinearOrder K] in
theorem complexData_replace {D : Type} {field : SimField D} {src : FieldData D}
    (hData : field.complexData = some src) (data : FieldData D) :
    field.data = some src ∧ field.storageIsComplex = true ∧
      ({ field with data := some data } : SimField D).complexData = some data := by
  have hSame : ({ field with data := some data } : SimField D).storageIsComplex =
      field.storageIsComplex := rfl
  rw [SimField.complexData] at hData ⊢
  rw [hSame]
  split_ifs at hData ⊢ with hRefused
  rw [Bool.or_eq_true, not_or, Bool.not_eq_true', Bool.not_eq_true'] at hRefused
  exact ⟨hData, by simpa using hRefused.2, rfl⟩

omit [Field K] [LinearOrder K] in
theorem LaplacianReady.rank (hReady : LaplacianReady fields config shape complex input output) :
    shape ≠ [] := by
  obtain ⟨axes, hAxes⟩ := Option.isSome_iff_exists.mp hReady.axes
  have hFirst := (laplacianResolveAxes_some hAxes).1
  rintro rfl
  rw [hReady.input_double.shape_eq] at hFirst
  exact Nat.not_lt_zero _ hFirst

omit [Field K] [LinearOrder K] in
theorem heldLanes_of_data {data : FieldData K} (hData : output.data = some data) :
    heldLanes output = data.lane := by
  rw [heldLanes, hData]
  rfl

omit [Field K] [LinearOrder K] in
/-- What the call and the field list make of lanes which are written. -/
theorem laplacianRun_of_apply (hReady : LaplacianReady fields config shape complex input output)
    {u lane : ℕ → K} {dst : FieldData K} (hData : output.data = some dst)
    (hApply : laplacianApply dt (holding fields config.inputField u) runtime config =
      ⟨fun k => if k = config.outputField then
        some ⟨.lanes lane, output.repr, output.complexMode⟩ else none, config, .ok ()⟩) :
    laplacianRun dt runtime fields config u = (.ok (), lane) := by
  have hSome : output.data.isSome := by
    rw [hData]
    rfl
  rw [laplacianRun, hApply]
  dsimp only
  rw [output_writeFields (getElem?_holding hReady u).2 hReady.output_double.initialized hSome
    (if_pos rfl)]
  rfl

omit [Field K] [LinearOrder K] in
/-- An application to real fields. -/
theorem laplacianRun_real (hReady : LaplacianReady fields config shape false input output)
    {axes : ℕ × ℕ} (hAxes : laplacianResolveAxes input config = some axes) (u : ℕ → K) :
    laplacianRun dt runtime fields config u =
      (.ok (), laplacianLanes dt config shape.prod (heldLanes output)
        (laplacianRealValue input config axes u)) := by
  have hDense := hReady.input_double.toDenseField
  have hCount := elementCount_of_dense hDense (Nat.le_refl 8) hReady.rank
  have hStorage : input.storageIsComplex = false := by
    rw [SimField.storageIsComplex, hDense.elementSize_eq]
    exact Bool.and_false _
  obtain ⟨src, hSrc⟩ := Option.isSome_iff_exists.mp hReady.input_double.data
  obtain ⟨dst, hDst⟩ := Option.isSome_iff_exists.mp hReady.output_double.data
  have hTarget : output.realData = some dst := hDst
  have hHeld := (realData_replace hSrc (.lanes u)).2
  have hData := (realData_replace hDst dst).1
  obtain ⟨hInput, hOutput⟩ := getElem?_holding hReady u
  refine laplacianRun_of_apply hReady hData ?_
  rw [laplacianApply, hInput, hOutput, heldLanes_of_data hData]
  dsimp only
  rw [show laplacianValidateFields { input with data := some (.lanes u) } output = true from
      hReady.validates hReady.rank,
    show laplacianResolveAxes { input with data := some (.lanes u) } config = some axes from hAxes,
    hCount,
    show ({ input with data := some (.lanes u) } : SimField K).storageIsComplex = false
      from hStorage, hHeld, hTarget, if_neg (show ¬ (!true) = true by decide)]
  dsimp only
  rw [if_neg (isotropic_passes hReady u), if_neg Bool.false_ne_true]
  rfl

/-- The values of the lanes of complex elements. -/
def interleavedValue {D : Type} (values : ℕ → SimComplexDouble D) (k : ℕ) : D :=
  if k % 2 = 0 then (values (k / 2)).re else (values (k / 2)).im

omit [Field K] [LinearOrder K] in
/-- An application to complex fields. -/
theorem laplacianRun_complex (hReady : LaplacianReady fields config shape true input output)
    {axes : ℕ × ℕ} (hAxes : laplacianResolveAxes input config = some axes) (u : ℕ → K) :
    laplacianRun dt runtime fields config u =
      (.ok (), laplacianLanes dt config (2 * shape.prod) (heldLanes output)
        (interleavedValue (laplacianComplexValue input config axes fun i =>
          ⟨u (2 * i), u (2 * i + 1)⟩))) := by
  have hDense := hReady.input_double.toDenseField
  have hCount := elementCount_of_dense hDense (by decide) hReady.rank
  obtain ⟨src, hSrc⟩ := Option.isSome_iff_exists.mp hReady.input_double.data
  obtain ⟨dst, hDst⟩ := Option.isSome_iff_exists.mp hReady.output_double.data
  have hTarget : output.complexData = some dst := hDst
  obtain ⟨-, hStorage, hHeld⟩ := complexData_replace hSrc (.lanes u)
  have hData := (complexData_replace hDst dst).1
  obtain ⟨hInput, hOutput⟩ := getElem?_holding hReady u
  refine laplacianRun_of_apply hReady hData ?_
  rw [laplacianApply, hInput, hOutput, heldLanes_of_data hData]
  dsimp only
  rw [show laplacianValidateFields { input with data := some (.lanes u) } output = true from
      hReady.validates hReady.rank,
    show laplacianResolveAxes { input with data := some (.lanes u) } config = some axes from hAxes,
    hCount,
    show ({ input with data := some (.lanes u) } : SimField K).storageIsComplex = true
      from hStorage, hHeld, hTarget, if_neg (show ¬ (!true) = true by decide)]
  dsimp only
  rw [if_neg (isotropic_passes hReady u), if_pos rfl]
  rfl

/-- The real part of a complex sample is the sample of the real parts. -/
theorem laplacianSampleComplex_re {D : Type} [CDouble D]
    (neighbor : Except SimError SimNdNeighbor) (src : ℕ → SimComplexDouble D)
    (boundary : SimIRBoundaryPolicy) (center : SimComplexDouble D) :
    (laplacianSampleComplex neighbor src boundary center).re =
      laplacianSampleReal neighbor (fun i => (src i).re) boundary center.re := by
  unfold laplacianSampleComplex laplacianSampleReal
  cases neighbor with
  | error failure => exact apply_ite SimComplexDouble.re _ _ _
  | ok neighbor =>
      dsimp only
      rw [apply_ite SimComplexDouble.re, apply_ite SimComplexDouble.re]

theorem laplacianSampleComplex_im {D : Type} [CDouble D]
    (neighbor : Except SimError SimNdNeighbor) (src : ℕ → SimComplexDouble D)
    (boundary : SimIRBoundaryPolicy) (center : SimComplexDouble D) :
    (laplacianSampleComplex neighbor src boundary center).im =
      laplacianSampleReal neighbor (fun i => (src i).im) boundary center.im := by
  unfold laplacianSampleComplex laplacianSampleReal
  cases neighbor with
  | error failure => exact apply_ite SimComplexDouble.im _ _ _
  | ok neighbor =>
      dsimp only
      rw [apply_ite SimComplexDouble.im, apply_ite SimComplexDouble.im]

/-- The complex loop does to each part what the real loop does to a real field. -/
theorem laplacianComplexValue_parts [ExactDouble K] (field : SimField K)
    (config : SimLaplacianOperatorConfig K) (axes : ℕ × ℕ) (src : ℕ → SimComplexDouble K) (k : ℕ) :
    laplacianComplexValue field config axes src k =
      ⟨laplacianRealValue field config axes (fun i => (src i).re) k,
        laplacianRealValue field config axes (fun i => (src i).im) k⟩ := by
  have hSecond : ∀ axis dx, laplacianSecondComplex field config src k axis dx =
      ⟨laplacianSecondReal field config (fun i => (src i).re) k axis dx,
        laplacianSecondReal field config (fun i => (src i).im) k axis dx⟩ := by
    intro axis dx
    unfold laplacianSecondComplex laplacianSecondReal laplacianSampleComplexAxis
      laplacianSampleRealAxis
    simp only [laplacianSampleComplex_re, laplacianSampleComplex_im]
    cases config.stencil <;> rfl
  unfold laplacianComplexValue laplacianRealValue laplacianSampleComplexOffset
    laplacianSampleRealOffset
  simp only [laplacianSampleComplex_re, laplacianSampleComplex_im, hSecond]
  cases config.stencil with
  | isotropic9 => simp only [ExactDouble.add_eq, ExactDouble.zero_eq, zero_add]
  | cross2 | cross4 => rfl

/-- Only the layout of the field counts. -/
theorem laplacianRealValue_layout {D : Type} [CDouble D] {field other : SimField D}
    (hInit : field.initialized = other.initialized) (hShape : field.shape = other.shape)
    (hStrides : field.strides = other.strides) (config : SimLaplacianOperatorConfig D)
    (axes : ℕ × ℕ) (src : ℕ → D) (k : ℕ) :
    laplacianRealValue field config axes src k = laplacianRealValue other config axes src k := by
  have hOffset : ∀ offsets, simNdOffsetNeighbor field k offsets config.boundary =
      simNdOffsetNeighbor other k offsets config.boundary := by
    intro offsets
    rw [simNdOffsetNeighbor, simNdOffsetNeighbor, hInit, hShape, hStrides]
  have hAxis : ∀ axis offset, simNdAxisOffsetNeighbor field k axis offset config.boundary =
      simNdAxisOffsetNeighbor other k axis offset config.boundary := by
    intro axis offset
    rw [simNdAxisOffsetNeighbor, simNdAxisOffsetNeighbor, hInit, hShape, hStrides]
  unfold laplacianRealValue laplacianSampleRealOffset laplacianSecondReal laplacianSampleRealAxis
  simp only [hOffset, hAxis]

/-- The configuration with accumulation on or off. -/
def SimLaplacianOperatorConfig.accumulating {D : Type} (config : SimLaplacianOperatorConfig D)
    (accumulate : Bool) : SimLaplacianOperatorConfig D :=
  { config with accumulate }

/-- What the operator does to real fields of a layout, and to complex ones of the same. -/
structure LaplacianDiffuses (dt : K) (runtime : SimRuntimeState K) (fields : List (SimField K))
    (config : SimLaplacianOperatorConfig K) (shape : List ℕ) (output : SimField K) : Prop where
  runs : ∀ accumulate u,
    (laplacianRun dt runtime fields (config.accumulating accumulate) u).1 = .ok ()
  conserves : config.boundary = .periodic ∨ config.boundary = .neumann → ∀ u,
    ∑ k ∈ Finset.range shape.prod,
      (laplacianRun dt runtime fields (config.accumulating false) u).2 k = 0
  symmetric : config.boundary ≠ .reflective → ∀ u v,
    ∑ k ∈ Finset.range shape.prod,
        v k * (laplacianRun dt runtime fields (config.accumulating false) u).2 k =
      ∑ k ∈ Finset.range shape.prod,
        u k * (laplacianRun dt runtime fields (config.accumulating false) v).2 k
  dissipates : config.boundary ≠ .reflective → ∀ u,
    ∑ k ∈ Finset.range shape.prod,
      u k * (laplacianRun dt runtime fields (config.accumulating false) u).2 k ≤ 0
  accumulates : ∀ u, ∀ k < shape.prod,
    (laplacianRun dt runtime fields (config.accumulating true) u).2 k =
      heldLanes output k + (laplacianRun dt runtime fields (config.accumulating false) u).2 k
  complex : ∀ complexFields complexInput complexOutput,
    LaplacianReady complexFields config shape true complexInput complexOutput →
      ∀ accumulate u, (laplacianRun dt runtime complexFields (config.accumulating accumulate) u).1 =
        .ok () ∧ ∀ k < shape.prod, ∀ part < 2,
          (laplacianRun dt runtime complexFields (config.accumulating accumulate) u).2
              (2 * k + part) =
            (if accumulate then heldLanes complexOutput (2 * k + part) else 0) +
              (laplacianRun dt runtime fields (config.accumulating false)
                fun i => u (2 * i + part)).2 k

omit [Field K] [LinearOrder K] in
theorem LaplacianReady.accumulating
    (hReady : LaplacianReady fields config shape complex input output) (accumulate : Bool) :
    LaplacianReady fields (config.accumulating accumulate) shape complex input output :=
  ⟨hReady.distinct, hReady.input_eq, hReady.output_eq, hReady.input_double, hReady.output_double,
    hReady.axes, hReady.isotropic⟩

/-- A write adds the scaled value to what stays of the old one. -/
theorem laplacianStore_eq [ExactDouble K] (scale old lap : K) (accumulate : Bool) :
    laplacianStore (config.accumulating accumulate) scale old lap =
      (if accumulate then old else 0) + scale * lap := by
  unfold laplacianStore SimLaplacianOperatorConfig.accumulating
  cases accumulate with
  | true => simp
  | false => simp

/-- In exact arithmetic the Laplacian conserves the sum when nothing leaves the field, is
symmetric, takes energy away, adds what it would write when it accumulates, and treats the parts
of complex elements alike. -/
theorem laplacianApply_diffuses [IsStrictOrderedRing K] [ExactDouble K]
    (hReady : LaplacianReady fields config shape false input output)
    (hScale : 0 < laplacianScale dt config) (runtime : SimRuntimeState K) :
    LaplacianDiffuses dt runtime fields config shape output := by
  obtain ⟨axes, hAxes⟩ := Option.isSome_iff_exists.mp hReady.axes
  have hDense := hReady.input_double.toDenseField
  have hRank : config.stencil = .isotropic9 → shape.length = 2 := by
    intro hStencil
    have hAllowed := hReady.isotropic hStencil
    rw [laplacianIsotropicAllowed, Bool.and_eq_true, hDense.shape_eq] at hAllowed
    exact of_decide_eq_true hAllowed.1
  have hRun : ∀ accumulate u, laplacianRun dt runtime fields (config.accumulating accumulate) u =
      (.ok (), laplacianLanes dt (config.accumulating accumulate) shape.prod (heldLanes output)
        (laplacianRealValue input config axes u)) :=
    fun accumulate u => laplacianRun_real (hReady.accumulating accumulate) hAxes u
  have hWritten : ∀ u, ∀ k < shape.prod,
      (laplacianRun dt runtime fields (config.accumulating false) u).2 k =
        laplacianScale dt config * laplacianRealValue input config axes u k := by
    intro u k hK
    rw [hRun]
    dsimp only [laplacianLanes]
    rw [if_pos hK, laplacianStore_eq, if_neg Bool.false_ne_true, zero_add]
    rfl
  have hTotal : ∀ f : ℕ → K, ∑ k ∈ Finset.range shape.prod, f k = ∑ k : Fin shape.prod, f k :=
    fun f => (Fin.sum_univ_eq_sum_range f shape.prod).symm
  have hDiffusion : config.boundary ≠ .reflective → ∃ L : (Fin shape.prod → K) → Fin shape.prod → K,
      Diffusion.Diffusive L ∧ (config.boundary ≠ .dirichlet → ∀ i, L (fun _ => 1) i = 0) ∧
        ∀ u (k : Fin shape.prod),
          (laplacianRun dt runtime fields (config.accumulating false) u).2 k =
            L (fun i => u i) k := by
    intro hPolicy
    obtain ⟨L, hL, hConst, hValue⟩ := (computesDiffusion_real hDense (Nat.le_refl 8) hPolicy hAxes
      hRank).smul hScale.le
    exact ⟨L, hL, hConst, fun u k => (hWritten u k k.isLt).trans (hValue u k)⟩
  constructor
  case runs =>
    intro accumulate u
    rw [hRun]
  case conserves =>
    intro hBoundary u
    have hPolicy : config.boundary ≠ .reflective ∧ config.boundary ≠ .dirichlet := by
      rcases hBoundary with hEq | hEq <;> rw [hEq] <;> exact ⟨by decide, by decide⟩
    obtain ⟨L, hL, hConst, hValue⟩ := hDiffusion hPolicy.1
    rw [hTotal, Finset.sum_congr rfl fun k _ => hValue u k]
    exact hL.sum_eq_zero (hConst hPolicy.2) _
  case symmetric =>
    intro hPolicy u v
    obtain ⟨L, hL, -, hValue⟩ := hDiffusion hPolicy
    rw [hTotal, hTotal]
    simp only [hValue]
    exact hL.symmetric (fun i => u i) fun i => v i
  case dissipates =>
    intro hPolicy u
    obtain ⟨L, hL, -, hValue⟩ := hDiffusion hPolicy
    rw [hTotal]
    simp only [hValue]
    exact hL.dissipative fun i => u i
  case accumulates =>
    intro u k hK
    rw [hWritten u k hK, hRun]
    dsimp only [laplacianLanes]
    rw [if_pos hK, laplacianStore_eq, if_pos rfl]
    rfl
  case complex =>
    intro complexFields complexInput complexOutput hComplex accumulate u
    have hLayout := hComplex.input_double.toDenseField
    have hInit := hLayout.initialized.trans hDense.initialized.symm
    have hShape := hLayout.shape_eq.trans hDense.shape_eq.symm
    have hStrides := hLayout.strides_eq.trans hDense.strides_eq.symm
    have hAxes' : laplacianResolveAxes complexInput config = some axes := by
      rw [← hAxes, laplacianResolveAxes, laplacianResolveAxes, hInit, hShape]
    have hRun' : laplacianRun dt runtime complexFields (config.accumulating accumulate) u = _ :=
      laplacianRun_complex (hComplex.accumulating accumulate) hAxes' u
    rw [hRun']
    refine ⟨rfl, fun k hK part hPart => ?_⟩
    have hValue : interleavedValue (laplacianComplexValue complexInput
        (config.accumulating accumulate) axes fun i => ⟨u (2 * i), u (2 * i + 1)⟩) (2 * k + part) =
          laplacianRealValue input config axes (fun i => u (2 * i + part)) k := by
      rw [interleavedValue, laplacianComplexValue_parts, show (2 * k + part) / 2 = k by omega]
      dsimp only
      rw [laplacianRealValue_layout hInit hShape hStrides,
        laplacianRealValue_layout hInit hShape hStrides]
      rcases (by omega : part = 0 ∨ part = 1) with rfl | rfl
      · rw [if_pos (by omega)]
        rfl
      · rw [if_neg (by omega)]
        rfl
    have hLane : 2 * k + part < 2 * shape.prod := by omega
    rw [hWritten _ k hK]
    dsimp only [laplacianLanes]
    rw [if_pos hLane, laplacianStore_eq, hValue]
    rfl

/-- Two fields of two elements, the larger stencil across an axis of one. -/
theorem laplacianApply_diffuses_pair :
    let field : SimField ℚ := SimField.ofElementSize ⟨[1, 2], [2, 1], true⟩ 8 (.words fun _ => 0)
    let config : SimLaplacianOperatorConfig ℚ :=
      ⟨0, 1, 1, 2, simLaplacianAxisAuto, simLaplacianAxisAuto, .cross4, .periodic, false, false⟩
    let runtime : SimRuntimeState ℚ := ⟨0, 0, 0, 0, false, [], [], 0⟩
    LaplacianDiffuses (1 : ℚ) runtime [field, field] config [1, 2] field := by
  intro field config runtime
  have hField : DoubleField field [1, 2] false :=
    ⟨⟨rfl, rfl, rfl, rfl, by decide, by decide⟩, by decide⟩
  refine laplacianApply_diffuses
    ⟨by decide, rfl, rfl, hField, hField, rfl, fun hStencil => ?_⟩ ?_ runtime
  · exact (nomatch (show SimLaplacianStencil.cross4 = .isotropic9 from hStencil))
  have hOne : laplacianScale (1 : ℚ) config = 1 := ExactDouble.one_eq
  rw [hOne]
  exact one_pos

end Applications

end Oakfield
