import Oakfield.Operators.ConvolutionParts
import Oakfield.Operators.ConvolutionPaths

/-! Applications of the minimal convolution to dense fields: they correlate the field, continued
over its ends, with a kernel in the plane. -/
namespace Oakfield

open KernelIR Library Library.Correlation

variable {D : Type} [CDouble D]

/-- What an application needs to run. -/
structure ConvolutionReady (fields : List (SimField D))
    (config : SimMinimalConvolutionOperatorConfig D) (shape : List ℕ) (complex : Bool)
    (input output : SimField D) : Prop where
  distinct : config.inputField ≠ config.outputField
  input_eq : fields[config.inputField]? = some input
  output_eq : fields[config.outputField]? = some output
  input_double : DoubleField input shape complex
  output_double : DoubleField output shape complex
  rank : shape.length = 1 ∨ shape.length = 2

/-- An application: its result, and what the output then holds. -/
def minimalConvolutionRun (heap : Heap) (dt : D) (fields : List (SimField D))
    (runtime : SimRuntimeState D) (state : SimMinimalConvolutionOperatorState D) :
    Except SimError Unit × (ℕ → D) :=
  let outcome := minimalConvolutionStep heap dt fields runtime state
  let output := (writeFields outcome.writes fields)[state.config.outputField]?
  (outcome.result, (output.map heldLanes).getD fun _ => CDouble.indeterminate)

/-- The factor of the writes. -/
def SimMinimalConvolutionOperatorConfig.scale (config : SimMinimalConvolutionOperatorConfig D)
    (dt : D) : D :=
  if config.scaleByDt then CDouble.fmax dt CDouble.zero else CDouble.one

/-! ### Samples of a run -/

section Values

variable {V : Type} (S : Samples D V)

/-- The samples which an application leaves in its output, by those of its arrays. -/
def SimMinimalConvolutionOperatorState.convolved (state : SimMinimalConvolutionOperatorState D)
    (shape : List ℕ) (src scratch dst : ℕ → V) (scale : D) : ℕ → V :=
  match shape with
  | [count] => state.apply S src dst count scale
  | [height, width] =>
      let plane := rowMajor height width
      let accumulate := state.config.accumulate
      match state.config.mode with
      | .separable =>
          let between := state.applyAxis2d S plane state.config.axis src scratch false CDouble.one
          state.applyAxis2d S plane state.config.axis.other between dst accumulate scale
      | .kernel2d => state.applyKernel2d S plane src dst accumulate scale
      | .axis => state.applyAxis2d S plane state.config.axis src dst accumulate scale
  | _ => dst

/-- A call that has been carried out. -/
structure Convolves (config : SimMinimalConvolutionOperatorConfig D) (output : SimField D)
    (outcome : CallbackOutcome D (SimMinimalConvolutionOperatorState D)) (lane : ℕ → D) : Prop where
  result : outcome.result = .ok ()
  writes : outcome.writes = fun k =>
    if k = config.outputField then some ⟨.lanes lane, output.repr, output.complexMode⟩ else none

/-- A call whose scratch array is refused. -/
structure LacksScratch (config : SimMinimalConvolutionOperatorConfig D) (shape : List ℕ)
    (outcome : CallbackOutcome D (SimMinimalConvolutionOperatorState D)) : Prop where
  mode : config.mode = .separable
  plane : shape.length = 2
  result : outcome.result = .error .outOfMemory
  writes : ∀ k, outcome.writes k = none

variable {heap : Heap} {shape : List ℕ} {complex : Bool} {input output : SimField D}
variable {state : SimMinimalConvolutionOperatorState D}

theorem requireScratch_some {bytes : ℕ} (hBytes : bytes ≠ 0)
    {after : SimMinimalConvolutionOperatorState D}
    (hSome : state.requireScratch heap bytes complex = some after) :
    ∃ scratch, after = { state with scratch := some scratch, scratchComplex := complex } := by
  have hFresh : SimMinimalConvolutionOperatorState.requireScratch.fresh heap bytes complex state =
      some after →
        ∃ scratch, after = { state with scratch := some scratch, scratchComplex := complex } := by
    intro hAfter
    unfold SimMinimalConvolutionOperatorState.requireScratch.fresh at hAfter
    split at hAfter
    · cases hAfter
    · cases hAfter
      exact ⟨_, rfl⟩
  unfold SimMinimalConvolutionOperatorState.requireScratch at hSome
  rw [if_neg hBytes] at hSome
  cases hScratch : state.scratch with
  | none =>
      rw [hScratch] at hSome
      exact hFresh hSome
  | some buffer =>
      rw [hScratch] at hSome
      dsimp only at hSome
      split at hSome
      · next hKept =>
          cases hSome
          refine ⟨buffer, ?_⟩
          rw [← hScratch, ← hKept.2]
      · exact hFresh hSome

theorem DoubleField.size (complex : Bool) : 8 ≤ if complex then 16 else 8 := by
  cases complex <;> decide

omit [CDouble D] in
theorem DoubleField.layout2d {height width : ℕ} {field : SimField D}
    (hDouble : DoubleField field [height, width] complex) :
    minimalConvolutionLayout2d field = some (rowMajor height width) := by
  have hCount := hDouble.toDenseField.count (DoubleField.size complex)
  have hPositive := hDouble.positive
  have hStrides := hDouble.strides_eq
  rw [layoutStrides_eq hPositive (by omega)] at hStrides
  rw [List.mem_cons, List.mem_cons, not_or, not_or] at hPositive
  rw [minimalConvolutionLayout2d, hDouble.shape_eq, hStrides]
  show (if _ then some (PlaneLayout.mk _ _ _ _) else none) = _
  rw [if_pos (by omega), List.prod_singleton]
  rfl

/-- The samples of the output are those of the arrays of its fields, unless the scratch array is
refused. -/
theorem evaluateSamples_convolves (heap : Heap) (scale : D) (src dst : ℕ → D)
    (hInput : DoubleField input shape complex) (hRank : shape.length = 1 ∨ shape.length = 2) :
    LacksScratch state.config shape
        (minimalConvolutionEvaluateSamples S heap scale input output src dst complex state) ∨
      ∃ scratch, Convolves state.config output
        (minimalConvolutionEvaluateSamples S heap scale input output src dst complex state)
        (S.lanes (state.convolved S shape (S.read src) (S.read scratch) (S.read dst) scale)) := by
  have hCount := elementCount_of_dense hInput.toDenseField (DoubleField.size complex)
    (by rintro rfl; exact absurd hRank (by decide))
  unfold minimalConvolutionEvaluateSamples
  rw [hCount, hInput.shape_eq]
  match shape, hRank with
  | [count], _ =>
      right
      refine ⟨src, rfl, ?_⟩
      show (fun k => if k = _ then some (FieldWrite.mk (.lanes (S.lanes (state.apply S _ _
        (List.prod [count]) _))) _ _) else none) = _
      rw [List.prod_singleton]
      rfl
  | [height, width], _ =>
      rw [hInput.layout2d]
      dsimp only [List.length_cons, List.length_nil]
      rw [if_neg (by decide), if_pos rfl]
      unfold SimMinimalConvolutionOperatorState.convolved
      cases hMode : state.config.mode with
      | axis => exact .inr ⟨src, rfl, rfl⟩
      | kernel2d => exact .inr ⟨src, rfl, rfl⟩
      | separable =>
          have hBytes : [height, width].prod * input.elementSize % 2 ^ 64 ≠ 0 := by
            have hFits := hInput.bytes
            have hPos := MixedRadix.prod_pos hInput.positive
            rw [hInput.elementSize_eq, Nat.mod_eq_of_lt hFits]
            have hSize := DoubleField.size complex
            exact Nat.mul_ne_zero (by omega) (by omega)
          dsimp only
          cases hScratch : state.requireScratch heap
              ([height, width].prod * input.elementSize % 2 ^ 64) complex with
          | none => exact .inl ⟨hMode, rfl, rfl, fun _ => rfl⟩
          | some after =>
              obtain ⟨scratch, rfl⟩ := requireScratch_some hBytes hScratch
              exact .inr ⟨scratch.lane, rfl, rfl⟩

end Values

/-! ### Runs -/

section Runs

variable {heap : Heap} {dt : D} {fields : List (SimField D)} {runtime : SimRuntimeState D}
variable {shape : List ℕ} {complex : Bool} {input output : SimField D}
variable {state : SimMinimalConvolutionOperatorState D}

omit [CDouble D] in
theorem DoubleField.held {field : SimField D} (hDouble : DoubleField field shape complex) :
    ∃ data, field.data = some data ∧
      (if complex then field.complexData else field.realData) = some data := by
  obtain ⟨data, hData⟩ := Option.isSome_iff_exists.mp hDouble.data
  refine ⟨data, ?_, hData⟩
  cases complex with
  | true =>
      have hComplex : field.complexData = some data := hData
      unfold SimField.complexData at hComplex
      split at hComplex
      · cases hComplex
      · exact hComplex
  | false =>
      have hReal : field.realData = some data := hData
      unfold SimField.realData at hReal
      split at hReal
      · cases hReal
      · split at hReal
        · cases hReal
        · exact hReal

/-- The output after writes of the call. -/
theorem Convolves.run (hReady : ConvolutionReady fields state.config shape complex input output)
    {outcome : CallbackOutcome D (SimMinimalConvolutionOperatorState D)} {lane : ℕ → D}
    (hConvolves : Convolves state.config output outcome lane)
    (hOutcome : minimalConvolutionStep heap dt fields runtime state = outcome) :
    minimalConvolutionRun heap dt fields runtime state = (.ok (), lane) := by
  obtain ⟨data, hData, -⟩ := hReady.output_double.held
  unfold minimalConvolutionRun
  rw [hOutcome]
  dsimp only
  rw [hConvolves.result, hConvolves.writes]
  rw [writeFields, List.getElem?_mapIdx, hReady.output_eq, Option.map_some, if_pos rfl]
  dsimp only [SimField.write, heldLanes, Option.map_some, Option.getD_some]
  rw [hData]
  rfl

theorem LacksScratch.run (hReady : ConvolutionReady fields state.config shape complex input output)
    {outcome : CallbackOutcome D (SimMinimalConvolutionOperatorState D)}
    (hLacks : LacksScratch state.config shape outcome)
    (hOutcome : minimalConvolutionStep heap dt fields runtime state = outcome) :
    minimalConvolutionRun heap dt fields runtime state =
      (.error .outOfMemory, heldLanes output) := by
  unfold minimalConvolutionRun
  rw [hOutcome]
  dsimp only
  rw [hLacks.result, writeFields, List.getElem?_mapIdx, hReady.output_eq, Option.map_some, hLacks.writes]
  rfl

theorem step_samples (heap : Heap) (dt : D) (runtime : SimRuntimeState D)
    (hReady : ConvolutionReady fields state.config shape complex input output) :
    minimalConvolutionStep heap dt fields runtime state =
      if complex then
        minimalConvolutionEvaluateSamples complexSamples heap (state.config.scale dt) input output
          (heldLanes input) (heldLanes output) complex state
      else
        minimalConvolutionEvaluateSamples realSamples heap (state.config.scale dt) input output
          (heldLanes input) (heldLanes output) complex state := by
  have hRank : shape ≠ [] := by
    rintro rfl
    exact absurd hReady.rank (by decide)
  have hInput := elementCount_of_dense hReady.input_double.toDenseField (DoubleField.size complex)
    hRank
  have hOutput := elementCount_of_dense hReady.output_double.toDenseField (DoubleField.size complex)
    hRank
  have hPos := MixedRadix.prod_pos hReady.input_double.positive
  obtain ⟨src, hSrc, hSource⟩ := hReady.input_double.held
  obtain ⟨dst, hDst, hTarget⟩ := hReady.output_double.held
  unfold minimalConvolutionStep minimalConvolutionEvaluate
  rw [hReady.input_eq, hReady.output_eq]
  dsimp only
  rw [hInput, hOutput, if_neg (Nat.ne_of_gt hPos), if_neg (not_not_intro rfl),
    hReady.input_double.elementSize_eq, hReady.output_double.elementSize_eq,
    if_neg (not_not_intro rfl), heldLanes, heldLanes, hSrc, hDst]
  cases complex with
  | true =>
      have hSource : input.complexData = some src := hSource
      have hTarget : output.complexData = some dst := hTarget
      rw [if_pos rfl, if_neg (by decide), if_pos rfl, hSource, hTarget]
      rfl
  | false =>
      have hSource : input.realData = some src := hSource
      have hTarget : output.realData = some dst := hTarget
      rw [if_pos (show (if false = true then 16 else 8) = 8 from rfl), hSource, hTarget]
      rfl

/-- What the output of a run holds, in samples. -/
theorem minimalConvolutionRun_cases (heap : Heap) (dt : D) (runtime : SimRuntimeState D)
    (hReady : ConvolutionReady fields state.config shape complex input output) :
    (minimalConvolutionRun heap dt fields runtime state = (.error .outOfMemory, heldLanes output) ∧
      state.config.mode = .separable) ∨
    ∃ scratch, minimalConvolutionRun heap dt fields runtime state = (.ok (),
      if complex then
        complexSamples.lanes (state.convolved complexSamples shape
          (complexSamples.read (heldLanes input)) (complexSamples.read scratch)
          (complexSamples.read (heldLanes output)) (state.config.scale dt))
      else
        state.convolved realSamples shape (heldLanes input) scratch (heldLanes output)
          (state.config.scale dt)) := by
  have hStep := step_samples heap dt runtime hReady
  cases complex with
  | true =>
      rcases evaluateSamples_convolves complexSamples heap (state.config.scale dt)
        (heldLanes input) (heldLanes output) hReady.input_double hReady.rank with
        hLacks | ⟨scratch, hConvolves⟩
      · exact .inl ⟨hLacks.run hReady hStep, hLacks.mode⟩
      · exact .inr ⟨scratch, hConvolves.run hReady hStep⟩
  | false =>
      rcases evaluateSamples_convolves realSamples heap (state.config.scale dt)
        (heldLanes input) (heldLanes output) hReady.input_double hReady.rank with
        hLacks | ⟨scratch, hConvolves⟩
      · exact .inl ⟨hLacks.run hReady hStep, hLacks.mode⟩
      · exact .inr ⟨scratch, hConvolves.run hReady hStep⟩

end Runs

/-! ### Complex fields -/

section Complex

variable {state : SimMinimalConvolutionOperatorState D}

theorem convolved_part (shape : List ℕ) (src scratch dst : ℕ → SimComplexDouble D) (scale : D)
    (p : Bool) :
    complexPart p ∘ state.convolved complexSamples shape src scratch dst scale =
      state.convolved realSamples shape (complexPart p ∘ src) (complexPart p ∘ scratch)
        (complexPart p ∘ dst) scale := by
  have hPart := complexPart_part (D := D) p
  unfold SimMinimalConvolutionOperatorState.convolved
  match shape with
  | [] => rfl
  | [count] => exact state.apply_part hPart ..
  | [height, width] =>
      dsimp only
      cases state.config.mode with
      | axis => exact state.applyAxis2d_part hPart ..
      | kernel2d => exact state.applyKernel2d_part hPart ..
      | separable =>
          dsimp only
          rw [state.applyAxis2d_part hPart, state.applyAxis2d_part hPart]
  | _ :: _ :: _ :: _ => rfl

omit [CDouble D] in
theorem DoubleField.plane {height width : ℕ} {complex : Bool} {field : SimField D}
    (hDouble : DoubleField field [height, width] complex) :
    width ≠ 0 ∧ height * width < 2 ^ 61 := by
  have hCount := hDouble.toDenseField.count (DoubleField.size complex)
  have hPositive := hDouble.positive
  rw [List.prod_cons, List.prod_singleton] at hCount
  rw [List.mem_cons, List.mem_cons, not_or, not_or] at hPositive
  exact ⟨Ne.symm hPositive.2.1, hCount⟩

/-- What the scratch array held makes no difference. -/
theorem convolved_scratch {V : Type} (S : Samples D V) {shape : List ℕ} {complex : Bool}
    {field : SimField D} (hDouble : DoubleField field shape complex)
    (src scratch scratch' dst : ℕ → V) (scale : D) :
    state.convolved S shape src scratch dst scale =
      state.convolved S shape src scratch' dst scale := by
  unfold SimMinimalConvolutionOperatorState.convolved
  match shape with
  | [] => rfl
  | [count] => rfl
  | [height, width] =>
      obtain ⟨hWidth, hFits⟩ := hDouble.plane
      dsimp only
      cases state.config.mode with
      | axis => rfl
      | kernel2d => rfl
      | separable => exact state.twoPasses_scratch S hWidth hFits ..
  | _ :: _ :: _ :: _ => rfl

omit [CDouble D] in
theorem kernelSum_with {V : Type} (S : Samples D V) (buffer : Option (DoubleBuffer D))
    (isComplex : Bool) (plane : PlaneLayout) (src : ℕ → V) (y x rows : ℕ) :
    SimMinimalConvolutionOperatorState.kernelSum S
        { state with scratch := buffer, scratchComplex := isComplex } plane src y x rows =
      state.kernelSum S plane src y x rows := by
  induction rows with
  | zero => rfl
  | succ ky ih =>
      rw [SimMinimalConvolutionOperatorState.kernelSum,
        SimMinimalConvolutionOperatorState.kernelSum, ih]
      rfl

theorem convolved_with {V : Type} (S : Samples D V) (buffer : Option (DoubleBuffer D))
    (isComplex : Bool) (shape : List ℕ) (src scratch dst : ℕ → V) (scale : D) :
    SimMinimalConvolutionOperatorState.convolved S
        { state with scratch := buffer, scratchComplex := isComplex } shape src scratch dst scale =
      state.convolved S shape src scratch dst scale := by
  unfold SimMinimalConvolutionOperatorState.convolved
  match shape with
  | [] => rfl
  | [count] => rfl
  | [height, width] =>
      dsimp only
      cases state.config.mode with
      | axis => rfl
      | separable => rfl
      | kernel2d =>
          refine congrArg (fun value => (rowMajor height width).replace value dst) ?_
          funext y x old
          exact congrArg _ (kernelSum_with S buffer isComplex _ src y x _)
  | _ :: _ :: _ :: _ => rfl

/-- An application to complex fields does to the real and to the imaginary parts what one with
the same configuration does to real fields, in any arithmetic. -/
theorem minimalConvolutionRun_complex {heap : Heap} {dt : D} {fields parts : List (SimField D)}
    {runtime : SimRuntimeState D} {shape : List ℕ} {input output inputPart outputPart : SimField D}
    {scratch : Option (DoubleBuffer D)} {scratchComplex : Bool} (p : Bool)
    (hComplex : ConvolutionReady fields state.config shape true input output)
    (hReal : ConvolutionReady parts state.config shape false inputPart outputPart)
    (hInput : ∀ i, heldLanes inputPart i = heldLanes input (2 * i + p.toNat))
    (hOutput : ∀ i, heldLanes outputPart i = heldLanes output (2 * i + p.toNat))
    (hOk : (minimalConvolutionRun heap dt fields runtime state).1 = .ok ())
    (hPartOk : (minimalConvolutionRun heap dt parts runtime
      { state with scratch := scratch, scratchComplex := scratchComplex }).1 = .ok ()) (i : ℕ) :
    (minimalConvolutionRun heap dt parts runtime
        { state with scratch := scratch, scratchComplex := scratchComplex }).2 i =
      (minimalConvolutionRun heap dt fields runtime state).2 (2 * i + p.toNat) := by
  rcases minimalConvolutionRun_cases heap dt runtime hComplex with ⟨hFailed, -⟩ | ⟨held, hRun⟩
  · rw [hFailed] at hOk
    cases hOk
  rcases @minimalConvolutionRun_cases _ _ _ _ _ _ _
    { state with scratch := scratch, scratchComplex := scratchComplex } heap dt runtime hReal with
    ⟨hFailed, -⟩ | ⟨heldPart, hPartRun⟩
  · rw [hFailed] at hPartOk
    cases hPartOk
  have hSource : heldLanes inputPart = complexPart p ∘ complexSamples.read (heldLanes input) := by
    rw [complexPart_read]
    exact funext hInput
  have hTarget : heldLanes outputPart = complexPart p ∘ complexSamples.read (heldLanes output) := by
    rw [complexPart_read]
    exact funext hOutput
  rw [hRun, hPartRun, if_pos rfl, if_neg Bool.false_ne_true]
  dsimp only
  rw [complexPart_lanes, hSource, hTarget, convolved_with, ← @Function.comp_apply _ _ _ (complexPart p),
    convolved_part]
  exact congrFun (convolved_scratch realSamples hReal.input_double ..) i

/-- Two complex numbers in a row, and their real and imaginary parts. -/
def complexPair : SimField ℚ := SimField.ofElementSize ⟨[2], [1], true⟩ 16 (.lanes fun k => k)

def pairPart (p : Bool) : SimField ℚ :=
  SimField.ofElementSize ⟨[2], [1], true⟩ 8 (.lanes fun k => 2 * k + p.toNat)

/-- The operator which adds up neighbours on an axis. -/
def neighborSums : SimMinimalConvolutionOperatorState ℚ :=
  let kernel (_ : ℕ) : ℚ := 1
  ⟨⟨0, 1, 3, kernel, .axis, .x, 3, 3, kernel, 1, false, .neumann, false, false⟩, 3, kernel, 3, 3,
    kernel, none, false⟩

theorem minimalConvolutionRun_complex_pair :
    let runtime : SimRuntimeState ℚ := ⟨0, 0, 0, 0, false, [], [], 0⟩
    (minimalConvolutionRun ⟨fun _ => true⟩ 1 [pairPart true, pairPart true] runtime
        { neighborSums with scratch := none, scratchComplex := true }).2 1 =
      (minimalConvolutionRun ⟨fun _ => true⟩ 1 [complexPair, complexPair] runtime
        neighborSums).2 (2 * 1 + true.toNat) := by
  intro runtime
  have hComplex : DoubleField complexPair [2] true :=
    ⟨⟨rfl, rfl, rfl, rfl, by decide, by decide⟩, by decide⟩
  have hPart : DoubleField (pairPart true) [2] false :=
    ⟨⟨rfl, rfl, rfl, rfl, by decide, by decide⟩, by decide⟩
  have hLanes : ∀ i, heldLanes (pairPart true) i = heldLanes complexPair (2 * i + true.toNat) := by
    intro i
    show (2 * i + (1 : ℕ) : ℚ) = ((2 * i + 1 : ℕ) : ℚ)
    push_cast
    rfl
  exact minimalConvolutionRun_complex true
    ⟨Nat.zero_ne_one, rfl, rfl, hComplex, hComplex, .inl rfl⟩
    ⟨Nat.zero_ne_one, rfl, rfl, hPart, hPart, .inl rfl⟩ hLanes hLanes rfl rfl 1

end Complex

/-! ### Exact arithmetic -/

section Exact

variable {K : Type} [Field K] [LinearOrder K] [CDouble K] [ExactDouble K]
variable {state : SimMinimalConvolutionOperatorState K} {shape : List ℕ} {complex : Bool}

def smoothingConfig (mode : SimMinimalConvolutionMode) : SimMinimalConvolutionOperatorConfig ℚ :=
  ⟨0, 1, 3, fun k => if k = 1 then 2 else 1, mode, .x, 3, 3,
    fun k => (if k / 3 = 1 then 2 else 1) * if k % 3 = 1 then 2 else 1, 1, true, .periodic, true,
    false⟩

def smoothingState (mode : SimMinimalConvolutionMode) : SimMinimalConvolutionOperatorState ℚ :=
  let config := smoothingConfig mode
  ⟨config, config.kernelLength, config.kernel, config.kernelRows, config.kernelCols,
    config.kernel2d, none, false⟩

/-- The shifted copies leave in every row what the loops over the elements leave there. -/
structure RowPathsAgree {V : Type} (S : Samples K V) (state : SimMinimalConvolutionOperatorState K) :
    Prop where
  row : ∀ (src dst : ℕ → V) (count : ℕ) (scale : K), count ≠ 0 → count < 2 ^ 61 →
    state.applyPeriodicRow S src dst 0 count state.config.accumulate scale =
      state.applyElements S src dst count scale
  plane : ∀ (src dst : ℕ → V) (height width : ℕ) (accumulate : Bool) (scale : K), width ≠ 0 →
    height * width < 2 ^ 61 →
      state.axisRows S (rowMajor height width) src dst accumulate scale =
        state.axisElements S (rowMajor height width) .x src dst accumulate scale

theorem rowPathsAgree_real (hBoundary : state.config.boundary = .periodic)
    (hStride : state.stride = 1) : RowPathsAgree realSamples state where
  row src dst _ scale hCount hFits :=
    state.applyPeriodicRow_eq_elements hBoundary hStride src dst hCount hFits scale
  plane src dst _ _ accumulate scale hWidth hFits :=
    state.axisRows_eq_elements hBoundary hStride hWidth hFits src dst accumulate scale

/-- On periodic axes without a stride, also on rows which are shorter than the kernel. -/
theorem minimalConvolution_rowPathsAgree (hBoundary : state.config.boundary = .periodic)
    (hStride : state.stride = 1) :
    RowPathsAgree realSamples state ∧ RowPathsAgree complexSamples state := by
  have hReal := rowPathsAgree_real hBoundary hStride
  refine ⟨hReal, { row := ?row, plane := ?plane }⟩
  case row =>
    intro src dst count scale hCount hFits
    funext i
    refine complex_ext fun p => ?_
    have hPart := complexPart_part (D := K) p
    have hRow := congrFun (hReal.row (complexPart p ∘ src) (complexPart p ∘ dst) count scale hCount
      hFits) i
    rwa [← state.applyPeriodicRow_part hPart, ← state.applyElements_part hPart] at hRow
  case plane =>
    intro src dst height width accumulate scale hWidth hFits
    funext i
    refine complex_ext fun p => ?_
    have hPart := complexPart_part (D := K) p
    have hPlane := congrFun (hReal.plane (complexPart p ∘ src) (complexPart p ∘ dst) height width
      accumulate scale hWidth hFits) i
    rwa [← state.axisRows_part hPart, ← state.axisElements_part hPart] at hPlane

theorem minimalConvolution_rowPathsAgree_smoothing :
    RowPathsAgree realSamples (smoothingState .axis) ∧
      RowPathsAgree complexSamples (smoothingState .axis) :=
  minimalConvolution_rowPathsAgree rfl rfl

/-! ### Separable kernels -/

end Exact

end Oakfield
