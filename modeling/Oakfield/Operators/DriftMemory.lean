import Oakfield.Integrator.Drift
import Oakfield.Operators.HystereticDrift

/-! Runs of operators with a memory: applications in drift which find the memory
ready change nothing that later calls show. -/
namespace Oakfield

open Library Library.Run Library.Probe CDouble

variable {D : Type} [CDouble D]

/-- Where each application in drift finds the memory of its operator ready, the
outputs of the other calls are those of the run without drift, and no snapshot copy
leaves its buffers. -/
theorem driftKeepsMemory (hExact : CDouble.EqExact D) (heap : Heap) (needsComplex : Bool)
    (operatorConfig : SimOperatorConfig D) (address : ℕ) (sets : SplitAccessSets) :
    (∀ (fieldIndex : SizeT) (config : FractionalMemoryOperatorConfig D)
        (calls : List (StatefulCall D (FractionalMemoryState D)
          (Option (FractionalMemoryOperatorConfig D)))),
      let step := (fractionalMemoryOperator heap fieldIndex needsComplex operatorConfig address
        sets).step
      let start := FractionalMemoryState.added config
      EachCall (next step) (fun state call => call.isDrift = true →
        FractionalMemoryReady heap state call) start calls →
      outputs step StatefulCall.isDrift start calls =
          outputs step StatefulCall.isDrift start (withoutProbes StatefulCall.isDrift calls) ∧
        (after (next step) start calls).overran = false) ∧
    ∀ (inputField outputField : SizeT) (config : SimHystereticOperatorConfig D)
        (calls : List (StatefulCall D (HystereticState D) (SimHystereticOperatorConfig D))),
      let step := (hystereticOperator heap inputField outputField needsComplex operatorConfig
        address sets).step
      let start := HystereticState.added config
      EachCall (next step) (fun state call => call.isDrift = true → HystereticReady state call)
        start calls →
      outputs step StatefulCall.isDrift start calls =
          outputs step StatefulCall.isDrift start (withoutProbes StatefulCall.isDrift calls) ∧
        (after (next step) start calls).overran = false := by
  constructor
  · intro fieldIndex config calls step start hReady
    have hStart := FractionalMemoryState.coherent_added heap config
    have hRun := @outputs_withoutProbes _ _ _ step StatefulCall.isDrift
      (FractionalMemoryState.Alike heap) (FractionalMemoryReady heap)
      (fun _ _ call hAlike hCall => fractionalMemory_call hExact call hAlike hCall)
      (fun _ _ call hAlike hCall hHere => fractionalMemory_probe hExact call hAlike hCall hHere)
      start start ⟨hStart, hStart, rfl⟩ calls hReady
    exact ⟨hRun.1, hRun.2.1.inBounds⟩
  · intro inputField outputField config calls step start hReady
    have hStart := HystereticState.coherent_added heap config
    have hRun := @outputs_withoutProbes _ _ _ step StatefulCall.isDrift
      (HystereticState.Alike heap) HystereticReady
      (fun _ _ call hAlike hCall => hysteretic_call call hAlike hCall)
      (fun _ _ call hAlike hCall hHere => hysteretic_probe call hAlike hCall hHere)
      start start ⟨hStart, hStart, rfl, rfl⟩ calls hReady
    exact ⟨hRun.1, hRun.2.1.inBounds⟩

/-! ### Runs with and without a first application -/

/-- A heap without limits. -/
def largeHeap : Heap := ⟨fun _ => true⟩

/-- A context with one real field of so many elements. -/
def oneRealField {μ : Type} (memory : μ) (depth elements : ℕ) : SimContext ℤ μ :=
  let start : SimContext ℤ μ := .init ⟨0, 0, 0, 0, 0⟩ memory
  { start with
    fields := [.ofElementSize ⟨[elements], [1], true⟩ 8 (.lanes fun k => k + 5)]
    runtime := { start.runtime with dt := 1, driftModeDepth := depth } }

def plainConfig : SimOperatorConfig ℤ := ⟨.none, 0⟩

def noAccesses : SplitAccessSets := ⟨0, 0, [], []⟩

/-- Two steps of memory. -/
def twoSteps : FractionalMemoryOperatorConfig ℤ := ⟨0, 2, 1, 2⟩

abbrev FractionalMemoryCall :=
  StatefulCall ℤ (FractionalMemoryState ℤ) (Option (FractionalMemoryOperatorConfig ℤ))

/-- An application to one element, in or out of drift. -/
def applyFractionalMemory (depth : ℕ) : FractionalMemoryCall :=
  .apply (oneRealField (.added twoSteps) depth 1)

def fractionalMemoryExample :
    StatefulOperator ℤ (FractionalMemoryState ℤ) (Option (FractionalMemoryOperatorConfig ℤ)) :=
  fractionalMemoryOperator largeHeap 0 false plainConfig 0 noAccesses

/-- The first lane of the first field that each call leaves. -/
def firstLanes (results : List (StatefulOutput ℤ)) : List (Option ℤ) :=
  results.map fun result => (result.fields.head?.bind SimField.data).map (·.lane 0)

/-- The mode of Bouc and Wen on field 0, both input and output. -/
def boucWenConfig : SimHystereticOperatorConfig ℤ where
  inputField := 0
  outputField := 0
  mode := .boucWen
  thresholdMode := .bounds
  inputMode := .direct
  inputGain := 1
  inputBias := 0
  thresholdLow := -1
  thresholdHigh := 1
  thresholdCenter := 0
  thresholdWidth := 1
  outputLow := -1
  outputHigh := 1
  stateMin := -100
  stateMax := 100
  smooth := 0
  rateLimit := 0
  accumulate := false
  scaleByDt := true
  initializeFromInput := true
  initialOutput := 0
  initialInput := 0
  initialZ := 0
  playRadius := 0
  bwAlpha := 1
  bwA := 1
  bwBeta := 1
  bwGamma := 1
  bwN := 2
  bwZClamp := 0
  bwXdotClamp := 0
  outputGain := 1
  outputBias := 0

abbrev HystereticCall := StatefulCall ℤ (HystereticState ℤ) (SimHystereticOperatorConfig ℤ)

/-- An application to so many elements, in or out of drift. -/
def applyHysteretic (depth elements : ℕ) : HystereticCall :=
  .apply (oneRealField (.added boucWenConfig) depth elements)

def hystereticExample :
    StatefulOperator ℤ (HystereticState ℤ) (SimHystereticOperatorConfig ℤ) :=
  hystereticOperator largeHeap 0 0 false plainConfig 0 noAccesses

/-- A first application in drift pushes the field to the history of
`fractional_memory`, and the next one shows it. Where the field of `hysteretic`
grows behind a snapshot, the next snapshot leaves its buffers. -/
theorem driftMemory_notKept :
    firstLanes (outputs fractionalMemoryExample.step StatefulCall.isDrift (.added twoSteps)
        [applyFractionalMemory 1, applyFractionalMemory 0]) = [some 0] ∧
      firstLanes (outputs fractionalMemoryExample.step StatefulCall.isDrift (.added twoSteps)
        (withoutProbes StatefulCall.isDrift [applyFractionalMemory 1, applyFractionalMemory 0])) =
          [some 10] ∧
      outputs fractionalMemoryExample.step StatefulCall.isDrift (.added twoSteps)
          [applyFractionalMemory 1, applyFractionalMemory 0] ≠
        outputs fractionalMemoryExample.step StatefulCall.isDrift (.added twoSteps)
          (withoutProbes StatefulCall.isDrift [applyFractionalMemory 1, applyFractionalMemory 0]) ∧
      (after (next hystereticExample.step) (.added boucWenConfig)
        [applyHysteretic 0 1, applyHysteretic 1 1, applyHysteretic 0 2,
          applyHysteretic 1 2]).overran = true := by
  have hWith : firstLanes (outputs fractionalMemoryExample.step StatefulCall.isDrift (.added twoSteps)
      [applyFractionalMemory 1, applyFractionalMemory 0]) = [some 0] := by decide
  have hWithout : firstLanes (outputs fractionalMemoryExample.step StatefulCall.isDrift
      (.added twoSteps) (withoutProbes StatefulCall.isDrift
        [applyFractionalMemory 1, applyFractionalMemory 0])) = [some 10] := by decide
  refine ⟨hWith, hWithout, fun hSame => ?_, by decide⟩
  rw [hSame, hWithout] at hWith
  exact absurd hWith (by decide)

theorem eqExact_int : CDouble.EqExact ℤ := by
  intro a b hEq _
  exact eq_of_beq hEq

/-- An application in drift between two others. -/
theorem driftKeepsMemory_between :
    outputs fractionalMemoryExample.step StatefulCall.isDrift (.added twoSteps)
        [applyFractionalMemory 0, applyFractionalMemory 1, applyFractionalMemory 0] =
      outputs fractionalMemoryExample.step StatefulCall.isDrift (.added twoSteps)
        [applyFractionalMemory 0, applyFractionalMemory 0] ∧
      outputs hystereticExample.step StatefulCall.isDrift (.added boucWenConfig)
        [applyHysteretic 0 1, applyHysteretic 1 1, applyHysteretic 0 1] =
      outputs hystereticExample.step StatefulCall.isDrift (.added boucWenConfig)
        [applyHysteretic 0 1, applyHysteretic 0 1] := by
  obtain ⟨hFractional, hHysteretic⟩ :=
    driftKeepsMemory eqExact_int largeHeap false plainConfig 0 noAccesses
  constructor
  · have hReady : FractionalMemoryReady largeHeap
        (fractionalMemoryExample.step (.added twoSteps) (applyFractionalMemory 0)).1
          (applyFractionalMemory 1) := by
      constructor
      · rintro _ ⟨⟩
        rfl
      · rintro _ _ ⟨⟩
        exact ⟨rfl, rfl⟩
    exact (hFractional 0 twoSteps
      [applyFractionalMemory 0, applyFractionalMemory 1, applyFractionalMemory 0]
        ⟨nofun, fun _ => hReady, nofun, trivial⟩).1
  · have hReady : HystereticReady
        (hystereticExample.step (.added boucWenConfig) (applyHysteretic 0 1)).1
          (applyHysteretic 1 1) := by
      constructor
      · rintro _ _ ⟨⟩ _
        rfl
      · rintro _ _ _ _ ⟨⟩
    exact (hHysteretic 0 0 boucWenConfig
      [applyHysteretic 0 1, applyHysteretic 1 1, applyHysteretic 0 1]
        ⟨nofun, fun _ => hReady, nofun, trivial⟩).1

end Oakfield
