import Oakfield.Field.PatchView

/-! Local phase winding of the cells of a complex field. -/
namespace Oakfield

open KernelIR

/-- The library functions of two arguments which the extraction calls besides the primitives
of `double`, and the rounding of a conversion to `float`. -/
structure PlaneFunctions (D : Type) where
  atan2 : D → D → D
  hypot : D → D → D
  toFloat : D → D

/-- `SimFieldTopologySeamMask` and `SimFieldTopologyCellFlag`. -/
def simFieldTopologySeamBottom : ℕ := 1

def simFieldTopologySeamRight : ℕ := 2

def simFieldTopologySeamTop : ℕ := 4

def simFieldTopologySeamLeft : ℕ := 8

def simFieldTopologyCellValid : ℕ := 1

def simFieldTopologyCellAmbiguous : ℕ := 2

def simFieldTopologyCellCoreOffsetValid : ℕ := 4

def simFieldTopologyCellNonfinite : ℕ := 8

structure SimFieldTopologyCell (D : Type) where
  charge : ℤ
  seamMask : ℕ
  flags : ℕ
  coreOffsetX : D
  coreOffsetY : D
  confidence : D

structure SimFieldTopologySummary where
  valid : Bool
  positiveSingularities : ℕ
  negativeSingularities : ℕ
  seamEdgeCount : ℕ
  ambiguousCellCount : ℕ

structure SimFieldTopologyConfig (D : Type) where
  seamPhaseThreshold : D
  seamAmbiguityBand : D
  chargeAmbiguityThreshold : D
  magnitudeEpsilon : D
  enableCoreLocalization : Bool

variable {D : Type} [CDouble D]

/-- `fmin`, which ignores a NaN argument. -/
def CDouble.fmin (a b : D) : D :=
  if CDouble.lt b a then b else if CDouble.eq a a then a else b

/-- The cell of all zero bytes. -/
def SimFieldTopologyCell.zero : SimFieldTopologyCell D :=
  ⟨0, 0, 0, CDouble.zero, CDouble.zero, CDouble.zero⟩

/-- `sim_field_topology_config_default`. -/
def simFieldTopologyConfigDefault (functions : PlaneFunctions D) : SimFieldTopologyConfig D where
  seamPhaseThreshold := functions.toFloat (CDouble.mul CDouble.pi (CDouble.lit 90 (-2)))
  seamAmbiguityBand := functions.toFloat (CDouble.mul CDouble.pi (CDouble.lit 8 (-2)))
  chargeAmbiguityThreshold := functions.toFloat (CDouble.lit 20 (-2))
  magnitudeEpsilon := functions.toFloat (CDouble.lit 1 (-12))
  enableCoreLocalization := true

/-- `sim_field_topology_clampf`. -/
def simFieldTopologyClampf (value minValue maxValue : D) : D :=
  if CDouble.lt value minValue then minValue
  else if CDouble.gt value maxValue then maxValue
  else value

/-- `sim_field_topology_wrap_phase_delta`. -/
def simFieldTopologyWrapPhaseDelta (fromPhase toPhase : D) : D :=
  let period := CDouble.mul CDouble.two CDouble.pi
  let delta := CDouble.fmod (CDouble.add (CDouble.sub toPhase fromPhase) CDouble.pi) period
  let delta := if CDouble.lt delta CDouble.zero then CDouble.add delta period else delta
  CDouble.sub delta CDouble.pi

/-- The loop of `sim_field_topology_popcount4`, over the bits of a byte. -/
def simFieldTopologyPopcountLoop : ℕ → ℕ → ℕ
  | 0, _ => 0
  | bits + 1, value =>
      if value = 0 then 0 else value % 2 + simFieldTopologyPopcountLoop bits (value / 2)

/-- `sim_field_topology_popcount4`. -/
def simFieldTopologyPopcount4 (value : ℕ) : ℕ := simFieldTopologyPopcountLoop 8 value

/-- The charge of a winding in turns. -/
def simFieldTopologyCharge (rawCharge : D) : ℤ :=
  if CDouble.gt rawCharge CDouble.half then 1
  else if CDouble.lt rawCharge (CDouble.neg CDouble.half) then -1
  else 0

/-- The cell of four samples, each a complex number: at the corner, to its right, across from
it, and above it. -/
def simFieldTopologyFiniteCell (functions : PlaneFunctions D) (cfg : SimFieldTopologyConfig D)
    (s00 s10 s11 s01 : D × D) : SimFieldTopologyCell D :=
  let p00 := functions.atan2 s00.2 s00.1
  let p10 := functions.atan2 s10.2 s10.1
  let p11 := functions.atan2 s11.2 s11.1
  let p01 := functions.atan2 s01.2 s01.1
  let rawBottom := CDouble.sub p10 p00
  let rawRight := CDouble.sub p11 p10
  let rawTop := CDouble.sub p01 p11
  let rawLeft := CDouble.sub p00 p01
  let wrappedBottom := simFieldTopologyWrapPhaseDelta p00 p10
  let wrappedRight := simFieldTopologyWrapPhaseDelta p10 p11
  let wrappedTop := simFieldTopologyWrapPhaseDelta p11 p01
  let wrappedLeft := simFieldTopologyWrapPhaseDelta p01 p00
  let winding :=
    CDouble.add (CDouble.add (CDouble.add wrappedBottom wrappedRight) wrappedTop) wrappedLeft
  let rawCharge := CDouble.div winding (CDouble.mul CDouble.two CDouble.pi)
  let m00 := functions.hypot s00.1 s00.2
  let m10 := functions.hypot s10.1 s10.2
  let m11 := functions.hypot s11.1 s11.2
  let m01 := functions.hypot s01.1 s01.2
  let localMin := CDouble.fmin (CDouble.fmin m00 m10) (CDouble.fmin m11 m01)
  let localMax := CDouble.fmax (CDouble.fmax m00 m10) (CDouble.fmax m11 m01)
  let safeMax :=
    if CDouble.gt localMax cfg.magnitudeEpsilon then localMax else cfg.magnitudeEpsilon
  let charge := simFieldTopologyCharge rawCharge
  let chargeError := CDouble.fabs (CDouble.sub rawCharge (CDouble.ofI64 (BitVec.ofInt 64 charge)))
  let chargeConf := CDouble.sub CDouble.one
    (CDouble.fmin CDouble.one (CDouble.div chargeError CDouble.half))
  let contrastConf := CDouble.sub CDouble.one
    (CDouble.fmin CDouble.one (CDouble.div localMin safeMax))
  let seam := fun raw mask => if CDouble.ge
    (CDouble.fabs raw) cfg.seamPhaseThreshold then mask else 0
  let near := fun raw => CDouble.le
    (CDouble.fabs (CDouble.sub (CDouble.fabs raw) cfg.seamPhaseThreshold)) cfg.seamAmbiguityBand
  let seamMask := seam rawBottom simFieldTopologySeamBottom |||
    seam rawRight simFieldTopologySeamRight ||| seam rawTop simFieldTopologySeamTop |||
    seam rawLeft simFieldTopologySeamLeft
  let ambiguous := CDouble.gt chargeError cfg.chargeAmbiguityThreshold ||
    !CDouble.isfinite rawCharge || !CDouble.isfinite localMin || !CDouble.isfinite localMax ||
    CDouble.le localMax cfg.magnitudeEpsilon ||
    near rawBottom || near rawRight || near rawTop || near rawLeft
  let confidence := simFieldTopologyClampf
    (functions.toFloat (CDouble.add (CDouble.mul (CDouble.lit 65 (-2)) chargeConf)
      (CDouble.mul (CDouble.lit 35 (-2)) contrastConf))) CDouble.zero CDouble.one
  let eps := CDouble.fmax cfg.magnitudeEpsilon (CDouble.lit 1 (-15))
  let w00 := CDouble.div CDouble.one (CDouble.fmax m00 eps)
  let w10 := CDouble.div CDouble.one (CDouble.fmax m10 eps)
  let w11 := CDouble.div CDouble.one (CDouble.fmax m11 eps)
  let w01 := CDouble.div CDouble.one (CDouble.fmax m01 eps)
  let wsum := CDouble.add (CDouble.add (CDouble.add w00 w10) w11) w01
  let localized := cfg.enableCoreLocalization && decide (charge ≠ 0) && CDouble.gt wsum eps
  let offset := fun w => simFieldTopologyClampf
    (functions.toFloat (CDouble.sub (CDouble.div w wsum) CDouble.half))
    (CDouble.neg CDouble.half) CDouble.half
  { charge
    seamMask
    flags := simFieldTopologyCellValid |||
      (if localized && CDouble.gt contrastConf (CDouble.lit 5 (-2)) then
        simFieldTopologyCellCoreOffsetValid
      else 0) |||
      (if ambiguous then simFieldTopologyCellAmbiguous else 0)
    coreOffsetX := if localized then offset (CDouble.add w10 w11) else CDouble.zero
    coreOffsetY := if localized then offset (CDouble.add w01 w11) else CDouble.zero
    confidence := if ambiguous then CDouble.mul confidence CDouble.half else confidence }

/-- What `sim_field_topology_load_sample` reads of a complex buffer. -/
def simFieldTopologySample (data : FieldData D) (index : ℕ) : D × D :=
  (data.lane (2 * index), data.lane (2 * index + 1))

/-- The cell at a column and a row. The samples of a cell are inside the buffer. -/
def simFieldTopologyCellAt (functions : PlaneFunctions D) (cfg : SimFieldTopologyConfig D)
    (data : FieldData D) (width height x y : ℕ) : SimFieldTopologyCell D :=
  if width ≤ x + 1 ∨ height ≤ y + 1 then SimFieldTopologyCell.zero
  else
    let s00 := simFieldTopologySample data (y * width + x)
    let s10 := simFieldTopologySample data (y * width + (x + 1))
    let s11 := simFieldTopologySample data ((y + 1) * width + (x + 1))
    let s01 := simFieldTopologySample data ((y + 1) * width + x)
    let finite := fun s : D × D => CDouble.isfinite s.1 && CDouble.isfinite s.2
    if !(finite s00 && finite s10 && finite s11 && finite s01) then
      { (SimFieldTopologyCell.zero : SimFieldTopologyCell D) with
        flags := simFieldTopologyCellValid ||| simFieldTopologyCellAmbiguous |||
          simFieldTopologyCellNonfinite }
    else simFieldTopologyFiniteCell functions cfg s00 s10 s11 s01

/-- What a cell adds to the summary. -/
def SimFieldTopologySummary.add (summary : SimFieldTopologySummary)
    (cell : SimFieldTopologyCell D) : SimFieldTopologySummary :=
  { summary with
    positiveSingularities := summary.positiveSingularities + if 0 < cell.charge then 1 else 0
    negativeSingularities := summary.negativeSingularities + if cell.charge < 0 then 1 else 0
    seamEdgeCount := summary.seamEdgeCount + simFieldTopologyPopcount4 cell.seamMask
    ambiguousCellCount := summary.ambiguousCellCount +
      if cell.flags &&& simFieldTopologyCellAmbiguous ≠ 0 then 1 else 0 }

/-- `sim_field_topology_dimensions`: the fastest axis and the rows, of a field that has
elements. -/
def simFieldTopologyDimensions (field : SimField D) : Option (ℕ × ℕ) :=
  match field.shape.getLast? with
  | none => none
  | some width =>
      let elementCount := SimField.elementCount field.shape
      if width = 0 ∨ elementCount = 0 then none
      else
        let height := elementCount / width
        some (width, if height = 0 then 1 else height)

/-- What an extraction returns and writes. -/
structure SimFieldTopology (D : Type) where
  ok : Bool
  width : ℕ
  height : ℕ
  summary : SimFieldTopologySummary
  cells : List (SimFieldTopologyCell D)

/-- `sim_field_topology_extract` with a buffer for the cells and a summary, `none` when it
fails before it writes them. The two loops go through the cells in their order. -/
def simFieldTopologyExtract (functions : PlaneFunctions D) (field : SimField D) (cellCapacity : ℕ)
    (config : Option (SimFieldTopologyConfig D)) : Option (SimFieldTopology D) :=
  match simFieldTopologyDimensions field with
  | none => none
  | some (width, height) =>
      let cfg := config.getD (simFieldTopologyConfigDefault functions)
      let cellCount := width * height
      if cellCapacity < cellCount then none
      else
        let empty : SimFieldTopologySummary := ⟨false, 0, 0, 0, 0⟩
        let zeros := List.replicate cellCount SimFieldTopologyCell.zero
        match field.buffer with
        | none => some ⟨false, width, height, empty, zeros⟩
        | some data =>
            if SimBufferDataType.fromScalarDomain field.effectiveScalarDomain ≠ .complexDouble ∨
                width < 2 ∨ height < 2 then some ⟨true, width, height, empty, zeros⟩
            else
              let cells := (List.range cellCount).map fun index =>
                simFieldTopologyCellAt functions cfg data width height (index % width)
                  (index / width)
              some ⟨true, width, height,
                cells.foldl SimFieldTopologySummary.add { empty with valid := true }, cells⟩

end Oakfield
