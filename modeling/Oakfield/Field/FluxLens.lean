import Oakfield.KernelIR.CDouble
import Mathlib.Logic.Function.Basic

/-! The flux lens: spectral work, its cumulative flux, its marks and the clamping of a band. -/
namespace Oakfield

structure FluxMarks (D : Type) where
  valid : Bool
  kc : D
  k50 : D
  k90 : D
  piAtKc : D
  totalAbsWork : D
  piMin : D
  piMax : D
  kmax : D

/-- The part of a `FluxLensState` which the marks are made from; a buffer may be `NULL`. -/
structure FluxLensState (D : Type) where
  bandCapacity : ℕ
  S : Option (ℕ → D)
  Pi : Option (ℕ → D)
  bucketK : Option (ℕ → D)
  bucketPi : Option (ℕ → D)
  bucketS : Option (ℕ → D)
  bucketAbsS : Option (ℕ → D)
  bucketCapacity : ℕ
  bucketCount : ℕ
  piMin : D
  piMax : D
  absSTotal : D
  marks : FluxMarks D

variable {D : Type} [CDouble D]

/-- `flux_lens_frequency_bin`. -/
def fluxLensFrequencyBin (index length : ℕ) : D :=
  let signedK : ℤ := if index ≤ length / 2 then index else (index : ℤ) - length
  CDouble.ofI64 (BitVec.ofInt 64 signedK)

/-! ### The cumulative flux -/

/-- One round of the loop of `flux_lens_cumulative`: the running sum and the flux. -/
def fluxLensCumulativeStep (S : ℕ → D) (length : ℕ) (state : D × (ℕ → D)) (k : ℕ) :
    D × (ℕ → D) :=
  let half := length / 2
  let idxPos := k
  let hasNeg := !(k = 0 || (length % 2 = 0 && k = half))
  let idxNeg := if hasNeg then length - k else 0
  let sum := CDouble.add state.1 (S idxPos)
  let sum := if hasNeg then CDouble.add sum (S idxNeg) else sum
  let Pi := Function.update state.2 idxPos sum
  (sum, if hasNeg then Function.update Pi idxNeg sum else Pi)

/-- `flux_lens_cumulative`. -/
def fluxLensCumulative (S Pi : ℕ → D) (length : ℕ) : ℕ → D :=
  if length = 0 then Pi
  else
    ((List.range (length / 2 + 1)).foldl (fluxLensCumulativeStep S length) (CDouble.zero, Pi)).2

/-! ### Clamping -/

/-- `flux_lens_clamp_band`. -/
def fluxLensClampBand (lo hi minWidth maxK : D) : D × D :=
  let bandLo := if CDouble.lt lo CDouble.zero then CDouble.zero else lo
  let bandHi := if CDouble.gt hi maxK then maxK else hi
  let width := CDouble.sub bandHi bandLo
  if CDouble.lt width minWidth then
    let center := CDouble.mul CDouble.half (CDouble.add bandLo bandHi)
    let half := CDouble.mul CDouble.half minWidth
    let bandLo := CDouble.sub center half
    let bandHi := CDouble.add center half
    let (bandLo, bandHi) :=
      if CDouble.lt bandLo CDouble.zero then (CDouble.zero, CDouble.sub bandHi bandLo)
      else (bandLo, bandHi)
    if CDouble.gt bandHi maxK then
      let excess := CDouble.sub bandHi maxK
      let bandLo := CDouble.sub bandLo excess
      (if CDouble.lt bandLo CDouble.zero then CDouble.zero else bandLo, maxK)
    else (bandLo, bandHi)
  else (bandLo, bandHi)

/-! ### Marks -/

/-- The buckets of the shells. -/
structure FluxBuckets (D : Type) where
  S : ℕ → D
  absS : ℕ → D
  pi : ℕ → D

/-- The bucket of a place of the spectrum: the rounded wavenumber, else the first bucket whose
wavenumber is near. -/
def fluxLensBucketOf (llround : D → BitVec 64) (bucketK : ℕ → D) (bucketCount length i : ℕ) :
    Option ℕ :=
  let tol : D := CDouble.lit 1 (-6)
  let absK := CDouble.fabs (fluxLensFrequencyBin i length)
  let idx := (llround absK).toNat
  if bucketCount ≤ idx ∨
      CDouble.gt (CDouble.fabs (CDouble.sub absK (CDouble.ofU64 (BitVec.ofNat 64 idx)))) tol then
    (List.range bucketCount).find? fun j =>
      CDouble.le (CDouble.fabs (CDouble.sub (bucketK j) absK)) tol
  else some idx

/-- One round of the loop over the spectrum. -/
def fluxLensBucketStep (llround : D → BitVec 64) (bucketK : ℕ → D) (bucketCount length : ℕ)
    (S Pi : ℕ → D) (buckets : FluxBuckets D) (i : ℕ) : FluxBuckets D :=
  match fluxLensBucketOf llround bucketK bucketCount length i with
  | none => buckets
  | some idx =>
      { S := Function.update buckets.S idx (CDouble.add (buckets.S idx) (S i))
        absS := Function.update buckets.absS idx
          (CDouble.add (buckets.absS idx) (CDouble.fabs (S i)))
        pi := Function.update buckets.pi idx (Pi i) }

/-- What the loop over the buckets keeps. -/
structure FluxScan (D : Type) where
  piMin : D
  piMax : D
  absSTotal : D
  maxAbsPi : D
  kcIndex : ℕ
  havePi : Bool

/-- One round of the loop over the buckets. -/
def fluxLensScanStep (buckets : FluxBuckets D) (scan : FluxScan D) (i : ℕ) : FluxScan D :=
  let pi := buckets.pi i
  let absPi := CDouble.fabs pi
  { piMin := if !scan.havePi || CDouble.lt pi scan.piMin then pi else scan.piMin
    piMax := if !scan.havePi || CDouble.gt pi scan.piMax then pi else scan.piMax
    absSTotal := CDouble.add scan.absSTotal (buckets.absS i)
    maxAbsPi := if CDouble.gt absPi scan.maxAbsPi then absPi else scan.maxAbsPi
    kcIndex := if CDouble.gt absPi scan.maxAbsPi then i else scan.kcIndex
    havePi := true }

/-- The loop which looks for the buckets where the running work reaches its targets; `k50` is
`none` until it is set, and the loop stops when `k90` is. -/
def fluxLensTargets (bucketK absS : ℕ → D) (target50 target90 : D) :
    List ℕ → D → Option D → Option D × Option D
  | [], _, k50 => (k50, none)
  | i :: rest, running, k50 =>
      let running := CDouble.add running (absS i)
      let k50 := if k50.isNone && CDouble.ge running target50 then some (bucketK i) else k50
      if CDouble.ge running target90 then (k50, some (bucketK i))
      else fluxLensTargets bucketK absS target50 target90 rest running k50

/-- `flux_lens_after_flux`. -/
def fluxLensAfterFlux (llround : D → BitVec 64) (lens : FluxLensState D) : FluxLensState D :=
  let length := lens.bandCapacity
  let invalid := { lens with marks := { lens.marks with valid := false } }
  match lens.S, lens.Pi, lens.bucketK, lens.bucketS, lens.bucketAbsS, lens.bucketPi with
  | some S, some Pi, some bucketK, some bucketS, some bucketAbsS, some bucketPi =>
      if length = 0 then invalid
      else
        let bucketCount := length / 2 + 1
        if lens.bucketCapacity < bucketCount then invalid
        else
          let bucketK := fun i =>
            if i < bucketCount then CDouble.ofU64 (BitVec.ofNat 64 i) else bucketK i
          let cleared := fun (bucket : ℕ → D) i => if i <
            bucketCount then CDouble.zero else bucket i
          let buckets := (List.range length).foldl
            (fluxLensBucketStep llround bucketK bucketCount length S Pi)
            ⟨cleared bucketS, cleared bucketAbsS, cleared bucketPi⟩
          let scan := (List.range bucketCount).foldl (fluxLensScanStep buckets)
            ⟨CDouble.zero, CDouble.zero, CDouble.zero, CDouble.neg CDouble.one, 0, false⟩
          let last := bucketK (bucketCount - 1)
          let (k50, k90) :=
            if CDouble.gt scan.absSTotal CDouble.zero then
              let (k50, k90) := fluxLensTargets bucketK buckets.absS
                (CDouble.mul CDouble.half scan.absSTotal)
                (CDouble.mul (CDouble.lit 9 (-1)) scan.absSTotal) (List.range bucketCount)
                CDouble.zero none
              (k50.getD last, k90.getD last)
            else (CDouble.zero, CDouble.zero)
          { lens with
            bucketK := some bucketK
            bucketPi := some buckets.pi
            bucketS := some buckets.S
            bucketAbsS := some buckets.absS
            bucketCount
            piMin := scan.piMin
            piMax := scan.piMax
            absSTotal := scan.absSTotal
            marks :=
              { valid := decide (0 < bucketCount)
                kc := bucketK scan.kcIndex
                k50
                k90
                piAtKc := buckets.pi scan.kcIndex
                totalAbsWork := scan.absSTotal
                piMin := scan.piMin
                piMax := scan.piMax
                kmax := last } }
  | _, _, _, _, _, _ => invalid

end Oakfield
