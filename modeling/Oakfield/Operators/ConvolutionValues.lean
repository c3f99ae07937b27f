import Oakfield.Operators.LaplacianDiffusion
import Oakfield.Operators.MinimalConvolution

/-! What the loops of the minimal convolution leave in an element, in whatever arithmetic the
doubles have. -/
namespace Oakfield

open KernelIR CDouble Library

variable {D V : Type} [CDouble D]

/-! ### Shifted copies -/

/-- Where a tap of a periodic row reads. -/
def rowSample (count i k radius : ℕ) : ℕ := (((i : ℤ) + k - radius) % count).toNat

/-- A shift by a rest before the end of the row, and by what is left behind it. -/
theorem rowSample_eq {count i k radius o : ℕ} {q : ℤ} (hI : i < count) (hO : o < count)
    (hShift : (k : ℤ) - radius = o + count * q) :
    rowSample count i k radius = if i + o < count then i + o else i + o - count := by
  have hSum : ((i : ℤ) + k - radius) % count = ((i : ℤ) + o) % count := by
    rw [show (i : ℤ) + k - radius = (i + o) + count * q by omega, Int.add_mul_emod_self_left]
  rw [rowSample, hSum]
  by_cases hBefore : i + o < count
  · rw [if_pos hBefore, Int.emod_eq_of_lt (by omega) (by omega)]
    omega
  · rw [if_neg hBefore, show (i : ℤ) + o = (i + o - count) + count * 1 by omega,
      Int.add_mul_emod_self_left, Int.emod_eq_of_lt (by omega) (by omega)]
    omega

/-- The sum which the shifted copies of a row collect in an element. -/
def Samples.rowSum (S : Samples D V) (start : V) (factor : D) (taps : ℕ → D) (sample : ℕ → V) :
    ℕ → V
  | 0 => start
  | k + 1 =>
      let coeff := mul factor (taps k)
      if eq coeff CDouble.zero then rowSum S start factor taps sample k
      else S.addScaled (rowSum S start factor taps sample k) coeff (sample k)

/-- The element which they leave. -/
def Samples.rowValue (S : Samples D V) (accumulate : Bool) (scale : D) (taps : ℕ → D) (old : V)
    (sample : ℕ → V) (n : ℕ) : V :=
  S.rowSum (if accumulate then old else S.zero) (if accumulate then scale else one) taps sample n

theorem rowSample_lt {count : ℕ} (hCount : count ≠ 0) (i k radius : ℕ) :
    rowSample count i k radius < count := by
  have hHigh := Int.emod_lt_of_pos ((i : ℤ) + k - radius) (show (0 : ℤ) < count by omega)
  rw [rowSample]
  omega

namespace SimMinimalConvolutionOperatorState

variable (S : Samples D V)

omit [CDouble D] in
/-- The two copies of a shifted row, in either order. -/
theorem copyScale_twice (src dst : ℕ → V) (row : ℕ) {count k radius o : ℕ} {q : ℤ} (hO : o < count)
    (hShift : (k : ℤ) - radius = o + count * q) (coeff : D) (p : ℕ) :
    (S.copyScale src row
        (S.copyScale src (row + o) dst row (count - o) coeff) (row + (count - o)) o coeff p =
      if row ≤ p ∧ p < row + count then
        S.addScaled (dst p) coeff (src (row + rowSample count (p - row) k radius)) else dst p) ∧
    S.copyScale src (row + o)
        (S.copyScale src row dst (row + (count - o)) o coeff) row (count - o) coeff p =
      if row ≤ p ∧ p < row + count then
        S.addScaled (dst p) coeff (src (row + rowSample count (p - row) k radius)) else dst p := by
  simp only [Samples.copyScale]
  by_cases hRow : row ≤ p ∧ p < row + count
  · rw [if_pos hRow, rowSample_eq (by omega) hO hShift]
    by_cases hBefore : p - row + o < count
    · have hMain : row ≤ p ∧ p < row + (count - o) := by omega
      have hRest : ¬(row + (count - o) ≤ p ∧ p < row + (count - o) + o) := by omega
      rw [if_neg hRest, if_pos hMain, if_pos hBefore, if_pos hMain, if_neg hRest,
        show row + o + (p - row) = row + (p - row + o) by omega]
      exact ⟨rfl, rfl⟩
    · have hMain : ¬(row ≤ p ∧ p < row + (count - o)) := by omega
      have hRest : row + (count - o) ≤ p ∧ p < row + (count - o) + o := by omega
      rw [if_pos hRest, if_neg hMain, if_neg hBefore, if_neg hMain, if_pos hRest,
        show p - (row + (count - o)) = p - row + o - count by omega]
      exact ⟨rfl, rfl⟩
  · rw [if_neg hRow, if_neg (by omega), if_neg (by omega), if_neg (by omega), if_neg (by omega)]
    exact ⟨rfl, rfl⟩

omit [CDouble D] in
/-- A tap adds to every element of the row the sample which it reads, and to no other. -/
theorem periodicRowTap_eq (src dst : ℕ → V) {row count k radius : ℕ} (hCount : count ≠ 0)
    (coeff : D) (p : ℕ) :
    periodicRowTap S src row count k radius coeff dst p =
      if row ≤ p ∧ p < row + count then
        S.addScaled (dst p) coeff (src (row + rowSample count (p - row) k radius)) else dst p := by
  have hOffset := Nat.mod_lt ((k : ℤ) - radius).natAbs (Nat.pos_of_ne_zero hCount)
  have hParts := Nat.mod_add_div ((k : ℤ) - radius).natAbs count
  have hQuotient : ((count * (((k : ℤ) - radius).natAbs / count) : ℕ) : ℤ) =
      count * ((((k : ℤ) - radius).natAbs / count : ℕ) : ℤ) := Int.natCast_mul ..
  unfold periodicRowTap
  dsimp only
  generalize ((k : ℤ) - radius).natAbs / count = q at hParts hQuotient
  generalize hRest : ((k : ℤ) - radius).natAbs % count = o at hOffset hParts
  by_cases hStays : (k : ℤ) - radius = 0 ∨ o = 0
  · rw [if_pos hStays, Samples.copyScale]
    by_cases hRow : row ≤ p ∧ p < row + count
    · have hShift : ∃ r : ℤ, (k : ℤ) - radius = (0 : ℕ) + count * r := by
        rcases hStays with hZero | hZero
        · exact ⟨0, by omega⟩
        · rcases Int.natAbs_eq ((k : ℤ) - radius) with hSign | hSign
          · exact ⟨q, by omega⟩
          · exact ⟨-q, by rw [Int.mul_neg]; omega⟩
      obtain ⟨r, hShift⟩ := hShift
      rw [if_pos hRow, if_pos hRow, rowSample_eq (by omega) (by omega) hShift, if_pos (by omega)]
      rfl
    · rw [if_neg hRow, if_neg hRow]
  · rw [if_neg hStays]
    by_cases hRight : 0 < (k : ℤ) - radius
    · rw [if_pos hRight]
      exact (copyScale_twice S src dst row (q := q) hOffset (by omega) coeff p).1
    · rw [if_neg hRight]
      have hShift : (k : ℤ) - radius = (count - o : ℕ) + count * (-q - 1) := by
        rw [Int.mul_sub, Int.mul_neg]
        omega
      have hTwice := (copyScale_twice S src dst row (by omega) hShift coeff p).2
      rwa [Nat.sub_sub_self (Nat.le_of_lt hOffset)] at hTwice

variable (state : SimMinimalConvolutionOperatorState D)

/-- What the shifted copies leave in a row. -/
theorem applyPeriodicRow_eq (src dst : ℕ → V) {row count : ℕ} (hCount : count ≠ 0)
    (accumulate : Bool) (scale : D) (p : ℕ) :
    state.applyPeriodicRow S src dst row count accumulate scale p =
      if row ≤ p ∧ p < row + count then
        S.rowValue accumulate scale state.kernel (dst p)
          (fun k => src (row + rowSample count (p - row) k (state.kernelLength / 2)))
          state.kernelLength
      else dst p := by
  have hTaps : ∀ (factor : D) (start : ℕ → V) (n : ℕ),
      (List.range n).foldl (fun dst k =>
        if eq (mul factor (state.kernel k)) CDouble.zero = true then dst
        else periodicRowTap S src row count k (state.kernelLength / 2)
          (mul factor (state.kernel k)) dst) start p =
        if row ≤ p ∧ p < row + count then
          S.rowSum (start p) factor state.kernel (fun k =>
            src (row + rowSample count (p - row) k (state.kernelLength / 2))) n
        else start p := by
    intro factor start n
    induction n with
    | zero => exact (ite_self _).symm
    | succ n ih =>
        rw [List.range_succ, List.foldl_append, List.foldl_cons, List.foldl_nil, ite_apply,
          periodicRowTap_eq S src _ hCount, ih, Samples.rowSum]
        by_cases hRow : row ≤ p ∧ p < row + count
        · simp only [if_pos hRow]
        · simp only [if_neg hRow, ite_self]
  unfold applyPeriodicRow
  rw [if_neg hCount]
  dsimp only
  rw [hTaps]
  by_cases hRow : row ≤ p ∧ p < row + count
  · rw [if_pos hRow, if_pos hRow]
    cases accumulate with
    | true => rfl
    | false => exact congrArg (S.rowSum · one state.kernel _ _) (if_pos hRow)
  · rw [if_neg hRow, if_neg hRow]
    cases accumulate with
    | true => rfl
    | false => exact if_neg hRow

/-! ### Positions -/

omit [CDouble D] in
/-- A strided index which a `ptrdiff_t` holds. -/
theorem tapIndex_eq {i : ℕ} (hFits : i * state.stride < 2 ^ 63) (k radius : ℕ) :
    state.tapIndex i k radius = ((i * state.stride : ℕ) : ℤ) + k - radius := by
  rw [tapIndex, BitVec.toInt_ofNat', Int.bmod_eq_of_le (by omega) (by omega)]

omit [CDouble D] in
theorem tapPosition_periodic (hBoundary : state.config.boundary = .periodic)
    (hStride : state.stride = 1) {extent i : ℕ} (hI : i < extent) (hFits : extent < 2 ^ 61)
    (k radius : ℕ) :
    state.tapPosition extent i k radius = some (rowSample extent i k radius) := by
  have hIndex : i * state.stride < 2 ^ 63 := by
    rw [hStride]
    omega
  have hPos : (0 : ℤ) < extent := by omega
  rw [tapPosition, hBoundary, state.tapIndex_eq hIndex, hStride, Nat.mul_one,
    minimalConvolutionIndex, resolveIndex, if_neg (Nat.ne_of_gt (by omega))]
  rw [if_pos rfl]
  dsimp only
  rw [tmod_wrapped _ hPos, rowSample]

omit [CDouble D] in
theorem tapPosition_lt {extent i k radius position : ℕ} (hExtent : extent ≠ 0)
    (hSome : state.tapPosition extent i k radius = some position) : position < extent := by
  rw [tapPosition] at hSome
  split at hSome
  · cases hSome
    exact resolveIndex_lt hExtent
  · cases hSome

end SimMinimalConvolutionOperatorState

/-! ### Planes -/

/-- A plane whose rows lie behind one another. -/
def rowMajor (height width : ℕ) : PlaneLayout := ⟨width, height, 1, width⟩

theorem rowMajor_address {height width : ℕ} (hFits : height * width < 2 ^ 61) {y x : ℕ}
    (hY : y < height) (hX : x < width) : (rowMajor height width).address y x = y * width + x := by
  have hRows := Nat.mul_le_mul_right width (Nat.succ_le_of_lt hY)
  rw [Nat.succ_mul] at hRows
  show (y * width + x * 1) % 2 ^ 64 = _
  rw [Nat.mul_one, Nat.mod_eq_of_lt (by omega)]

theorem rowMajor_row {width x : ℕ} (hX : x < width) (y : ℕ) :
    (y * width + x) / width = y ∧ (y * width + x) % width = x := by
  rw [Nat.mul_comm, Nat.mul_add_div (by omega), Nat.div_eq_of_lt hX, Nat.mul_add_mod,
    Nat.mod_eq_of_lt hX]
  exact ⟨rfl, rfl⟩

theorem rowMajor_inside {height width p : ℕ} (hInside : p < height * width) :
    p / width < height ∧ p % width < width ∧ p / width * width + p % width = p := by
  have hWidth : 0 < width := Nat.pos_of_ne_zero fun hZero => by
    rw [hZero, Nat.mul_zero] at hInside
    omega
  exact ⟨Nat.div_lt_of_lt_mul (Nat.mul_comm height width ▸ hInside), Nat.mod_lt p hWidth,
    Nat.div_add_mod' p width⟩

/-- Every element of such a plane is replaced once. -/
theorem replace_rowMajor {V : Type} {height width : ℕ} (hFits : height * width < 2 ^ 61)
    (value : ℕ → ℕ → V → V) (dst : ℕ → V) (p : ℕ) :
    (rowMajor height width).replace value dst p =
      if p < height * width then value (p / width) (p % width) (dst p) else dst p := by
  have hRow : ∀ y < height, ∀ (n : ℕ) (start : ℕ → V), n ≤ width →
      (List.range n).foldl (fun dst x => Function.update dst ((rowMajor height width).address y x)
        (value y x (dst ((rowMajor height width).address y x)))) start p =
        if y * width ≤ p ∧ p < y * width + n then value y (p - y * width) (start p)
        else start p := by
    intro y hY n start hN
    induction n with
    | zero =>
        rw [if_neg (by omega)]
        rfl
    | succ n ih =>
        rw [List.range_succ, List.foldl_append, List.foldl_cons, List.foldl_nil,
          rowMajor_address hFits hY (by omega), Function.update_apply]
        by_cases hLast : p = y * width + n
        · rw [if_pos hLast, ← hLast, ih (by omega), if_neg (by omega), if_pos (by omega)]
          rw [hLast, Nat.add_sub_cancel_left]
        · rw [if_neg hLast, ih (by omega)]
          by_cases hBefore : y * width ≤ p ∧ p < y * width + n
          · rw [if_pos hBefore, if_pos (by omega)]
          · rw [if_neg hBefore, if_neg (by omega)]
  have hRows : ∀ n ≤ height, (List.range n).foldl (fun dst y =>
      (List.range width).foldl (fun dst x =>
        Function.update dst ((rowMajor height width).address y x)
          (value y x (dst ((rowMajor height width).address y x)))) dst) dst p =
        if p < n * width then value (p / width) (p % width) (dst p) else dst p := by
    intro n hN
    induction n with
    | zero =>
        rw [if_neg (by omega)]
        rfl
    | succ n ih =>
        rw [List.range_succ, List.foldl_append, List.foldl_cons, List.foldl_nil,
          hRow n (by omega) width _ (Nat.le_refl width), ih (by omega), Nat.succ_mul]
        by_cases hLast : n * width ≤ p ∧ p < n * width + width
        · obtain ⟨x, rfl⟩ := Nat.exists_eq_add_of_le hLast.1
          have hX : x < width := by omega
          rw [if_pos hLast, if_neg (by omega), if_pos (by omega), (rowMajor_row hX n).1,
            (rowMajor_row hX n).2, Nat.add_sub_cancel_left]
        · rw [if_neg hLast]
          by_cases hBefore : p < n * width
          · rw [if_pos hBefore, if_pos (by omega)]
          · rw [if_neg hBefore, if_neg (by omega)]
  exact hRows height (Nat.le_refl height)

/-- The content of an array as that of a plane. -/
def planeOf {V : Type} (width : ℕ) (values : ℕ → V) (y x : ℕ) : V := values (y * width + x)

/-! ### Passes -/

namespace SimMinimalConvolutionOperatorState

variable (S : Samples D V) (state : SimMinimalConvolutionOperatorState D) {height width : ℕ}

/-- What the loops over elements gather along an axis, by row and column. -/
def passSum (height width : ℕ) (axis : SimMinimalConvolutionAxis) (f : ℕ → ℕ → V) (y x : ℕ) : V :=
  let radius := state.kernelLength / 2
  S.tapSum S.zero state.kernel (fun k =>
    match axis with
    | .y => (state.tapPosition height y k radius).map fun y => f y x
    | .x => (state.tapPosition width x k radius).map fun x => f y x) state.kernelLength

omit [CDouble D] in
theorem axisSum_eq (hFits : height * width < 2 ^ 61) (axis : SimMinimalConvolutionAxis)
    (src : ℕ → V) {y x : ℕ} (hY : y < height) (hX : x < width) :
    state.axisSum S (rowMajor height width) axis src y x =
      state.passSum S height width axis (planeOf width src) y x := by
  unfold axisSum passSum
  refine congrArg (S.tapSum S.zero state.kernel · state.kernelLength) ?_
  funext k
  cases axis with
  | y =>
      refine Option.map_congr fun position hSome => ?_
      rw [rowMajor_address hFits (state.tapPosition_lt (by omega) hSome) hX]
      rfl
  | x =>
      refine Option.map_congr fun position hSome => ?_
      rw [rowMajor_address hFits hY (state.tapPosition_lt (by omega) hSome)]
      rfl

omit [CDouble D] in
theorem axisElements_eq (hFits : height * width < 2 ^ 61) (axis : SimMinimalConvolutionAxis)
    (src dst : ℕ → V) (accumulate : Bool) (scale : D) (p : ℕ) :
    state.axisElements S (rowMajor height width) axis src dst accumulate scale p =
      if p < height * width then
        S.stored accumulate scale (dst p)
          (state.passSum S height width axis (planeOf width src) (p / width) (p % width))
      else dst p := by
  rw [axisElements, replace_rowMajor hFits]
  by_cases hInside : p < height * width
  · obtain ⟨hY, hX, -⟩ := rowMajor_inside hInside
    rw [if_pos hInside, if_pos hInside, state.axisSum_eq S hFits axis src hY hX]
  · rw [if_neg hInside, if_neg hInside]

/-- What the shifted copies leave in a plane. -/
theorem axisRows_eq (hWidth : width ≠ 0) (src dst : ℕ → V) (accumulate : Bool) (scale : D)
    (p : ℕ) :
    state.axisRows S (rowMajor height width) src dst accumulate scale p =
      if p < height * width then
        S.rowValue accumulate scale state.kernel (dst p) (fun k =>
          planeOf width src (p / width) (rowSample width (p % width) k (state.kernelLength / 2)))
          state.kernelLength
      else dst p := by
  have hRows : ∀ n, (List.range n).foldl (fun dst y =>
      state.applyPeriodicRow S src dst (y * width) width accumulate scale) dst p =
        if p < n * width then
          S.rowValue accumulate scale state.kernel (dst p) (fun k =>
            planeOf width src (p / width) (rowSample width (p % width) k (state.kernelLength / 2)))
            state.kernelLength
        else dst p := by
    intro n
    induction n with
    | zero =>
        rw [if_neg (by omega)]
        rfl
    | succ n ih =>
        rw [List.range_succ, List.foldl_append, List.foldl_cons, List.foldl_nil,
          state.applyPeriodicRow_eq S src _ hWidth, ih, Nat.succ_mul]
        by_cases hLast : n * width ≤ p ∧ p < n * width + width
        · obtain ⟨x, rfl⟩ := Nat.exists_eq_add_of_le hLast.1
          have hX : x < width := by omega
          rw [if_pos hLast, if_neg (by omega), if_pos (by omega), (rowMajor_row hX n).1,
            (rowMajor_row hX n).2, Nat.add_sub_cancel_left]
          rfl
        · rw [if_neg hLast]
          by_cases hBefore : p < n * width
          · rw [if_pos hBefore, if_pos (by omega)]
          · rw [if_neg hBefore, if_neg (by omega)]
  exact hRows height

/-- The elements after a pass depend on the source within the plane only, and on the old content
only where they add to it. -/
theorem applyAxis2d_congr (hFits : height * width < 2 ^ 61) {axis : SimMinimalConvolutionAxis}
    {src src' dst dst' : ℕ → V} {accumulate : Bool} {scale : D} {p : ℕ}
    (hSource : ∀ q < height * width, src q = src' q) (hInside : p < height * width)
    (hOld : accumulate = true → dst p = dst' p) :
    state.applyAxis2d S (rowMajor height width) axis src dst accumulate scale p =
      state.applyAxis2d S (rowMajor height width) axis src' dst' accumulate scale p := by
  obtain ⟨hY, hX, -⟩ := rowMajor_inside hInside
  have hPlane : ∀ y < height, ∀ x < width, planeOf width src y x = planeOf width src' y x := by
    intro y hY x hX
    have hRows := Nat.mul_le_mul_right width (Nat.succ_le_of_lt hY)
    rw [Nat.succ_mul] at hRows
    exact hSource _ (by omega)
  have hHeight : height ≠ 0 := Nat.ne_of_gt (Nat.zero_lt_of_lt hY)
  have hWidth : width ≠ 0 := by omega
  unfold applyAxis2d
  split
  · rw [state.axisRows_eq S hWidth, state.axisRows_eq S hWidth, if_pos hInside, if_pos hInside]
    have hStart : ∀ sample, S.rowValue accumulate scale state.kernel (dst p) sample
        state.kernelLength = S.rowValue accumulate scale state.kernel (dst' p) sample
          state.kernelLength := by
      intro sample
      rw [Samples.rowValue, Samples.rowValue]
      by_cases hAdds : accumulate = true
      · rw [hOld hAdds]
      · simp only [if_neg hAdds]
    have hSample : (fun k => planeOf width src (p / width)
        (rowSample width (p % width) k (state.kernelLength / 2))) = fun k =>
          planeOf width src' (p / width)
            (rowSample width (p % width) k (state.kernelLength / 2)) := by
      funext k
      exact hPlane _ hY _ (rowSample_lt hWidth ..)
    rw [hStart, hSample]
  · rw [state.axisElements_eq S hFits, state.axisElements_eq S hFits, if_pos hInside,
      if_pos hInside]
    have hSum : state.passSum S height width axis (planeOf width src) (p / width) (p % width) =
        state.passSum S height width axis (planeOf width src') (p / width) (p % width) := by
      unfold passSum
      refine congrArg (S.tapSum S.zero state.kernel · state.kernelLength) ?_
      funext k
      cases axis with
      | y =>
          refine Option.map_congr fun position hSome => ?_
          exact hPlane _ (state.tapPosition_lt hHeight hSome) _ hX
      | x =>
          refine Option.map_congr fun position hSome => ?_
          exact hPlane _ hY _ (state.tapPosition_lt hWidth hSome)
    rw [hSum, Samples.stored, Samples.stored]
    by_cases hAdds : accumulate = true
    · rw [if_pos hAdds, if_pos hAdds, hOld hAdds]
    · rw [if_neg hAdds, if_neg hAdds]

/-- Outside the plane nothing changes. -/
theorem applyAxis2d_frame (hWidth : width ≠ 0) (hFits : height * width < 2 ^ 61)
    (axis : SimMinimalConvolutionAxis) (src dst : ℕ → V) (accumulate : Bool) (scale : D) {p : ℕ}
    (hOutside : ¬p < height * width) :
    state.applyAxis2d S (rowMajor height width) axis src dst accumulate scale p = dst p := by
  unfold applyAxis2d
  split
  · rw [state.axisRows_eq S hWidth, if_neg hOutside]
  · rw [state.axisElements_eq S hFits, if_neg hOutside]

/-- Two passes through a scratch array do not depend on what it held. -/
theorem twoPasses_scratch (hWidth : width ≠ 0) (hFits : height * width < 2 ^ 61)
    (axis second : SimMinimalConvolutionAxis) (src scratch scratch' dst : ℕ → V)
    (accumulate : Bool) (scale : D) :
    state.applyAxis2d S (rowMajor height width) second
        (state.applyAxis2d S (rowMajor height width) axis src scratch false one) dst accumulate
        scale =
      state.applyAxis2d S (rowMajor height width) second
        (state.applyAxis2d S (rowMajor height width) axis src scratch' false one) dst accumulate
        scale := by
  funext p
  by_cases hInside : p < height * width
  · refine state.applyAxis2d_congr S hFits (fun q hQ => ?_) hInside fun _ => rfl
    exact state.applyAxis2d_congr S hFits (fun _ _ => rfl) hQ fun hAdds => nomatch hAdds
  · rw [state.applyAxis2d_frame S hWidth hFits _ _ _ _ _ hInside,
      state.applyAxis2d_frame S hWidth hFits _ _ _ _ _ hInside]

end SimMinimalConvolutionOperatorState

end Oakfield
