import Oakfield.Integrator.Schemes

/-! The loops of `rkf45_finalize_real` and `rkf45_finalize_complex`: several elements at a time,
and the rest one by one. -/
namespace Oakfield

open KernelIR CDouble

variable {D : Type} [CDouble D]

/-- The buffers which both functions read. -/
structure Rkf45Inputs (D : Type) where
  state : StateBuffer D
  k1 : StateBuffer D
  k3 : StateBuffer D
  k4 : StateBuffer D
  k5 : StateBuffer D
  k6 : StateBuffer D
  step : D

namespace Rkf45Inputs

variable (inputs : Rkf45Inputs D)

def c4k1 : D := mul inputs.step (ratio 25 216)
def c4k3 : D := mul inputs.step (ratio 1408 2565)
def c4k4 : D := mul inputs.step (ratio 2197 4104)
def c4k5 : D := mul inputs.step (neg (ratio 1 5))
def c5k1 : D := mul inputs.step (ratio 16 135)
def c5k3 : D := mul inputs.step (ratio 6656 12825)
def c5k4 : D := mul inputs.step (ratio 28561 56430)
def c5k5 : D := mul inputs.step (neg (ratio 9 50))
def c5k6 : D := mul inputs.step (ratio 2 55)

/-- The trial with one formula for all lanes. -/
def trial (isComplex : Bool) (count : ℕ) : Trial D :=
  rkf45Finalize isComplex inputs.state inputs.k1 inputs.k3 inputs.k4 inputs.k5 inputs.k6
    inputs.step count

/-- The lane of the fourth-order state with this formula. -/
def fourth (i : ℕ) : D :=
  add (add (add (add (inputs.state i) (mul inputs.c4k1 (inputs.k1 i)))
    (mul inputs.c4k3 (inputs.k3 i))) (mul inputs.c4k4 (inputs.k4 i)))
    (mul inputs.c4k5 (inputs.k5 i))

/-- The lane of the fifth-order state with this formula. -/
def fifth (i : ℕ) : D :=
  add (add (add (add (add (inputs.state i) (mul inputs.c5k1 (inputs.k1 i)))
    (mul inputs.c5k3 (inputs.k3 i))) (mul inputs.c5k4 (inputs.k4 i)))
    (mul inputs.c5k5 (inputs.k5 i))) (mul inputs.c5k6 (inputs.k6 i))

end Rkf45Inputs

/-! ### The real loops -/

/-- The buffer which the real loops write, and their accumulators. -/
structure RealFinalize (D : Type) where
  outState : StateBuffer D
  max0 : D
  max1 : D
  max2 : D
  max3 : D

/-- The body of the main loop, on the elements from `i` to `i + 3`. -/
def RealFinalize.quad (inputs : Rkf45Inputs D) (i : ℕ) (acc : RealFinalize D) : RealFinalize D :=
  let { state, k1, k3, k4, k5, k6, .. } := inputs
  let fourth0 := add (add (add (add (state i) (mul inputs.c4k1 (k1 i))) (mul inputs.c4k3 (k3 i)))
    (mul inputs.c4k4 (k4 i))) (mul inputs.c4k5 (k5 i))
  let fifth0 := add (add (add (add (add (state i) (mul inputs.c5k1 (k1 i)))
    (mul inputs.c5k3 (k3 i))) (mul inputs.c5k4 (k4 i))) (mul inputs.c5k5 (k5 i)))
    (mul inputs.c5k6 (k6 i))
  let diff0 := fabs (sub fifth0 fourth0)
  let scale0 := fmax (fmax (fabs fifth0) (fabs fourth0)) one
  let fourth1 := add (add (add (add (state (i + 1)) (mul inputs.c4k1 (k1 (i + 1))))
    (mul inputs.c4k3 (k3 (i + 1)))) (mul inputs.c4k4 (k4 (i + 1)))) (mul inputs.c4k5 (k5 (i + 1)))
  let fifth1 := add (add (add (add (add (state (i + 1)) (mul inputs.c5k1 (k1 (i + 1))))
    (mul inputs.c5k3 (k3 (i + 1)))) (mul inputs.c5k4 (k4 (i + 1)))) (mul inputs.c5k5 (k5 (i + 1))))
    (mul inputs.c5k6 (k6 (i + 1)))
  let diff1 := fabs (sub fifth1 fourth1)
  let scale1 := fmax (fmax (fabs fifth1) (fabs fourth1)) one
  let fourth2 := add (add (add (add (state (i + 2)) (mul inputs.c4k1 (k1 (i + 2))))
    (mul inputs.c4k3 (k3 (i + 2)))) (mul inputs.c4k4 (k4 (i + 2)))) (mul inputs.c4k5 (k5 (i + 2)))
  let fifth2 := add (add (add (add (add (state (i + 2)) (mul inputs.c5k1 (k1 (i + 2))))
    (mul inputs.c5k3 (k3 (i + 2)))) (mul inputs.c5k4 (k4 (i + 2)))) (mul inputs.c5k5 (k5 (i + 2))))
    (mul inputs.c5k6 (k6 (i + 2)))
  let diff2 := fabs (sub fifth2 fourth2)
  let scale2 := fmax (fmax (fabs fifth2) (fabs fourth2)) one
  let fourth3 := add (add (add (add (state (i + 3)) (mul inputs.c4k1 (k1 (i + 3))))
    (mul inputs.c4k3 (k3 (i + 3)))) (mul inputs.c4k4 (k4 (i + 3)))) (mul inputs.c4k5 (k5 (i + 3)))
  let fifth3 := add (add (add (add (add (state (i + 3)) (mul inputs.c5k1 (k1 (i + 3))))
    (mul inputs.c5k3 (k3 (i + 3)))) (mul inputs.c5k4 (k4 (i + 3)))) (mul inputs.c5k5 (k5 (i + 3))))
    (mul inputs.c5k6 (k6 (i + 3)))
  let diff3 := fabs (sub fifth3 fourth3)
  let scale3 := fmax (fmax (fabs fifth3) (fabs fourth3)) one
  { outState := Function.update (Function.update (Function.update (Function.update acc.outState
      i fifth0) (i + 1) fifth1) (i + 2) fifth2) (i + 3) fifth3
    max0 := fmax acc.max0 (div diff0 scale0)
    max1 := fmax acc.max1 (div diff1 scale1)
    max2 := fmax acc.max2 (div diff2 scale2)
    max3 := fmax acc.max3 (div diff3 scale3) }

/-- The body of the loop over the rest. -/
def RealFinalize.single (inputs : Rkf45Inputs D) (i : ℕ) (acc : RealFinalize D) : RealFinalize D :=
  let { state, k1, k3, k4, k5, k6, .. } := inputs
  let fourth := add (add (add (add (state i) (mul inputs.c4k1 (k1 i))) (mul inputs.c4k3 (k3 i)))
    (mul inputs.c4k4 (k4 i))) (mul inputs.c4k5 (k5 i))
  let fifth := add (add (add (add (add (state i) (mul inputs.c5k1 (k1 i)))
    (mul inputs.c5k3 (k3 i))) (mul inputs.c5k4 (k4 i))) (mul inputs.c5k5 (k5 i)))
    (mul inputs.c5k6 (k6 i))
  let diff := fabs (sub fifth fourth)
  let scale := fmax (fmax (fabs fifth) (fabs fourth)) one
  { acc with
    outState := Function.update acc.outState i fifth
    max0 := fmax acc.max0 (div diff scale) }

/-- The main loop and the loop over the rest, from element `i` on. -/
def rkf45FinalizeRealFrom (inputs : Rkf45Inputs D) (count i : ℕ) (acc : RealFinalize D) :
    RealFinalize D :=
  if i + 3 < count then rkf45FinalizeRealFrom inputs count (i + 4) (acc.quad inputs i)
  else (List.range' i (count - i)).foldl (fun acc i => acc.single inputs i) acc
termination_by count - i

/-- `rkf45_finalize_real`, which returns its error norm. -/
def rkf45FinalizeReal (inputs : Rkf45Inputs D) (outState : StateBuffer D) (count : ℕ) :
    StateBuffer D × D :=
  let acc := rkf45FinalizeRealFrom inputs count 0 ⟨outState, zero, zero, zero, zero⟩
  (acc.outState, fmax (fmax acc.max0 acc.max1) (fmax acc.max2 acc.max3))

namespace RealFinalize

variable (inputs : Rkf45Inputs D)

/-- What an element adds to the error norm. -/
def term (i : ℕ) : D :=
  div (fabs (sub (inputs.fifth i) (inputs.fourth i)))
    (fmax (fmax (fabs (inputs.fifth i)) (fabs (inputs.fourth i))) one)

/-- The accumulator of a lane of the main loop after so many rounds. -/
def column (rounds lane : ℕ) : D :=
  (List.range rounds).foldl (fun most group => fmax most (term inputs (4 * group + lane))) zero

theorem column_succ (rounds lane : ℕ) :
    column inputs (rounds + 1) lane =
      fmax (column inputs rounds lane) (term inputs (4 * rounds + lane)) := by
  rw [column, List.range_succ, List.foldl_append]
  rfl

/-- The state of the main loop after so many rounds: each lane has the formula of the rest. -/
def rounds (outState : StateBuffer D) (count : ℕ) : RealFinalize D where
  outState k := if k < 4 * count then inputs.fifth k else outState k
  max0 := column inputs count 0
  max1 := column inputs count 1
  max2 := column inputs count 2
  max3 := column inputs count 3

theorem quad_rounds (outState : StateBuffer D) (count : ℕ) :
    (rounds inputs outState count).quad inputs (4 * count) =
      rounds inputs outState (count + 1) := by
  have hOut : ((rounds inputs outState count).quad inputs (4 * count)).outState =
      (rounds inputs outState (count + 1)).outState := by
    funext k
    change Function.update (Function.update (Function.update (Function.update
      (rounds inputs outState count).outState (4 * count) (inputs.fifth (4 * count)))
      (4 * count + 1) (inputs.fifth (4 * count + 1))) (4 * count + 2)
      (inputs.fifth (4 * count + 2))) (4 * count + 3) (inputs.fifth (4 * count + 3)) k = _
    simp only [Function.update_apply, rounds]
    split_ifs <;> first | omega | simp only [*]
  rw [RealFinalize.mk.injEq]
  exact ⟨hOut, (column_succ inputs count 0).symm, (column_succ inputs count 1).symm,
    (column_succ inputs count 2).symm, (column_succ inputs count 3).symm⟩

/-- The loop over the rest. -/
theorem foldl_single (elements : List ℕ) (acc : RealFinalize D) :
    elements.foldl (fun acc i => acc.single inputs i) acc =
      { acc with
        outState := fun k => if k ∈ elements then inputs.fifth k else acc.outState k
        max0 := elements.foldl (fun most i => fmax most (term inputs i)) acc.max0 } := by
  induction elements generalizing acc with
  | nil => rfl
  | cons i elements ih =>
      rw [List.foldl_cons, ih, RealFinalize.mk.injEq]
      refine ⟨?_, rfl, rfl, rfl, rfl⟩
      funext k
      change (if k ∈ elements then inputs.fifth k
        else Function.update acc.outState i (inputs.fifth i) k) = _
      rw [Function.update_apply]
      by_cases hLater : k ∈ elements
      · rw [if_pos hLater, if_pos (List.mem_cons_of_mem i hLater)]
      rw [if_neg hLater]
      by_cases hHere : k = i
      · rw [if_pos hHere, if_pos (List.mem_cons.mpr (.inl hHere)), hHere]
      · rw [if_neg hHere, if_neg fun hMem => (List.mem_cons.mp hMem).elim hHere hLater]

theorem from_rounds (outState : StateBuffer D) (count : ℕ) {done : ℕ} (hDone : done ≤ count / 4) :
    rkf45FinalizeRealFrom inputs count (4 * done) (rounds inputs outState done) =
      (List.range' (4 * (count / 4)) (count % 4)).foldl (fun acc i => acc.single inputs i)
        (rounds inputs outState (count / 4)) := by
  induction hLeft : count / 4 - done generalizing done with
  | zero =>
      obtain rfl : done = count / 4 := by omega
      have hRest : count - 4 * (count / 4) = count % 4 := by omega
      have hEnd : ¬ 4 * (count / 4) + 3 < count := by omega
      rw [rkf45FinalizeRealFrom, if_neg hEnd, hRest]
  | succ left ih =>
      have hMain : 4 * done + 3 < count := by omega
      have hNext : done + 1 ≤ count / 4 := by omega
      rw [rkf45FinalizeRealFrom, if_pos hMain, quad_rounds]
      exact ih hNext (by omega)

end RealFinalize

/-- The loops compute for every element, in the main loop or in the rest, the formula of one
lane, and leave what is behind the elements. -/
theorem rkf45FinalizeReal_spec (inputs : Rkf45Inputs D) (outState : StateBuffer D) (count : ℕ) :
    (∀ k, (rkf45FinalizeReal inputs outState count).1 k =
      if k < count then (inputs.trial false count).candidate k else outState k) ∧
      (rkf45FinalizeReal inputs outState count).2 = (inputs.trial false count).errorNorm := by
  have hStart : RealFinalize.mk outState zero zero zero zero =
      RealFinalize.rounds inputs outState 0 := by
    rw [RealFinalize.rounds, RealFinalize.mk.injEq]
    exact ⟨funext fun k => (if_neg (Nat.not_lt_zero k)).symm, rfl, rfl, rfl, rfl⟩
  have hLoops := RealFinalize.from_rounds inputs outState count (Nat.zero_le _)
  rw [Nat.mul_zero, ← hStart, RealFinalize.foldl_single] at hLoops
  unfold rkf45FinalizeReal
  rw [hLoops]
  refine ⟨fun k => ?_, ?_⟩
  · change (if k ∈ List.range' (4 * (count / 4)) (count % 4) then inputs.fifth k
      else if k < 4 * (count / 4) then inputs.fifth k else outState k) =
        if k < count then inputs.fifth k else outState k
    simp only [List.mem_range'_1]
    split_ifs <;> first | rfl | omega
  · rw [List.range'_eq_map_range, List.foldl_map]
    rfl

/-! ### The complex loops -/

/-- The buffer which the complex loops write, and their accumulators. Element `i` takes the
lanes `2 * i` and `2 * i + 1`. -/
structure ComplexFinalize (D : Type) where
  outState : StateBuffer D
  sum0 : D
  sum1 : D

/-- The body of the main loop, on the elements `i` and `i + 1`. -/
def ComplexFinalize.pair (inputs : Rkf45Inputs D) (i : ℕ) (acc : ComplexFinalize D) :
    ComplexFinalize D :=
  let { state, k1, k3, k4, k5, k6, .. } := inputs
  let fourth0Re := add (add (add (add (state (2 * i)) (mul inputs.c4k1 (k1 (2 * i))))
    (mul inputs.c4k3 (k3 (2 * i)))) (mul inputs.c4k4 (k4 (2 * i))))
    (mul inputs.c4k5 (k5 (2 * i)))
  let fourth0Im := add (add (add (add (state (2 * i + 1)) (mul inputs.c4k1 (k1 (2 * i + 1))))
    (mul inputs.c4k3 (k3 (2 * i + 1)))) (mul inputs.c4k4 (k4 (2 * i + 1))))
    (mul inputs.c4k5 (k5 (2 * i + 1)))
  let fifth0Re := add (add (add (add (add (state (2 * i)) (mul inputs.c5k1 (k1 (2 * i))))
    (mul inputs.c5k3 (k3 (2 * i)))) (mul inputs.c5k4 (k4 (2 * i))))
    (mul inputs.c5k5 (k5 (2 * i)))) (mul inputs.c5k6 (k6 (2 * i)))
  let fifth0Im := add (add (add (add (add (state (2 * i + 1)) (mul inputs.c5k1 (k1 (2 * i + 1))))
    (mul inputs.c5k3 (k3 (2 * i + 1)))) (mul inputs.c5k4 (k4 (2 * i + 1))))
    (mul inputs.c5k5 (k5 (2 * i + 1)))) (mul inputs.c5k6 (k6 (2 * i + 1)))
  let dr0 := sub fifth0Re fourth0Re
  let di0 := sub fifth0Im fourth0Im
  let diff20 := add (mul dr0 dr0) (mul di0 di0)
  let an20 := add (mul fifth0Re fifth0Re) (mul fifth0Im fifth0Im)
  let bn20 := add (mul fourth0Re fourth0Re) (mul fourth0Im fourth0Im)
  let scale20 := fmax (fmax an20 bn20) one
  let fourth1Re := add (add (add (add (state (2 * (i + 1))) (mul inputs.c4k1 (k1 (2 * (i + 1)))))
    (mul inputs.c4k3 (k3 (2 * (i + 1))))) (mul inputs.c4k4 (k4 (2 * (i + 1)))))
    (mul inputs.c4k5 (k5 (2 * (i + 1))))
  let fourth1Im := add (add (add (add (state (2 * (i + 1) + 1))
    (mul inputs.c4k1 (k1 (2 * (i + 1) + 1))))
    (mul inputs.c4k3 (k3 (2 * (i + 1) + 1)))) (mul inputs.c4k4 (k4 (2 * (i + 1) + 1))))
    (mul inputs.c4k5 (k5 (2 * (i + 1) + 1)))
  let fifth1Re := add (add (add (add (add (state (2 * (i + 1)))
    (mul inputs.c5k1 (k1 (2 * (i + 1)))))
    (mul inputs.c5k3 (k3 (2 * (i + 1))))) (mul inputs.c5k4 (k4 (2 * (i + 1)))))
    (mul inputs.c5k5 (k5 (2 * (i + 1))))) (mul inputs.c5k6 (k6 (2 * (i + 1))))
  let fifth1Im := add (add (add (add (add (state (2 * (i + 1) + 1))
    (mul inputs.c5k1 (k1 (2 * (i + 1) + 1))))
    (mul inputs.c5k3 (k3 (2 * (i + 1) + 1)))) (mul inputs.c5k4 (k4 (2 * (i + 1) + 1))))
    (mul inputs.c5k5 (k5 (2 * (i + 1) + 1)))) (mul inputs.c5k6 (k6 (2 * (i + 1) + 1)))
  let dr1 := sub fifth1Re fourth1Re
  let di1 := sub fifth1Im fourth1Im
  let diff21 := add (mul dr1 dr1) (mul di1 di1)
  let an21 := add (mul fifth1Re fifth1Re) (mul fifth1Im fifth1Im)
  let bn21 := add (mul fourth1Re fourth1Re) (mul fourth1Im fourth1Im)
  let scale21 := fmax (fmax an21 bn21) one
  { outState := Function.update (Function.update (Function.update (Function.update acc.outState
      (2 * i) fifth0Re) (2 * i + 1) fifth0Im) (2 * (i + 1)) fifth1Re) (2 * (i + 1) + 1) fifth1Im
    sum0 := add acc.sum0 (div diff20 scale20)
    sum1 := add acc.sum1 (div diff21 scale21) }

/-- The body of the loop over the rest. -/
def ComplexFinalize.single (inputs : Rkf45Inputs D) (i : ℕ) (acc : ComplexFinalize D) :
    ComplexFinalize D :=
  let { state, k1, k3, k4, k5, k6, .. } := inputs
  let fourthRe := add (add (add (add (state (2 * i)) (mul inputs.c4k1 (k1 (2 * i))))
    (mul inputs.c4k3 (k3 (2 * i)))) (mul inputs.c4k4 (k4 (2 * i))))
    (mul inputs.c4k5 (k5 (2 * i)))
  let fourthIm := add (add (add (add (state (2 * i + 1)) (mul inputs.c4k1 (k1 (2 * i + 1))))
    (mul inputs.c4k3 (k3 (2 * i + 1)))) (mul inputs.c4k4 (k4 (2 * i + 1))))
    (mul inputs.c4k5 (k5 (2 * i + 1)))
  let fifthRe := add (add (add (add (add (state (2 * i)) (mul inputs.c5k1 (k1 (2 * i))))
    (mul inputs.c5k3 (k3 (2 * i)))) (mul inputs.c5k4 (k4 (2 * i))))
    (mul inputs.c5k5 (k5 (2 * i)))) (mul inputs.c5k6 (k6 (2 * i)))
  let fifthIm := add (add (add (add (add (state (2 * i + 1)) (mul inputs.c5k1 (k1 (2 * i + 1))))
    (mul inputs.c5k3 (k3 (2 * i + 1)))) (mul inputs.c5k4 (k4 (2 * i + 1))))
    (mul inputs.c5k5 (k5 (2 * i + 1)))) (mul inputs.c5k6 (k6 (2 * i + 1)))
  let dr := sub fifthRe fourthRe
  let di := sub fifthIm fourthIm
  let diff2 := add (mul dr dr) (mul di di)
  let an2 := add (mul fifthRe fifthRe) (mul fifthIm fifthIm)
  let bn2 := add (mul fourthRe fourthRe) (mul fourthIm fourthIm)
  let scale2 := fmax (fmax an2 bn2) one
  { acc with
    outState := Function.update (Function.update acc.outState (2 * i) fifthRe) (2 * i + 1) fifthIm
    sum0 := add acc.sum0 (div diff2 scale2) }

/-- The main loop and the loop over the rest, from element `i` on. -/
def rkf45FinalizeComplexFrom (inputs : Rkf45Inputs D) (count i : ℕ) (acc : ComplexFinalize D) :
    ComplexFinalize D :=
  if i + 1 < count then rkf45FinalizeComplexFrom inputs count (i + 2) (acc.pair inputs i)
  else (List.range' i (count - i)).foldl (fun acc i => acc.single inputs i) acc
termination_by count - i

/-- `rkf45_finalize_complex`, which returns its error norm. -/
def rkf45FinalizeComplex (inputs : Rkf45Inputs D) (outState : StateBuffer D) (count : ℕ) :
    StateBuffer D × D :=
  let acc := rkf45FinalizeComplexFrom inputs count 0 ⟨outState, zero, zero⟩
  (acc.outState,
    CDouble.sqrt (div (add acc.sum0 acc.sum1) (ofU64 (BitVec.ofNat 64 count))))

namespace ComplexFinalize

variable (inputs : Rkf45Inputs D)

/-- What an element adds to the error norm. -/
def term (i : ℕ) : D :=
  let square (re im : D) := add (mul re re) (mul im im)
  div (square (sub (inputs.fifth (2 * i)) (inputs.fourth (2 * i)))
      (sub (inputs.fifth (2 * i + 1)) (inputs.fourth (2 * i + 1))))
    (fmax (fmax (square (inputs.fifth (2 * i)) (inputs.fifth (2 * i + 1)))
      (square (inputs.fourth (2 * i)) (inputs.fourth (2 * i + 1)))) one)

/-- The accumulator of a lane of the main loop after so many rounds. -/
def column (rounds lane : ℕ) : D :=
  (List.range rounds).foldl (fun sum group => add sum (term inputs (2 * group + lane))) zero

theorem column_succ (rounds lane : ℕ) :
    column inputs (rounds + 1) lane =
      add (column inputs rounds lane) (term inputs (2 * rounds + lane)) := by
  rw [column, List.range_succ, List.foldl_append]
  rfl

/-- The state of the main loop after so many rounds: each lane has the formula of the rest. -/
def rounds (outState : StateBuffer D) (count : ℕ) : ComplexFinalize D where
  outState k := if k < 4 * count then inputs.fifth k else outState k
  sum0 := column inputs count 0
  sum1 := column inputs count 1

theorem pair_rounds (outState : StateBuffer D) (count : ℕ) :
    (rounds inputs outState count).pair inputs (2 * count) =
      rounds inputs outState (count + 1) := by
  have hOut : ((rounds inputs outState count).pair inputs (2 * count)).outState =
      (rounds inputs outState (count + 1)).outState := by
    funext k
    change Function.update (Function.update (Function.update (Function.update
      (rounds inputs outState count).outState (2 * (2 * count)) (inputs.fifth (2 * (2 * count))))
      (2 * (2 * count) + 1) (inputs.fifth (2 * (2 * count) + 1))) (2 * (2 * count + 1))
      (inputs.fifth (2 * (2 * count + 1)))) (2 * (2 * count + 1) + 1)
      (inputs.fifth (2 * (2 * count + 1) + 1)) k = _
    simp only [Function.update_apply, rounds]
    split_ifs <;> first | omega | simp only [*]
  rw [ComplexFinalize.mk.injEq]
  exact ⟨hOut, (column_succ inputs count 0).symm, (column_succ inputs count 1).symm⟩

/-- The loop over the rest. -/
theorem foldl_single (elements : List ℕ) (acc : ComplexFinalize D) :
    elements.foldl (fun acc i => acc.single inputs i) acc =
      { acc with
        outState := fun k => if k / 2 ∈ elements then inputs.fifth k else acc.outState k
        sum0 := elements.foldl (fun sum i => add sum (term inputs i)) acc.sum0 } := by
  induction elements generalizing acc with
  | nil => rfl
  | cons i elements ih =>
      rw [List.foldl_cons, ih, ComplexFinalize.mk.injEq]
      refine ⟨?_, rfl, rfl⟩
      funext k
      change (if k / 2 ∈ elements then inputs.fifth k
        else Function.update (Function.update acc.outState (2 * i) (inputs.fifth (2 * i)))
          (2 * i + 1) (inputs.fifth (2 * i + 1)) k) = _
      rw [Function.update_apply, Function.update_apply]
      by_cases hLater : k / 2 ∈ elements
      · rw [if_pos hLater, if_pos (List.mem_cons_of_mem i hLater)]
      rw [if_neg hLater]
      by_cases hHere : k / 2 = i
      · rw [if_pos (List.mem_cons.mpr (.inl hHere))]
        split_ifs with hOdd hEven
        · rw [hOdd]
        · rw [hEven]
        · omega
      · rw [if_neg fun hMem => (List.mem_cons.mp hMem).elim hHere hLater, if_neg (by omega),
          if_neg (by omega)]

theorem from_rounds (outState : StateBuffer D) (count : ℕ) {done : ℕ} (hDone : done ≤ count / 2) :
    rkf45FinalizeComplexFrom inputs count (2 * done) (rounds inputs outState done) =
      (List.range' (2 * (count / 2)) (count % 2)).foldl (fun acc i => acc.single inputs i)
        (rounds inputs outState (count / 2)) := by
  induction hLeft : count / 2 - done generalizing done with
  | zero =>
      obtain rfl : done = count / 2 := by omega
      have hRest : count - 2 * (count / 2) = count % 2 := by omega
      have hEnd : ¬ 2 * (count / 2) + 1 < count := by omega
      rw [rkf45FinalizeComplexFrom, if_neg hEnd, hRest]
  | succ left ih =>
      have hMain : 2 * done + 1 < count := by omega
      have hNext : done + 1 ≤ count / 2 := by omega
      rw [rkf45FinalizeComplexFrom, if_pos hMain, pair_rounds]
      exact ih hNext (by omega)

end ComplexFinalize

/-- The complex loops compute for every lane the formula of one lane as well. -/
theorem rkf45FinalizeComplex_spec (inputs : Rkf45Inputs D) (outState : StateBuffer D)
    (count : ℕ) :
    (∀ k, (rkf45FinalizeComplex inputs outState count).1 k =
      if k < 2 * count then (inputs.trial true count).candidate k else outState k) ∧
      (rkf45FinalizeComplex inputs outState count).2 = (inputs.trial true count).errorNorm := by
  have hStart : ComplexFinalize.mk outState zero zero =
      ComplexFinalize.rounds inputs outState 0 := by
    rw [ComplexFinalize.rounds, ComplexFinalize.mk.injEq]
    exact ⟨funext fun k => (if_neg (Nat.not_lt_zero k)).symm, rfl, rfl⟩
  have hLoops := ComplexFinalize.from_rounds inputs outState count (Nat.zero_le _)
  rw [Nat.mul_zero, ← hStart, ComplexFinalize.foldl_single] at hLoops
  unfold rkf45FinalizeComplex
  rw [hLoops]
  refine ⟨fun k => ?_, ?_⟩
  · change (if k / 2 ∈ List.range' (2 * (count / 2)) (count % 2) then inputs.fifth k
      else if k < 4 * (count / 2) then inputs.fifth k else outState k) =
        if k < 2 * count then inputs.fifth k else outState k
    simp only [List.mem_range'_1]
    split_ifs <;> first | rfl | omega
  · rw [List.range'_eq_map_range, List.foldl_map]
    rfl

end Oakfield
