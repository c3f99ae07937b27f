import Mathlib.Algebra.Order.Group.Nat
import Mathlib.Data.List.Basic
import Mathlib.Data.Nat.Notation
import Mathlib.Tactic.Linarith

/-! Loops `for (i = 0; i < bound; i += step)` over a counter which wraps at a
modulus. They follow the multiples of the step, and need not end. -/
namespace Library.Strided

variable {S : Type}

/-- The loop from a position on; it has no result when the fuel runs out or the
body has none. -/
def loop (modulus bound step : ℕ) (body : ℕ → S → Option S) : ℕ → ℕ → S → Option S
  | 0, _, _ => none
  | fuel + 1, i, s =>
      if i < bound then
        match body i s with
        | none => none
        | some s => loop modulus bound step body fuel ((i + step) % modulus) s
      else some s

/-- The positions of the first `count` iterations. -/
def positions (modulus step count : ℕ) : List ℕ :=
  (List.range count).map fun i => i * step % modulus

/-- The loop makes exactly `count` iterations. -/
def Ends (modulus bound step count : ℕ) : Prop :=
  (∀ i < count, i * step % modulus < bound) ∧ bound ≤ count * step % modulus

variable {modulus bound step : ℕ} {body : ℕ → S → Option S}

/-- The positions from the `first` one on. -/
def positionsFrom (modulus step first count : ℕ) : List ℕ :=
  (List.range count).map fun i => (first + i) * step % modulus

theorem positionsFrom_succ (first count : ℕ) :
    positionsFrom modulus step first (count + 1) =
      first * step % modulus :: positionsFrom modulus step (first + 1) count := by
  rw [positionsFrom, List.range_succ_eq_map, List.map_cons, List.map_map, Nat.add_zero,
    positionsFrom]
  congr 1
  apply List.map_congr_left
  intro i _
  simp only [Function.comp_apply, Nat.succ_eq_add_one]
  congr 2
  omega

/-- What a loop which ended from some iteration on has done. -/
theorem loop_some {fuel first : ℕ} {s s' : S}
    (hLoop : loop modulus bound step body fuel (first * step % modulus) s = some s') :
    ∃ count, (∀ i < count, (first + i) * step % modulus < bound) ∧
      bound ≤ (first + count) * step % modulus ∧
      (positionsFrom modulus step first count).foldlM (fun s i => body i s) s = some s' := by
  induction fuel generalizing first s with
  | zero => cases hLoop
  | succ fuel ih =>
      rw [loop] at hLoop
      split_ifs at hLoop with hBelow
      · cases hBody : body (first * step % modulus) s with
        | none =>
            rw [hBody] at hLoop
            cases hLoop
        | some next =>
            have hNext : (first * step % modulus + step) % modulus =
              (first + 1) * step % modulus := by
              rw [Nat.mod_add_mod, Nat.succ_mul]
            rw [hBody] at hLoop
            dsimp only at hLoop
            rw [hNext] at hLoop
            obtain ⟨count, hBound, hEnd, hFold⟩ := ih hLoop
            refine ⟨count + 1, ?_, ?_, ?_⟩
            · intro i hI
              cases i with
              | zero => exact hBelow
              | succ i =>
                  have hShift : first + (i + 1) = first + 1 + i := by omega
                  rw [hShift]
                  exact hBound i (by omega)
            · rw [show first + (count + 1) = first + 1 + count by omega]
              exact hEnd
            · rw [positionsFrom_succ, List.foldlM_cons, hBody]
              exact hFold
      · cases hLoop
        exact ⟨0, fun i hI => absurd hI (Nat.not_lt_zero i), Nat.le_of_not_lt hBelow, rfl⟩

/-- With enough fuel, a loop whose positions leave the range ends. -/
theorem loop_of_ends {fuel first count : ℕ} {s s' : S}
    (hBound : ∀ i < count, (first + i) * step % modulus < bound)
    (hEnd : bound ≤ (first + count) * step % modulus)
    (hFold : (positionsFrom modulus step first count).foldlM (fun s i => body i s) s = some s')
    (hFuel : count < fuel) :
    loop modulus bound step body fuel (first * step % modulus) s = some s' := by
  induction count generalizing first s fuel with
  | zero =>
      cases fuel with
      | zero => omega
      | succ fuel =>
          rw [Nat.add_zero] at hEnd
          rw [loop, if_neg (Nat.not_lt.mpr hEnd)]
          exact hFold
  | succ count ih =>
      cases fuel with
      | zero => omega
      | succ fuel =>
          rw [positionsFrom_succ, List.foldlM_cons] at hFold
          have hBelow : first * step % modulus < bound := hBound 0 (Nat.succ_pos count)
          rw [loop, if_pos hBelow]
          cases hBody : body (first * step % modulus) s with
          | none =>
              rw [hBody] at hFold
              cases hFold
          | some next =>
              rw [hBody] at hFold
              have hNext : (first * step % modulus + step) % modulus =
                  (first + 1) * step % modulus := by
                rw [Nat.mod_add_mod, Nat.succ_mul]
              dsimp only
              rw [hNext]
              apply ih _ _ hFold (by omega)
              · intro i hI
                rw [show first + 1 + i = first + (i + 1) by omega]
                exact hBound (i + 1) (by omega)
              · rw [show first + 1 + count = first + (count + 1) by omega]
                exact hEnd

theorem positionsFrom_zero (count : ℕ) : positionsFrom modulus step 0 count =
    positions modulus step count := by
  simp only [positionsFrom, positions, Nat.zero_add]

/-- From the start: the loop ends after some number of iterations and folds the
body over their positions. -/
theorem loop_start_some {fuel : ℕ} {s s' : S}
    (hLoop : loop modulus bound step body fuel 0 s = some s') :
    ∃ count, Ends modulus bound step count ∧
      (positions modulus step count).foldlM (fun s i => body i s) s = some s' := by
  have hStart : loop modulus bound step body fuel (0 * step % modulus) s = some s' := by
    rwa [Nat.zero_mul, Nat.zero_mod]
  obtain ⟨count, hBound, hEnd, hFold⟩ := loop_some hStart
  simp only [Nat.zero_add] at hBound hEnd
  rw [positionsFrom_zero] at hFold
  exact ⟨count, ⟨hBound, hEnd⟩, hFold⟩

theorem loop_start_of_ends {fuel count : ℕ} {s s' : S} (hEnds : Ends modulus bound step count)
    (hFold : (positions modulus step count).foldlM (fun s i => body i s) s = some s')
    (hFuel : count < fuel) : loop modulus bound step body fuel 0 s = some s' := by
  have hRun : loop modulus bound step body fuel (0 * step % modulus) s = some s' := by
    apply loop_of_ends _ _ _ hFuel
    · simpa only [Nat.zero_add] using hEnds.1
    · simpa only [Nat.zero_add] using hEnds.2
    · rwa [positionsFrom_zero]
  rwa [Nat.zero_mul, Nat.zero_mod] at hRun

/-! ### How often the loop runs -/

/-- The least number of steps which reach the bound. -/
def ceilDiv (bound step : ℕ) : ℕ := (bound + step - 1) / step

theorem ceilDiv_spec (hStep : 0 < step) (hBound : 0 < bound) :
    0 < ceilDiv bound step ∧ bound ≤ ceilDiv bound step * step ∧
      (ceilDiv bound step - 1) * step < bound := by
  have hDivMod := Nat.div_add_mod (bound + step - 1) step
  have hMod := Nat.mod_lt (bound + step - 1) hStep
  have hPos : 0 < ceilDiv bound step := Nat.div_pos (by omega) hStep
  rw [← ceilDiv, Nat.mul_comm] at hDivMod
  have hPred : (ceilDiv bound step - 1) * step = ceilDiv bound step * step - step := by
    rw [Nat.sub_mul, Nat.one_mul]
  exact ⟨hPos, by omega, by omega⟩

/-- A loop with a step up to its bound makes at least the least number of
iterations, and exactly that many when the last addition does not wrap. -/
theorem ends_ceilDiv_le {count : ℕ} (hStep : 0 < step) (hBound : 0 < bound)
    (hModulus : bound ≤ modulus)
    (hEnds : Ends modulus bound step count) : ceilDiv bound step ≤ count := by
  obtain ⟨hPos, hReach, hBefore⟩ := ceilDiv_spec hStep hBound
  by_contra hFew
  have hBelow : count * step ≤ (ceilDiv bound step - 1) * step :=
    Nat.mul_le_mul_right _ (by omega)
  have hExact : count * step % modulus = count * step := Nat.mod_eq_of_lt (by omega)
  have hEnd := hEnds.2
  omega

theorem ends_ceilDiv_iff (hStep : 0 < step) (hLe : step ≤ bound) (hModulus : bound < modulus) :
    Ends modulus bound step (ceilDiv bound step) ↔ ceilDiv bound step * step < modulus := by
  obtain ⟨hPos, hReach, hBefore⟩ := ceilDiv_spec hStep (by omega : 0 < bound)
  have hLast : ceilDiv bound step * step = (ceilDiv bound step - 1) * step + step := by
    rw [← Nat.succ_mul, Nat.succ_eq_add_one, Nat.sub_add_cancel hPos]
  constructor
  · intro hEnds
    by_contra hWraps
    -- one wrap takes the counter below the step
    have hOnce : ceilDiv bound step * step % modulus = ceilDiv bound step * step - modulus := by
      rw [Nat.mod_eq_sub_mod (by omega), Nat.mod_eq_of_lt (by omega)]
    have hEnd := hEnds.2
    omega
  · intro hFits
    refine ⟨fun i hI => ?_, ?_⟩
    · have hBelow : i * step ≤ (ceilDiv bound step - 1) * step :=
        Nat.mul_le_mul_right _ (by omega)
      exact Nat.lt_of_le_of_lt (Nat.mod_le _ _) (by omega)
    · rw [Nat.mod_eq_of_lt hFits]
      exact hReach

theorem Ends.unique {count other : ℕ} (hEnds : Ends modulus bound step count)
    (hOther : Ends modulus bound step other) : count = other := by
  rcases Nat.lt_trichotomy count other with hLess | hSame | hMore
  · exact absurd (hOther.1 count hLess) (Nat.not_lt.mpr hEnds.2)
  · exact hSame
  · exact absurd (hEnds.1 other hMore) (Nat.not_lt.mpr hOther.2)

/-- Without a wrap the positions are the multiples of the step. -/
theorem positions_eq {count : ℕ} (hFits : count * step < modulus) :
    positions modulus step count = (List.range count).map fun i => i * step := by
  rw [positions]
  apply List.map_congr_left
  intro i hI
  have hBelow : i * step ≤ count * step := Nat.mul_le_mul_right _ (List.mem_range.mp hI).le
  exact Nat.mod_eq_of_lt (Nat.lt_of_le_of_lt hBelow hFits)

/-! ### The pieces between two positions -/

/-- The part of a range which an iteration covers: a step, or what is left. -/
def pieceLength (bound step first : ℕ) : ℕ :=
  if step < bound - first then step else bound - first

theorem pieceLength_spec {i : ℕ} (hStep : 0 < step) (hBound : 0 < bound)
    (hI : i < ceilDiv bound step) :
    0 < pieceLength bound step (i * step) ∧
      i * step + pieceLength bound step (i * step) ≤ bound ∧
      pieceLength bound step (i * step) ≤ step := by
  have hBefore := (ceilDiv_spec hStep hBound).2.2
  have hBelow : i * step ≤ (ceilDiv bound step - 1) * step :=
    Nat.mul_le_mul_right _ (by omega)
  rw [pieceLength]
  split_ifs <;> omega

theorem pieceLength_apart {i j : ℕ} (hStep : 0 < step) (hBound : 0 < bound) (hLess : i < j)
    (hJ : j < ceilDiv bound step) :
    i * step + pieceLength bound step (i * step) ≤ j * step := by
  have hPiece := (pieceLength_spec hStep hBound (Nat.lt_trans hLess hJ)).2.2
  have hNext : (i + 1) * step ≤ j * step := Nat.mul_le_mul_right _ hLess
  rw [Nat.succ_mul] at hNext
  omega

theorem pieceLength_cover {index : ℕ} (hStep : 0 < step) (hIndex : index < bound) :
    ∃ i < ceilDiv bound step, i * step ≤ index ∧
      index < i * step + pieceLength bound step (i * step) := by
  have hReach := (ceilDiv_spec hStep (Nat.zero_lt_of_lt hIndex)).2.1
  have hDivMod := Nat.div_add_mod index step
  have hMod := Nat.mod_lt index hStep
  rw [Nat.mul_comm] at hDivMod
  refine ⟨index / step, ?_, ?_, ?_⟩
  · rw [Nat.div_lt_iff_lt_mul hStep]
    omega
  · omega
  · rw [pieceLength]
    split_ifs <;> omega

/-- A step beyond the bound makes one piece, as one of the bound does. -/
theorem ceilDiv_min (hBound : 0 < bound) :
    ceilDiv bound (min step bound) = ceilDiv bound step := by
  rcases Nat.le_total step bound with hLe | hLe
  · rw [Nat.min_eq_left hLe]
  · rw [Nat.min_eq_right hLe, ceilDiv, ceilDiv,
      Nat.div_eq_of_lt_le (by omega : 1 * bound ≤ _) (by omega),
      Nat.div_eq_of_lt_le (by omega : 1 * step ≤ _) (by omega)]

end Library.Strided
