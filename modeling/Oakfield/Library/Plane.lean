import Mathlib.Data.Fintype.Prod
import Mathlib.Data.Nat.Notation
import Mathlib.Tactic.Linarith

/-! Addresses of the points of a plane by one stride for each axis, and the
coordinates which divisions by the strides read back. -/
namespace Library.Plane

/-- The address of a point. -/
def address (strideX strideY x y : ℕ) : ℕ := x * strideX + y * strideY

/-- The coordinates read back from an address. -/
def coordinates (width height strideX strideY index : ℕ) : ℕ × ℕ :=
  (index / strideX % width, index / strideY % height)

/-- One axis has unit stride and the other one steps over its whole extent; the
stride of an axis of extent 1 does not matter. -/
def Dense (width height strideX strideY : ℕ) : Prop :=
  ((strideX = 1 ∨ width = 1) ∧ (strideY = width ∨ height = 1)) ∨
    (strideY = 1 ∨ height = 1) ∧ (strideX = height ∨ width = 1)

variable {width height strideX strideY : ℕ}

theorem address_swap (x y : ℕ) : address strideX strideY x y = address strideY strideX y x :=
  Nat.add_comm _ _

theorem coordinates_swap (index : ℕ) : coordinates height width strideY strideX index =
    (coordinates width height strideX strideY index).swap :=
  rfl

/-- With the first axis the fast one, reading back an address gives the point. -/
theorem coordinates_address_of_rows (hX : strideX = 1 ∨ width = 1)
    (hY : strideY = width ∨ height = 1) (hStrideX : strideX ≠ 0) (hStrideY : strideY ≠ 0) {x y : ℕ}
    (hBelow : x < width) (hBelowY : y < height) :
    coordinates width height strideX strideY (address strideX strideY x y) = (x, y) ∧
      address strideX strideY x y < width * height := by
  rw [coordinates, address, Prod.mk.injEq]
  rcases hY with rfl | rfl
  · have hRow : x + y * strideY < strideY * height := by nlinarith
    have hDiv : (x + y * strideY) / strideY = y := by
      rw [Nat.add_mul_div_right _ _ (by omega), Nat.div_eq_of_lt hBelow, Nat.zero_add]
    rcases hX with rfl | rfl
    · rw [Nat.mul_one, Nat.div_one, Nat.add_mul_mod_self_right, Nat.mod_eq_of_lt hBelow, hDiv,
        Nat.mod_eq_of_lt hBelowY]
      exact ⟨⟨rfl, rfl⟩, hRow⟩
    · obtain rfl : x = 0 := by omega
      rw [Nat.zero_mul, Nat.zero_add, Nat.mul_one, Nat.div_one, Nat.mod_one,
        Nat.mod_eq_of_lt hBelowY, Nat.one_mul]
      exact ⟨⟨rfl, rfl⟩, hBelowY⟩
  · obtain rfl : y = 0 := by omega
    rw [Nat.zero_mul, Nat.add_zero, Nat.mod_one, Nat.mul_one,
      Nat.mul_div_cancel _ (Nat.pos_of_ne_zero hStrideX), Nat.mod_eq_of_lt hBelow]
    rcases hX with rfl | rfl
    · exact ⟨⟨rfl, rfl⟩, by omega⟩
    · obtain rfl : x = 0 := by omega
      exact ⟨⟨rfl, rfl⟩, by omega⟩

theorem address_coordinates_of_rows (hX : strideX = 1 ∨ width = 1)
    (hY : strideY = width ∨ height = 1) {index : ℕ} (hIndex : index < width * height) :
    address strideX strideY (coordinates width height strideX strideY index).1
      (coordinates width height strideX strideY index).2 = index := by
  rw [address, coordinates]
  dsimp only
  rcases hY with rfl | rfl
  · have hRow : index / strideY < height := Nat.div_lt_of_lt_mul hIndex
    rw [Nat.mod_eq_of_lt hRow]
    rcases hX with rfl | rfl
    · rw [Nat.div_one, Nat.mul_one, Nat.mul_comm]
      exact Nat.mod_add_div _ _
    · rw [Nat.mod_one, Nat.zero_mul, Nat.div_one, Nat.mul_one, Nat.zero_add]
  · rw [Nat.mod_one, Nat.zero_mul, Nat.add_zero]
    rcases hX with rfl | rfl
    · rw [Nat.div_one, Nat.mul_one, Nat.mod_eq_of_lt (by omega)]
    · rw [Nat.mod_one, Nat.zero_mul]
      omega

theorem coordinates_address (hDense : Dense width height strideX strideY) (hStrideX : strideX ≠ 0)
    (hStrideY : strideY ≠ 0) {x y : ℕ} (hBelow : x < width) (hBelowY : y < height) :
    coordinates width height strideX strideY (address strideX strideY x y) = (x, y) ∧
      address strideX strideY x y < width * height := by
  rcases hDense with ⟨hX, hY⟩ | ⟨hY, hX⟩
  · exact coordinates_address_of_rows hX hY hStrideX hStrideY hBelow hBelowY
  · obtain ⟨hSwapped, hInside⟩ :=
      coordinates_address_of_rows hY hX hStrideY hStrideX hBelowY hBelow
    rw [coordinates_swap, ← address_swap] at hSwapped
    rw [← address_swap, Nat.mul_comm] at hInside
    exact ⟨Prod.swap_injective hSwapped, hInside⟩

theorem address_coordinates (hDense : Dense width height strideX strideY) {index : ℕ}
    (hIndex : index < width * height) :
    address strideX strideY (coordinates width height strideX strideY index).1
      (coordinates width height strideX strideY index).2 = index := by
  rcases hDense with ⟨hX, hY⟩ | ⟨hY, hX⟩
  · exact address_coordinates_of_rows hX hY hIndex
  · rw [Nat.mul_comm] at hIndex
    rw [address_swap]
    exact address_coordinates_of_rows hY hX hIndex

/-! ### Only dense strides can be read back -/

section Inverse

variable {modulus : ℕ}

/-- Every address reads back as its point, and the first addresses are all reached. -/
structure Inverse (modulus width height strideX strideY : ℕ) : Prop where
  point : ∀ x < width, ∀ y < height,
    coordinates width height strideX strideY (address strideX strideY x y % modulus) = (x, y)
  index : ∀ index < width * height,
    address strideX strideY (coordinates width height strideX strideY index).1
      (coordinates width height strideX strideY index).2 % modulus = index

theorem Inverse.swap (hInverse : Inverse modulus width height strideX strideY) :
    Inverse modulus height width strideY strideX where
  point := by
    intro y hY x hX
    rw [coordinates_swap, address_swap, hInverse.point x hX y hY]
    rfl
  index := by
    intro index hIndex
    rw [Nat.mul_comm] at hIndex
    rw [coordinates_swap, address_swap]
    exact hInverse.index index hIndex

/-- With a unit stride on the first axis, the stride of the second is the width. -/
theorem rows_of_inverse (hInverse : Inverse modulus width height 1 strideY) (hWidth : 0 < width)
    (hHeight : 0 < height) (hStrideY : strideY < modulus) : strideY = width ∨ height = 1 := by
  by_contra hPadded
  rw [not_or] at hPadded
  -- the point below the origin lies in a column of its own, at a multiple of the width
  have hBelow := hInverse.point 0 hWidth 1 (by omega)
  rw [address, Nat.zero_mul, Nat.zero_add, Nat.one_mul, Nat.mod_eq_of_lt hStrideY, coordinates,
    Prod.mk.injEq, Nat.div_one] at hBelow
  have hMultiple : width ∣ strideY := Nat.dvd_of_mod_eq_zero hBelow.1
  -- the index after the first row reads back as a point of the first column
  have hNext := hInverse.index width (by nlinarith [show 1 < height by omega])
  rw [coordinates, address, Nat.div_one, Nat.mod_self, Nat.zero_mul, Nat.zero_add] at hNext
  rcases Nat.eq_zero_or_pos strideY with hZero | hPos
  · rw [hZero, Nat.mul_zero, Nat.zero_mod] at hNext
    omega
  · have hLess : width < strideY := by
      have hLe := Nat.le_of_dvd hPos hMultiple
      omega
    rw [Nat.div_eq_of_lt hLess, Nat.zero_mod, Nat.zero_mul, Nat.zero_mod] at hNext
    omega

theorem dense_of_inverse (hInverse : Inverse modulus width height strideX strideY)
    (hWidth : 0 < width) (hHeight : 0 < height) (hStrideX : strideX < modulus)
    (hStrideY : strideY < modulus) : Dense width height strideX strideY := by
  by_cases hPoint : width = 1 ∧ height = 1
  · exact .inl ⟨.inr hPoint.1, .inr hPoint.2⟩
  -- index 1 is only reached along an axis of unit stride
  · have hSecond := hInverse.index 1 (by
      have hMore : 1 < width ∨ 1 < height := by omega
      rcases hMore with hMore | hMore
      · nlinarith
      · nlinarith)
    have hUnit : strideX = 1 ∨ strideY = 1 := by
      by_contra hNone
      rw [not_or] at hNone
      have hDiv : ∀ stride, stride ≠ 1 → 1 / stride = 0 := by
        intro stride hStride
        rcases Nat.eq_zero_or_pos stride with rfl | hPos
        · exact Nat.div_zero 1
        · exact Nat.div_eq_of_lt (by omega)
      rw [coordinates, address, hDiv _ hNone.1, hDiv _ hNone.2] at hSecond
      simp only [Nat.zero_mod, Nat.zero_mul, Nat.add_zero] at hSecond
      omega
    rcases hUnit with rfl | rfl
    · exact .inl ⟨.inl rfl, rows_of_inverse hInverse hWidth hHeight hStrideY⟩
    · exact .inr ⟨.inl rfl, rows_of_inverse hInverse.swap hHeight hWidth hStrideX⟩

theorem inverse_of_dense (hDense : Dense width height strideX strideY) (hStrideX : strideX ≠ 0)
    (hStrideY : strideY ≠ 0) (hFits : width * height ≤ modulus) :
    Inverse modulus width height strideX strideY where
  point := by
    intro x hX y hY
    obtain ⟨hRead, hInside⟩ := coordinates_address hDense hStrideX hStrideY hX hY
    rw [Nat.mod_eq_of_lt (Nat.lt_of_lt_of_le hInside hFits)]
    exact hRead
  index := by
    intro index hIndex
    rw [address_coordinates hDense hIndex, Nat.mod_eq_of_lt (Nat.lt_of_lt_of_le hIndex hFits)]

end Inverse

end Library.Plane
