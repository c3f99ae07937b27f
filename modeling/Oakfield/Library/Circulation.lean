import Mathlib.Algebra.BigOperators.Group.Finset.Basic
import Mathlib.Data.Nat.Notation
import Mathlib.Tactic.Abel

/-! Sums of a function of directed edges around the cells of a grid: what is left of the edges
inside a rectangle is what they have in both directions. -/
namespace Library.Circulation

open Finset

variable {A : Type} [AddCommMonoid A] (f : ℕ × ℕ → ℕ × ℕ → A)

/-- The edges at a point, in both directions. -/
def right (x y : ℕ) : A := f (x, y) (x + 1, y)

def left (x y : ℕ) : A := f (x + 1, y) (x, y)

def up (x y : ℕ) : A := f (x, y) (x, y + 1)

def down (x y : ℕ) : A := f (x, y + 1) (x, y)

/-- Counter-clockwise around a cell. -/
def cell (x y : ℕ) : A := right f x y + up f (x + 1) y + left f x (y + 1) + down f x y

/-- Counter-clockwise around the rectangle of `n + 1` by `m + 1` cells at a point. -/
def boundary (x y n m : ℕ) : A :=
  ∑ i ∈ range (n + 1), right f (x + i) y + ∑ j ∈ range (m + 1), up f (x + (n + 1)) (y + j) +
    ∑ i ∈ range (n + 1), left f (x + i) (y + (m + 1)) + ∑ j ∈ range (m + 1), down f x (y + j)

/-- The edges inside the rectangle, each in both directions. -/
def inside (x y n m : ℕ) : A :=
  ∑ j ∈ range (m + 1), ∑ i ∈ range n, (down f (x + (i + 1)) (y + j) + up f (x + (i + 1)) (y + j)) +
    ∑ j ∈ range m, ∑ i ∈ range (n + 1),
      (right f (x + i) (y + (j + 1)) + left f (x + i) (y + (j + 1)))

omit f in
/-- Neighbours in a row share what is between them. -/
theorem sum_shared (first second : ℕ → A) (n : ℕ) :
    ∑ i ∈ range (n + 1), (first i + second (i + 1)) =
      first 0 + second (n + 1) + ∑ i ∈ range n, (first (i + 1) + second (i + 1)) := by
  induction n with
  | zero => rw [sum_range_one, sum_range_zero, add_zero]
  | succ n ih =>
      rw [sum_range_succ, ih, sum_range_succ _ n]
      abel

theorem sum_row (x y n : ℕ) :
    ∑ i ∈ range (n + 1), cell f (x + i) y =
      (∑ i ∈ range (n + 1), right f (x + i) y + ∑ i ∈ range (n + 1), left f (x + i) (y + 1)) +
        (down f x y + up f (x + (n + 1)) y +
          ∑ i ∈ range n, (down f (x + (i + 1)) y + up f (x + (i + 1)) y)) := by
  have hShared := sum_shared (fun i => down f (x + i) y) (fun i => up f (x + i) y) n
  simp only [Nat.add_zero] at hShared
  rw [← hShared, ← sum_add_distrib, ← sum_add_distrib]
  refine sum_congr rfl fun i _ => ?_
  rw [cell, Nat.add_assoc]
  abel

/-- The cells add up to the boundary and to what the edges inside do not cancel. -/
theorem sum_cells (x y n m : ℕ) :
    ∑ j ∈ range (m + 1), ∑ i ∈ range (n + 1), cell f (x + i) (y + j) =
      boundary f x y n m + inside f x y n m := by
  have hShared := sum_shared (fun j => ∑ i ∈ range (n + 1), right f (x + i) (y + j))
    (fun j => ∑ i ∈ range (n + 1), left f (x + i) (y + j)) m
  simp only [Nat.add_zero, ← sum_add_distrib] at hShared
  have hRows : ∀ j, ∑ i ∈ range (n + 1), cell f (x + i) (y + j) =
      ∑ i ∈ range (n + 1), (right f (x + i) (y + j) + left f (x + i) (y + (j + 1))) +
        (down f x (y + j) + up f (x + (n + 1)) (y + j) +
          ∑ i ∈ range n, (down f (x + (i + 1)) (y + j) + up f (x + (i + 1)) (y + j))) := by
    intro j
    rw [sum_row, ← sum_add_distrib, Nat.add_assoc y j 1]
  rw [sum_congr rfl fun j _ => hRows j, sum_add_distrib, hShared, boundary, inside]
  simp only [sum_add_distrib]
  abel

end Library.Circulation
