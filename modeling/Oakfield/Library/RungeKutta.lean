import Mathlib.Algebra.BigOperators.Group.List.Basic
import Mathlib.Algebra.Module.LinearMap.Defs

/-! Explicit Runge-Kutta methods over a module, by their tableaux. -/
namespace Library.RungeKutta

variable {K V W : Type} [Semiring K] [AddCommMonoid V] [Module K V] [AddCommMonoid W] [Module K W]

/-- The coefficients of each stage in the slopes before it, and those of the update. -/
structure Tableau (K : Type) where
  rows : List (List K)
  weights : List K

def combine (coefficients : List K) (slopes : List V) : V :=
  (List.zipWith (· • ·) coefficients slopes).sum

/-- The slopes of further stages, behind those computed already. -/
def slopesFrom (drift : V → V) (step : K) (state : V) : List (List K) → List V → List V
  | [], slopes => slopes
  | row :: rows, slopes =>
      slopesFrom drift step state rows (slopes ++ [drift (state + step • combine row slopes)])

theorem slopesFrom_cons (drift : V → V) (step : K) (state : V) {slope : V} {row : List K}
    {slopes : List V} (rows : List (List K))
    (hSlope : slope = drift (state + step • combine row slopes)) :
    slopesFrom drift step state (row :: rows) slopes =
      slopesFrom drift step state rows (slopes ++ [slope]) := by
  rw [slopesFrom, hSlope]

namespace Tableau

variable (tableau : Tableau K)

def slopes (drift : V → V) (step : K) (state : V) : List V :=
  slopesFrom drift step state tableau.rows []

def update (drift : V → V) (step : K) (state : V) : V :=
  state + step • combine tableau.weights (tableau.slopes drift step state)

end Tableau

/-! ### Linear maps between drifts -/

variable (φ : V →ₗ[K] W)

theorem map_combine (coefficients : List K) (slopes : List V) :
    φ (combine coefficients slopes) = combine coefficients (slopes.map φ) := by
  induction coefficients generalizing slopes with
  | nil => exact map_zero φ
  | cons coefficient coefficients ih =>
      cases slopes with
      | nil => exact map_zero φ
      | cons slope slopes =>
          have hRest := ih slopes
          unfold combine at hRest ⊢
          rw [List.zipWith_cons_cons, List.sum_cons, map_add, map_smul, hRest, List.map_cons,
            List.zipWith_cons_cons, List.sum_cons]

variable {φ} {drift : V → V} {drift' : W → W}
  (hDrift : ∀ state, φ (drift state) = drift' (φ state))
include hDrift

theorem map_slopesFrom (step : K) (state : V) (rows : List (List K)) (slopes : List V) :
    (slopesFrom drift step state rows slopes).map φ =
      slopesFrom drift' step (φ state) rows (slopes.map φ) := by
  induction rows generalizing slopes with
  | nil => rfl
  | cons row rows ih =>
      rw [slopesFrom, slopesFrom, ih, List.map_append, List.map_singleton, hDrift, map_add,
        map_smul, map_combine]

/-- A linear map which takes one drift to another takes the updates to each other. -/
theorem Tableau.map_update (tableau : Tableau K) (step : K) (state : V) :
    φ (tableau.update drift step state) = tableau.update drift' step (φ state) := by
  unfold update slopes
  rw [map_add, map_smul, map_combine, map_slopesFrom hDrift, List.map_nil]

end Library.RungeKutta
