import Oakfield.Field
import Oakfield.KernelIR.Node

/-! Neighbours of an element along an axis, under a boundary policy. -/
namespace Oakfield

open KernelIR

/-- `PTRDIFF_MAX`. -/
def ptrdiffMax : ℤ := 2 ^ 63 - 1

structure SimNdNeighbor where
  valid : Bool
  wrapped : Bool
  index : ℕ
deriving DecidableEq, Repr

/-- `sim_nd_map_coord` for a positive extent: the coordinate and whether it was
moved, `none` when the policy drops it. -/
def simNdMapCoord (coord : ℤ) (extent : ℕ) (boundary : SimIRBoundaryPolicy) :
    Option (ℤ × Bool) :=
  if 0 ≤ coord ∧ coord < extent then some (coord, false)
  else
    match boundary with
    | .periodic =>
        let m := coord.tmod extent
        some (if m < 0 then m + extent else m, true)
    | .reflective =>
        if extent = 1 then some (0, true)
        else
          let period : ℤ := 2 * (extent - 1)
          let m := coord.tmod period
          let m := if m < 0 then m + period else m
          some (if extent ≤ m then period - m else m, true)
    | .dirichlet => none
    | .neumann => none

/-- `sim_nd_axis_offset_neighbor`. -/
def simNdAxisOffsetNeighbor {D : Type} (field : SimField D) (elementIndex axis : ℕ) (offset : ℤ)
    (boundary : SimIRBoundaryPolicy) : Except SimError SimNdNeighbor :=
  let dropped : SimNdNeighbor := ⟨false, false, elementIndex⟩
  if !field.initialized then .error .invalidArgument
  else
  match field.shape[axis]?, field.strides[axis]? with
  | some extent, some stride =>
      if ptrdiffMax < elementIndex then .error .invalidArgument
      else if extent = 0 ∨ stride = 0 then .ok dropped
      else
        let coord : ℤ := (elementIndex / stride % extent : ℕ)
        if (0 < offset ∧ ptrdiffMax - offset < coord) ∨
            (offset < 0 ∧ coord < -ptrdiffMax - 1 - offset) then .error .invalidArgument
        else
          match simNdMapCoord (coord + offset) extent boundary with
          | none => .ok dropped
          | some (target, wrapped) =>
              -- Both overflow checks of the sum, and the check of its sign.
              let delta := (target - coord) * stride
              let index := (elementIndex : ℤ) + delta
              if ptrdiffMax < index ∨ index < 0 then .error .invalidArgument
              else .ok ⟨true, wrapped, index.toNat⟩
  | _, _ => .error .invalidArgument

structure SimNdAxisNeighbors where
  forward : SimNdNeighbor
  backward : SimNdNeighbor
deriving DecidableEq, Repr

/-- `sim_nd_axis_neighbors`, and `backend_cpu_axis_neighbors`, which copies it. -/
def simNdAxisNeighbors {D : Type} (field : SimField D) (elementIndex axis : ℕ)
    (boundary : SimIRBoundaryPolicy) : Except SimError SimNdAxisNeighbors := do
  let forward ← simNdAxisOffsetNeighbor field elementIndex axis 1 boundary
  let backward ← simNdAxisOffsetNeighbor field elementIndex axis (-1) boundary
  pure ⟨forward, backward⟩

end Oakfield
