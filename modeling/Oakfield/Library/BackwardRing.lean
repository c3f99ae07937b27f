import Mathlib.Data.Nat.Notation
import Mathlib.Data.List.Basic

/-! A ring which is filled backwards: the newest entry is at the head, and the slots after it
hold the older ones as far as there is room. -/
namespace Library.BackwardRing

variable {α : Type}

/-- The slot before the head. -/
def back (slots head : ℕ) : ℕ := if head = 0 then slots - 1 else head - 1

/-- The slot after a slot. -/
def next (slots slot : ℕ) : ℕ := if slot + 1 = slots then 0 else slot + 1

/-- The slot some steps after the head. -/
def slotAt (slots head : ℕ) : ℕ → ℕ
  | 0 => head
  | j + 1 => next slots (slotAt slots head j)

variable {slots head count : ℕ} {cells cells' : ℕ → α} {log : List α} {a : α}

theorem slotAt_succ (j : ℕ) : slotAt slots head (j + 1) = next slots (slotAt slots head j) := rfl

theorem back_lt (hHead : head < slots) : back slots head < slots := by
  rw [back]
  split <;> omega

theorem next_back (hHead : head < slots) : next slots (back slots head) = head := by
  rw [next, back]
  split <;> split <;> omega

theorem slotAt_eq (hHead : head < slots) (j : ℕ) : slotAt slots head j = (head + j) % slots := by
  induction j with
  | zero => exact (Nat.mod_eq_of_lt hHead).symm
  | succ j ih =>
      have hLt : (head + j) % slots < slots := Nat.mod_lt _ (by omega)
      have hStep : (head + (j + 1)) % slots = ((head + j) % slots + 1) % slots := by
        rw [Nat.mod_add_mod, Nat.add_assoc]
      rw [slotAt_succ, next, ih, hStep]
      split
      case isTrue hLast => rw [hLast, Nat.mod_self]
      case isFalse hInside => exact (Nat.mod_eq_of_lt (by omega)).symm

theorem slotAt_lt (hHead : head < slots) (j : ℕ) : slotAt slots head j < slots := by
  rw [slotAt_eq hHead]
  exact Nat.mod_lt _ (by omega)

/-- After moving the head back, every slot is one step further from it. -/
theorem slotAt_back (hHead : head < slots) (j : ℕ) :
    slotAt slots (back slots head) (j + 1) = slotAt slots head j := by
  induction j with
  | zero => exact next_back hHead
  | succ j ih => rw [slotAt_succ, ih, slotAt_succ]

/-- A round trip is as long as the ring. -/
theorem slotAt_ne_head (hHead : head < slots) {j : ℕ} (hPos : 0 < j) (hShort : j < slots) :
    slotAt slots head j ≠ head := by
  rw [slotAt_eq hHead]
  intro hEq
  by_cases hWrap : head + j < slots
  · rw [Nat.mod_eq_of_lt hWrap] at hEq
    omega
  · rw [Nat.mod_eq_sub_mod (by omega), Nat.mod_eq_of_lt (by omega)] at hEq
    omega

/-- The ring holds the newest entries of a log. -/
structure Holds (slots head count : ℕ) (cells : ℕ → α) (log : List α) : Prop where
  head_lt : head < slots
  count_eq : count = min log.length slots
  cells_eq : ∀ j < count, log[j]? = some (cells (slotAt slots head j))

theorem holds_nil (hSlots : 0 < slots) (cells : ℕ → α) : Holds slots 0 0 cells [] where
  head_lt := hSlots
  count_eq := (Nat.zero_min slots).symm
  cells_eq j hJ := absurd hJ (Nat.not_lt_zero j)

/-- Pushing overwrites the oldest entry of a full ring. -/
theorem Holds.push (hHolds : Holds slots head count cells log)
    (hNew : cells' (back slots head) = a)
    (hOld : ∀ slot < slots, slot ≠ back slots head → cells' slot = cells slot) :
    Holds slots (back slots head) (if count < slots then count + 1 else count) cells'
      (a :: log) := by
  have hCount := hHolds.count_eq
  have hBack := back_lt hHolds.head_lt
  refine ⟨hBack, ?_, fun j hJ => ?_⟩
  · rw [List.length_cons]
    split <;> omega
  · cases j with
    | zero =>
        rw [slotAt, hNew]
        rfl
    | succ j =>
        have hHeld : j < count ∧ j + 1 < slots := by
          split at hJ <;> omega
        have hSlot := slotAt_lt hBack (j + 1)
        have hOther := slotAt_ne_head hBack (Nat.succ_pos j) hHeld.2
        rw [List.getElem?_cons_succ, hHolds.cells_eq j hHeld.1, hOld _ hSlot hOther,
          slotAt_back hHolds.head_lt]

end Library.BackwardRing
