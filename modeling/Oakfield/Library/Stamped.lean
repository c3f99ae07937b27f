import Oakfield.Library.Memo

/-! Arrays of slots which are cleared by advancing a generation counter. A slot
counts only when its stamp is the current generation; the counter is a machine
word, and the stamps are cleared when it wraps. -/
namespace Library.Memo

inductive Mark where
  | clean
  | active
  | done
deriving DecidableEq, Repr

/-- Stamps, marks and values of the slots, and the current generation. -/
structure Stamped (w : ℕ) (V : Type) where
  stamps : ℕ → BitVec w
  marks : ℕ → Mark
  values : ℕ → V
  generation : BitVec w

namespace Stamped

variable {w : ℕ} {V : Type}

/-- Zeroed stamps and marks, in the first generation. -/
def empty (values : ℕ → V) : Stamped w V := ⟨fun _ => 0, fun _ => .clean, values, 1⟩

/-- The slot as of the current generation. -/
def slot (t : Stamped w V) (k : ℕ) : Slot V :=
  if t.stamps k = t.generation then
    match t.marks k with
    | .clean => .clean
    | .active => .active
    | .done => .done (t.values k)
  else .clean

def setActive (t : Stamped w V) (k : ℕ) : Stamped w V :=
  { t with
    stamps := Function.update t.stamps k t.generation
    marks := Function.update t.marks k .active }

def setDone (t : Stamped w V) (k : ℕ) (v : V) : Stamped w V :=
  { t with marks := Function.update t.marks k .done, values := Function.update t.values k v }

def setClean (t : Stamped w V) (k : ℕ) : Stamped w V :=
  { t with marks := Function.update t.marks k .clean }

/-- Advance the counter; when it wraps to zero, clear the stamps and start at one. -/
def nextGeneration (t : Stamped w V) : Stamped w V :=
  if t.generation + 1 = 0 then { t with stamps := fun _ => 0, generation := 1 }
  else { t with generation := t.generation + 1 }

/-- No stamp is ahead of the current generation, which is not zero. -/
def Current (t : Stamped w V) : Prop :=
  0 < t.generation.toNat ∧ ∀ k, (t.stamps k).toNat ≤ t.generation.toNat

variable {t : Stamped w V}

theorem toNat_one (hWidth : 0 < w) : (1 : BitVec w).toNat = 1 := by
  simp [Nat.mod_eq_of_lt (Nat.one_lt_two_pow (Nat.pos_iff_ne_zero.mp hWidth))]

/-- The successor of a word which does not wrap. -/
theorem toNat_succ (hWidth : 0 < w) {g : BitVec w} (hNoWrap : g + 1 ≠ 0) :
    (g + 1).toNat = g.toNat + 1 := by
  rw [BitVec.toNat_add, toNat_one hWidth, Nat.mod_eq_of_lt]
  refine Nat.lt_of_le_of_ne g.isLt fun hMax => hNoWrap ?_
  apply BitVec.eq_of_toNat_eq
  rw [BitVec.toNat_add, toNat_one hWidth, hMax]
  simp

theorem current_empty (hWidth : 0 < w) (values : ℕ → V) :
    (empty values : Stamped w V).Current := by
  refine ⟨?_, fun k => by simp [empty]⟩
  rw [empty, toNat_one hWidth]
  exact Nat.one_pos

theorem Current.setActive (hCurrent : t.Current) (k : ℕ) : (t.setActive k).Current := by
  refine ⟨hCurrent.1, fun j => ?_⟩
  simp only [Stamped.setActive]
  by_cases hEq : j = k
  · exact Nat.le_of_eq (by rw [hEq, Function.update_self])
  · rw [Function.update_of_ne hEq]
    exact hCurrent.2 j

theorem Current.setDone (hCurrent : t.Current) (k : ℕ) (v : V) : (t.setDone k v).Current :=
  hCurrent

theorem Current.setClean (hCurrent : t.Current) (k : ℕ) : (t.setClean k).Current :=
  hCurrent

/-- Advancing keeps the stamps behind the generation, also across the wrap. -/
theorem Current.nextGeneration (hWidth : 0 < w) (hCurrent : t.Current) :
    t.nextGeneration.Current := by
  unfold Stamped.nextGeneration
  split
  case isTrue =>
    refine ⟨?_, fun k => by simp⟩
    rw [toNat_one hWidth]
    exact Nat.one_pos
  case isFalse hNoWrap =>
    refine ⟨?_, fun k => ?_⟩
    · rw [toNat_succ hWidth hNoWrap]
      exact Nat.succ_pos _
    · rw [toNat_succ hWidth hNoWrap]
      exact Nat.le_succ_of_le (hCurrent.2 k)

/-- A new generation starts with clean slots. -/
theorem slot_nextGeneration (hWidth : 0 < w) (hCurrent : t.Current) (k : ℕ) :
    t.nextGeneration.slot k = .clean := by
  have hStale : t.nextGeneration.stamps k ≠ t.nextGeneration.generation := by
    unfold Stamped.nextGeneration
    split
    case isTrue =>
      intro hEq
      have hNat := congrArg BitVec.toNat hEq
      rw [toNat_one hWidth] at hNat
      simp at hNat
    case isFalse hNoWrap =>
      intro hEq
      have hLe := hCurrent.2 k
      have hNat := congrArg BitVec.toNat hEq
      rw [toNat_succ hWidth hNoWrap] at hNat
      dsimp only at hNat
      omega
  rw [slot, if_neg hStale]

@[simp]
theorem slot_setActive (k j : ℕ) :
    (t.setActive k).slot j = if j = k then .active else t.slot j := by
  unfold slot setActive
  by_cases hEq : j = k
  · subst hEq
    simp
  · simp [hEq]

/-- Finishing an active slot of the current generation. -/
theorem slot_setDone {k : ℕ} (hActive : t.slot k = .active) (v : V) (j : ℕ) :
    (t.setDone k v).slot j = if j = k then .done v else t.slot j := by
  unfold slot setDone at *
  by_cases hEq : j = k
  · subst hEq
    have hStamp : t.stamps j = t.generation := by
      by_contra hStale
      rw [if_neg hStale] at hActive
      cases hActive
    simp [hStamp]
  · simp [hEq]

@[simp]
theorem slot_setClean (k j : ℕ) :
    (t.setClean k).slot j = if j = k then .clean else t.slot j := by
  unfold slot setClean
  by_cases hEq : j = k
  · subst hEq
    simp
  · simp [hEq]

end Stamped

end Library.Memo
