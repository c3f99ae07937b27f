import Mathlib.Algebra.Order.Field.Basic
import Mathlib.Data.List.Basic
import Mathlib.Tactic.Linarith

/-! The play operator: a state which its input drags along once it is a radius away. -/
namespace Library.Play

variable {K : Type*} [Field K] [LinearOrder K] [IsStrictOrderedRing K]

def play (radius x y : K) : K :=
  if radius < x - y then x - radius else if radius < y - x then x + radius else y

variable {radius x y : K}

/-- The state ends within the radius of its input. -/
theorem abs_sub_play_le (hRadius : 0 ≤ radius) (x y : K) : |x - play radius x y| ≤ radius := by
  unfold play
  split_ifs with hUp hDown
  · rw [sub_sub_cancel, abs_of_nonneg hRadius]
  · rw [sub_add_cancel_left, abs_neg, abs_of_nonneg hRadius]
  · rw [abs_le]
    constructor <;> linarith

/-- A value lies between two others, in either order. -/
def Between (first value last : K) : Prop :=
  first ≤ value ∧ value ≤ last ∨ last ≤ value ∧ value ≤ first

/-- An input on the way from where the state is held to the next one makes no difference after
the next one. -/
theorem play_play {held next : K} (hHeld : |held - y| ≤ radius) (hBetween : Between held x next) :
    play radius next (play radius x y) = play radius next y := by
  rw [abs_le] at hHeld
  unfold play
  rcases hBetween with ⟨hFirst, hLast⟩ | ⟨hFirst, hLast⟩ <;> split_ifs <;> linarith

/-- On its way the state lies between where it was and where it ends. -/
theorem play_between {held next : K} (hHeld : |held - y| ≤ radius)
    (hBetween : Between held x next) :
    Between y (play radius x y) (play radius next y) := by
  rw [abs_le] at hHeld
  unfold play Between
  rcases hBetween with ⟨hFirst, hLast⟩ | ⟨hFirst, hLast⟩
  · left
    constructor <;> split_ifs <;> linarith
  · right
    constructor <;> split_ifs <;> linarith

/-- A passage from one value to another is monotone, rising or falling. -/
def Passage (first : K) (passage : List K) (last : K) : Prop :=
  (first :: passage ++ [last]).Pairwise (· ≤ ·) ∨ (first :: passage ++ [last]).Pairwise (· ≥ ·)

omit [Field K] [IsStrictOrderedRing K] in
/-- The next value of a monotone passage lies on the way, and the passage goes on from it. -/
theorem Passage.next {first value last : K} {passage : List K}
    (hPassage : Passage first (value :: passage) last) :
    Between first value last ∧ Passage value passage last := by
  rcases hPassage with hRising | hFalling
  · obtain ⟨hFirst, hRest⟩ := List.pairwise_cons.mp hRising
    obtain ⟨hValue, -⟩ := List.pairwise_cons.mp hRest
    exact ⟨.inl ⟨hFirst _ List.mem_cons_self, hValue _ (by simp)⟩, .inl hRest⟩
  · obtain ⟨hFirst, hRest⟩ := List.pairwise_cons.mp hFalling
    obtain ⟨hValue, -⟩ := List.pairwise_cons.mp hRest
    exact ⟨.inr ⟨hValue _ (by simp), hFirst _ List.mem_cons_self⟩, .inr hRest⟩

end Library.Play
