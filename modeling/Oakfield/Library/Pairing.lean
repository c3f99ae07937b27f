import Mathlib.Data.List.Nodup
import Mathlib.Logic.Function.Basic
import Mathlib.Order.MinMax

/-! Loops which combine the two values of every pair of positions, in place, when the
smaller one of the pair is visited. -/
namespace Library.Pairing

variable {ι V : Type} [LinearOrder ι]

/-- How the values of a pair are combined: `settle` at a position which is its own
partner, else `join` at the smaller position and its `mirror` at the larger one. -/
structure Combination (V : Type) where
  settle : V → V
  join : V → V → V
  mirror : V → V

/-- One visit. Nothing happens at the larger position of a pair. -/
def visit (partner : ι → ι) (c : Combination V) (data : ι → V) (i : ι) : ι → V :=
  if partner i = i then Function.update data i (c.settle (data i))
  else if i < partner i then
    Function.update (Function.update data i (c.join (data i) (data (partner i)))) (partner i)
      (c.mirror (c.join (data i) (data (partner i))))
  else data

/-- The value a position has once its pair has been combined. -/
def combined (partner : ι → ι) (c : Combination V) (data : ι → V) (i : ι) : V :=
  if partner i = i then c.settle (data i)
  else if i < partner i then c.join (data i) (data (partner i))
  else c.mirror (c.join (data (partner i)) (data i))

/-- Pairs within a set of positions. -/
def PairsOn (partner : ι → ι) (positions : Set ι) : Prop :=
  ∀ i ∈ positions, partner i ∈ positions ∧ partner (partner i) = i

variable {partner : ι → ι} {c : Combination V} {positions : Set ι}

theorem visit_outside (hPairs : PairsOn partner positions) {data : ι → V} {i j : ι}
    (hI : i ∈ positions) (hJ : j ∉ positions) : visit partner c data i j = data j := by
  have hNe : j ≠ i := fun hEq => hJ (hEq ▸ hI)
  have hNePartner : j ≠ partner i := fun hEq => hJ (hEq ▸ (hPairs i hI).1)
  unfold visit
  split_ifs with hSelf hLess
  · rw [Function.update_of_ne hNe]
  · rw [Function.update_of_ne hNePartner, Function.update_of_ne hNe]
  · rfl

/-- The positions whose pair has a given smaller position. -/
theorem min_partner_eq_iff (hPairs : PairsOn partner positions) {i j : ι} (hI : i ∈ positions)
    (hJ : j ∈ positions) :
    min j (partner j) = i ↔ i ≤ partner i ∧ (j = i ∨ j = partner i) := by
  constructor
  · intro hMin
    rcases min_choice j (partner j) with hLeft | hRight
    · obtain rfl : j = i := hLeft.symm.trans hMin
      exact ⟨min_eq_left_iff.mp hLeft, .inl rfl⟩
    · have hPartner : partner j = i := hRight.symm.trans hMin
      have hBack : j = partner i := (hPairs j hJ).2.symm.trans (congrArg partner hPartner)
      exact ⟨hBack ▸ hPartner ▸ min_eq_right_iff.mp hRight, .inr hBack⟩
  · rintro ⟨hLe, rfl | rfl⟩
    · exact min_eq_left hLe
    · rw [(hPairs i hI).2, min_eq_right hLe]

/-- A visit combines the pair whose smaller position it is at, and no other one. -/
theorem visit_apply (hPairs : PairsOn partner positions) {data : ι → V} {i j : ι}
    (hI : i ∈ positions) (hJ : j ∈ positions) :
    visit partner c data i j =
      if min j (partner j) = i then combined partner c data j else data j := by
  rw [if_congr (min_partner_eq_iff hPairs hI hJ) rfl rfl]
  unfold visit combined
  by_cases hSelf : partner i = i
  · rw [if_pos hSelf]
    by_cases hEq : j = i
    · subst hEq
      rw [Function.update_self, if_pos ⟨hSelf.ge, .inl rfl⟩, if_pos hSelf]
    · rw [Function.update_of_ne hEq, if_neg]
      rintro ⟨-, hLeft | hRight⟩
      · exact hEq hLeft
      · exact hEq (hRight.trans hSelf)
  · rw [if_neg hSelf]
    by_cases hLess : i < partner i
    · rw [if_pos hLess]
      by_cases hRight : j = partner i
      · subst hRight
        rw [Function.update_self, (hPairs i hI).2, if_pos ⟨hLess.le, .inr rfl⟩,
          if_neg (Ne.symm hSelf), if_neg hLess.not_gt]
      · rw [Function.update_of_ne hRight]
        by_cases hLeft : j = i
        · subst hLeft
          rw [Function.update_self, if_pos ⟨hLess.le, .inl rfl⟩, if_neg hSelf, if_pos hLess]
        · rw [Function.update_of_ne hLeft, if_neg]
          rintro ⟨-, hEq | hEq⟩
          · exact hLeft hEq
          · exact hRight hEq
    · rw [if_neg hLess, if_neg]
      rintro ⟨hLe, -⟩
      exact hLess (lt_of_le_of_ne hLe (Ne.symm hSelf))

theorem min_partner (hPairs : PairsOn partner positions) {i : ι} (hI : i ∈ positions) :
    min (partner i) (partner (partner i)) = min i (partner i) := by
  rw [(hPairs i hI).2, min_comm]

/-- A loop which visits no position twice combines the pairs whose smaller position it
visits. -/
theorem foldl_visit_apply (hPairs : PairsOn partner positions) {items : List ι}
    (hNodup : items.Nodup) (hItems : ∀ i ∈ items, i ∈ positions) (data : ι → V) {j : ι}
    (hJ : j ∈ positions) :
    items.foldl (visit partner c) data j =
      if min j (partner j) ∈ items then combined partner c data j else data j := by
  induction items generalizing data with
  | nil => rfl
  | cons i items ih =>
      have hI : i ∈ positions := hItems i List.mem_cons_self
      obtain ⟨hNew, hRest⟩ := List.nodup_cons.mp hNodup
      rw [List.foldl_cons, ih hRest (fun k hK => hItems k (List.mem_cons_of_mem _ hK))]
      by_cases hHere : min j (partner j) = i
      · rw [if_neg (hHere ▸ hNew), visit_apply hPairs hI hJ, if_pos hHere,
          if_pos (hHere ▸ List.mem_cons_self)]
      · have hSame : visit partner c data i j = data j := by
          rw [visit_apply hPairs hI hJ, if_neg hHere]
        have hSamePartner : visit partner c data i (partner j) = data (partner j) := by
          rw [visit_apply hPairs hI (hPairs j hJ).1, min_partner hPairs hJ, if_neg hHere]
        have hMem : min j (partner j) ∈ i :: items ↔ min j (partner j) ∈ items := by
          rw [List.mem_cons, or_iff_right hHere]
        simp only [hMem, combined, hSame, hSamePartner]

theorem foldl_visit_outside (hPairs : PairsOn partner positions) {items : List ι}
    (hItems : ∀ i ∈ items, i ∈ positions) (data : ι → V) {j : ι} (hJ : j ∉ positions) :
    items.foldl (visit partner c) data j = data j := by
  induction items generalizing data with
  | nil => rfl
  | cons i items ih =>
      rw [List.foldl_cons, ih (fun k hK => hItems k (List.mem_cons_of_mem _ hK)),
        visit_outside hPairs (hItems i List.mem_cons_self) hJ]

end Library.Pairing
