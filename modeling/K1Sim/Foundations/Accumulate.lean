import Mathlib.Algebra.Order.BigOperators.Group.List
import Mathlib.Algebra.Order.Field.Basic
import Mathlib.Algebra.BigOperators.Ring.List

/-!
# Foundations/Accumulate — sums kept by a fold, and weighted means

A reading of the state to which every step adds is, after a fold, the sum of what the steps added
(`foldl_accumulate`); the mean of what positive weights are put on stays within its bounds
(`weightedMean_mem_Icc`).
-/

namespace Foundations

theorem sum_filter {ε M : Type*} [AddCommMonoid M] (counts : ε → Bool) (amount : ε → M)
    (l : List ε) : ((l.filter counts).map amount).sum
      = (l.map fun e => if counts e then amount e else 0).sum := by
  rw [List.sum_map_ite, List.sum_map_zero, add_zero]
  simp only [Bool.decide_eq_true]

/-- **A reading that some of the steps add to** is their sum after a fold. -/
theorem foldl_accumulate {σ ε M : Type*} [AddCommMonoid M] {step : σ → ε → σ} (read : σ → M)
    {counts : ε → Bool} {amount : ε → M}
    (hstep : ∀ s e, read (step s e) = read s + if counts e then amount e else 0) (l : List ε)
    (s : σ) : read (l.foldl step s) = read s + ((l.filter counts).map amount).sum := by
  rw [sum_filter]
  induction l generalizing s with
  | nil => exact (add_zero _).symm
  | cons e l ih => rw [List.foldl_cons, ih, hstep, List.map_cons, List.sum_cons, add_assoc]

/-- **Counting less of what is positive** makes a smaller sum. -/
theorem sum_filter_lt {ε M : Type*} [AddCommGroup M] [LinearOrder M] [IsOrderedAddMonoid M]
    {some all : ε → Bool} {amount : ε → M} {l : List ε} (hsub : ∀ e, some e → all e)
    (hpos : ∀ e ∈ l, all e → 0 < amount e) (hmissed : ∃ e ∈ l, all e ∧ ¬ some e) :
    ((l.filter some).map amount).sum < ((l.filter all).map amount).sum := by
  rw [sum_filter, sum_filter]
  refine List.sum_lt_sum _ _ (fun e he => ?_) ?_
  · by_cases hsome : some e
    · rw [if_pos hsome, if_pos (hsub e hsome)]
    · rw [if_neg hsome]
      by_cases hall : all e
      · rw [if_pos hall]
        exact (hpos e he hall).le
      · rw [if_neg hall]
  · obtain ⟨e, he, hall, hsome⟩ := hmissed
    refine ⟨e, he, ?_⟩
    rw [if_neg hsome, if_pos hall]
    exact hpos e he hall

section WeightedMean

variable {ι K : Type*} [Field K]

/-- The mean of `x` over a list, weighted by `w`. -/
def weightedMean (w x : ι → K) (l : List ι) : K :=
  (l.map fun i => w i * x i).sum / (l.map w).sum

variable [LinearOrder K] [IsStrictOrderedRing K] {w x : ι → K} {l : List ι}

theorem sum_weights_pos (hl : l ≠ []) (hw : ∀ i ∈ l, 0 < w i) : 0 < (l.map w).sum := by
  refine List.sum_pos _ ?_ (mt List.map_eq_nil_iff.mp hl)
  rintro _ h
  obtain ⟨i, hi, rfl⟩ := List.mem_map.mp h
  exact hw i hi

/-- **A weighted mean lies within the bounds of what it is the mean of.** -/
theorem weightedMean_mem_Icc (hl : l ≠ []) (hw : ∀ i ∈ l, 0 < w i) {lo hi : K}
    (hx : ∀ i ∈ l, x i ∈ Set.Icc lo hi) : weightedMean w x l ∈ Set.Icc lo hi := by
  have hpos := sum_weights_pos hl hw
  have hlow : (l.map w).sum * lo ≤ (l.map fun i => w i * x i).sum := by
    rw [← List.sum_map_mul_right]
    exact List.sum_le_sum fun i hi => mul_le_mul_of_nonneg_left (hx i hi).1 (hw i hi).le
  have hhigh : (l.map fun i => w i * x i).sum ≤ (l.map w).sum * hi := by
    rw [← List.sum_map_mul_right]
    exact List.sum_le_sum fun i hi => mul_le_mul_of_nonneg_left (hx i hi).2 (hw i hi).le
  exact ⟨(le_div_iff₀' hpos).mpr hlow, (div_le_iff₀' hpos).mpr hhigh⟩

end WeightedMean

end Foundations
