import Mathlib.Order.Defs.LinearOrder
import Mathlib.Order.Lattice

/-!
# Foundations/Clamp — clamping into an interval of a linear order
-/

namespace Foundations

variable {K : Type*} [LinearOrder K]

/-- The value moved to the nearer end of `[lo, hi]` when it lies outside. -/
def clamp (v lo hi : K) : K := if v < lo then lo else if hi < v then hi else v

theorem le_clamp {v lo hi : K} (h : lo ≤ hi) : lo ≤ clamp v lo hi := by
  rw [clamp]
  split_ifs with h₁ h₂
  · exact le_rfl
  · exact h
  · exact not_lt.mp h₁

theorem clamp_le {v lo hi : K} (h : lo ≤ hi) : clamp v lo hi ≤ hi := by
  rw [clamp]
  split_ifs with h₁ h₂
  · exact h
  · exact le_rfl
  · exact not_lt.mp h₂

theorem clamp_of_mem {v lo hi : K} (hlo : lo ≤ v) (hhi : v ≤ hi) : clamp v lo hi = v := by
  rw [clamp, if_neg hlo.not_gt, if_neg hhi.not_gt]

theorem clamp_eq_hi_iff {v lo hi : K} (h : lo < hi) : clamp v lo hi = hi ↔ hi ≤ v := by
  rw [clamp]
  split_ifs with h₁ h₂
  · exact ⟨fun he => absurd he h.ne, fun hv => absurd (h.trans_le hv) h₁.not_gt⟩
  · exact ⟨fun _ => h₂.le, fun _ => rfl⟩
  · exact ⟨fun he => he.ge, fun hv => le_antisymm (not_lt.mp h₂) hv⟩

end Foundations
