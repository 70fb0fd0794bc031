import Mathlib.Algebra.Order.Floor.Ring

/-!
# Foundations/StaticCast — numbers made integers of a width

An integer wraps into the width and a fraction is cut off toward zero.
-/

namespace Foundations

/-- An integer that `w` bits hold, in two's complement. -/
def InWidth (w : ℕ) (n : ℤ) : Prop := -2 ^ w ≤ n * 2 ∧ n * 2 < 2 ^ w

instance (w : ℕ) (n : ℤ) : Decidable (InWidth w n) := inferInstanceAs (Decidable (_ ∧ _))

/-- **An integer wraps to those it differs from by multiples of the modulus.** -/
theorem bmod_two_pow_eq_iff {w : ℕ} {n k : ℤ} (hk : InWidth w k) :
    n.bmod (2 ^ w) = k ↔ (2 ^ w : ℤ) ∣ n - k := by
  have hcast : ((2 ^ w : ℕ) : ℤ) = 2 ^ w := by norm_cast
  have hself : k.bmod (2 ^ w) = k :=
    Int.bmod_eq_of_le_mul_two (by rw [hcast]; exact hk.1) (by rw [hcast]; exact hk.2)
  rw [← hcast]
  constructor
  · intro h
    exact Int.dvd_self_sub_of_bmod_eq h
  · intro h
    calc n.bmod (2 ^ w)
        = k.bmod (2 ^ w) := Int.bmod_eq_bmod_iff_bmod_sub_eq_zero.mpr (Int.bmod_eq_zero_of_dvd h)
      _ = k := hself

section Truncate

variable {K : Type*} [Ring K] [LinearOrder K] [FloorRing K]

/-- The number without its fraction. -/
def truncate (x : K) : ℤ := if 0 ≤ x then ⌊x⌋ else ⌈x⌉

theorem truncate_intCast [IsStrictOrderedRing K] (n : ℤ) : truncate (n : K) = n := by
  rw [truncate, Int.floor_intCast, Int.ceil_intCast, ite_self]

end Truncate

end Foundations
