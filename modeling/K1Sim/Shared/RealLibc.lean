import K1Sim.Foundations.Numerals
import K1Sim.Shared.Libc
import Mathlib.Analysis.SpecialFunctions.Complex.Arg
import Mathlib.Analysis.SpecialFunctions.Trigonometric.Inverse

/-!
# Shared/RealLibc — the C library over the reals

In exact arithmetic the functions of `<cmath>` are the real functions of the same names, and the
cast to `float` rounds nothing.
-/

namespace K1Sim

/-- The nearest integer of a real, ties to even. -/
noncomputable def roundEven (x : ℝ) : ℤ :=
  if x - ⌊x⌋ < 1 / 2 then ⌊x⌋
  else if 1 / 2 < x - ⌊x⌋ then ⌊x⌋ + 1
  else if ⌊x⌋ % 2 = 0 then ⌊x⌋ else ⌊x⌋ + 1

noncomputable instance : Libc ℝ where
  sqrt := Real.sqrt
  acos := Real.arccos
  cos := Real.cos
  sin := Real.sin
  exp := Real.exp
  atan2 y x := Complex.arg ⟨x, y⟩
  remainder x y := x - roundEven (x / y) * y
  pi := Real.pi
  toFloat x := x
  fixed3 x :=
    (if x < 0 then "-" else "") ++ Libc.fixed3 ((roundEven (|x| * 1000) : ℚ) / 1000)

theorem circular_real : Libc.Circular ℝ where
  cos_zero := Real.cos_zero
  sin_zero := Real.sin_zero
  normSq_eq_one a := by
    have h := Real.cos_sq_add_sin_sq a
    rwa [sq, sq] at h

/-- **The remainder differs by whole multiples.** -/
theorem exists_remainder_eq (x y : ℝ) : ∃ k : ℤ, Libc.remainder x y = x - k * y :=
  ⟨_, rfl⟩

theorem remainder_zero (y : ℝ) : Libc.remainder (0 : ℝ) y = 0 := by
  have hround : roundEven (0 / y) = 0 := by
    rw [zero_div, roundEven, Int.floor_zero, Int.cast_zero, sub_zero]
    exact if_pos (by norm_num)
  change (0 : ℝ) - roundEven (0 / y) * y = 0
  rw [hround, Int.cast_zero, zero_mul, sub_zero]

end K1Sim
