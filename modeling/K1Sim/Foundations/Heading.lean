import Mathlib.Algebra.Quaternion
import Mathlib.Analysis.SpecialFunctions.Complex.Arg
import Mathlib.Analysis.SpecialFunctions.Trigonometric.Angle
import Mathlib.Tactic.LinearCombination

/-!
# Foundations/Heading — quaternions as rotations, and the heading of an orientation

A unit quaternion turns vectors, the quaternions without real part.  The **heading** of an
orientation is the horizontal part of its forward axis, as a complex number: a spin about the
vertical multiplies it by a phase (`heading_spin_mul`), so its angle is that of the spin further
(`arg_heading_spin_mul`).
-/

namespace Foundations

open Quaternion

/-! ## Turning a vector -/

section Turn

variable {R : Type*} [CommRing R]

/-- The vector `v` turned by `q`. -/
def turn (q v : ℍ[R]) : ℍ[R] := q * v * star q

/-- The vector with these coordinates. -/
def vector (x y z : R) : ℍ[R] := ⟨0, x, y, z⟩

@[simp] theorem re_vector (x y z : R) : (vector x y z).re = 0 := rfl

@[simp] theorem imI_vector (x y z : R) : (vector x y z).imI = x := rfl

@[simp] theorem imJ_vector (x y z : R) : (vector x y z).imJ = y := rfl

@[simp] theorem imK_vector (x y z : R) : (vector x y z).imK = z := rfl

theorem turn_mul (p q v : ℍ[R]) : turn (p * q) v = turn p (turn q v) := by
  rw [turn, turn, turn, star_mul, mul_assoc, mul_assoc, mul_assoc, mul_assoc, mul_assoc]

theorem turn_neg (q v : ℍ[R]) : turn (-q) v = turn q v := by
  rw [turn, turn, star_neg, neg_mul, neg_mul_neg]

theorem turn_add (q u v : ℍ[R]) : turn q (u + v) = turn q u + turn q v := by
  rw [turn, mul_add, add_mul]
  rfl

theorem turn_sub (q u v : ℍ[R]) : turn q (u - v) = turn q u - turn q v := by
  rw [turn, mul_sub, sub_mul]
  rfl

theorem turn_one (v : ℍ[R]) : turn 1 v = v := by
  rw [turn, star_one, one_mul, mul_one]

section Coordinates

variable (q : ℍ[R]) (a b c : R)

theorem re_turn_vector : (turn q (vector a b c)).re = 0 := by
  simp [turn]
  ring

theorem imI_turn_vector : (turn q (vector a b c)).imI
    = a * (turn q (vector 1 0 0)).imI + b * (turn q (vector 0 1 0)).imI
      + c * (turn q (vector 0 0 1)).imI := by
  simp [turn]
  ring

theorem imJ_turn_vector : (turn q (vector a b c)).imJ
    = a * (turn q (vector 1 0 0)).imJ + b * (turn q (vector 0 1 0)).imJ
      + c * (turn q (vector 0 0 1)).imJ := by
  simp [turn]
  ring

theorem imK_turn_vector : (turn q (vector a b c)).imK
    = a * (turn q (vector 1 0 0)).imK + b * (turn q (vector 0 1 0)).imK
      + c * (turn q (vector 0 0 1)).imK := by
  simp [turn]
  ring

end Coordinates

section Unit

variable {q : ℍ[R]} (hunit : normSq q = 1)

include hunit

theorem self_mul_star_of_unit : q * star q = 1 := by
  rw [self_mul_star, hunit, coe_one]

theorem turn_turn_star (v : ℍ[R]) : turn q (turn (star q) v) = v := by
  rw [← turn_mul, self_mul_star_of_unit hunit, turn_one]

/-- **A unit quaternion keeps lengths.** -/
theorem normSq_turn (v : ℍ[R]) : normSq (turn q v) = normSq v := by
  rw [turn, map_mul, map_mul, normSq_star, hunit, one_mul, mul_one]

end Unit

end Turn

/-! ## Spins about the vertical -/

/-- The turn about the vertical by an angle. -/
noncomputable def spin (a : ℝ) : ℍ[ℝ] := ⟨Real.cos (a / 2), 0, 0, Real.sin (a / 2)⟩

@[simp] theorem re_spin (a : ℝ) : (spin a).re = Real.cos (a / 2) := rfl

@[simp] theorem imI_spin (a : ℝ) : (spin a).imI = 0 := rfl

@[simp] theorem imJ_spin (a : ℝ) : (spin a).imJ = 0 := rfl

@[simp] theorem imK_spin (a : ℝ) : (spin a).imK = Real.sin (a / 2) := rfl

theorem spin_zero : spin 0 = 1 := by
  refine Quaternion.ext _ _ ?_ rfl rfl ?_
  · rw [re_spin, zero_div, Real.cos_zero, re_one]
  · rw [imK_spin, zero_div, Real.sin_zero, imK_one]

theorem spin_add (a b : ℝ) : spin (a + b) = spin a * spin b := by
  refine Quaternion.ext _ _ ?_ ?_ ?_ ?_
  · rw [re_spin, add_div, Real.cos_add, re_mul]
    simp
  · rw [imI_mul]
    simp
  · rw [imJ_mul]
    simp
  · rw [imK_spin, add_div, Real.sin_add, imK_mul]
    simp
    ring

theorem star_spin (a : ℝ) : star (spin a) = spin (-a) := by
  refine Quaternion.ext _ _ ?_ ?_ ?_ ?_
  · rw [re_star, re_spin, re_spin, neg_div, Real.cos_neg]
  · rw [imI_star, imI_spin, imI_spin, neg_zero]
  · rw [imJ_star, imJ_spin, imJ_spin, neg_zero]
  · rw [imK_star, imK_spin, imK_spin, neg_div, Real.sin_neg]

theorem normSq_spin (a : ℝ) : normSq (spin a) = 1 := by
  have hcircle := Real.cos_sq_add_sin_sq (a / 2)
  rw [normSq_def']
  simp [hcircle]

/-- **One angle, two quaternions**: spins by angles that differ by whole turns agree up to sign. -/
theorem spin_eq_or_eq_neg {a b : ℝ} (h : (a : Real.Angle) = b) :
    spin a = spin b ∨ spin a = -spin b := by
  obtain ⟨k, hk⟩ := Real.Angle.angle_eq_iff_two_pi_dvd_sub.mp h
  have hhalf : a / 2 = b / 2 + k * Real.pi := by linear_combination hk / 2
  rcases Int.even_or_odd k with heven | hodd
  · left
    refine Quaternion.ext _ _ ?_ rfl rfl ?_
    · rw [re_spin, re_spin, hhalf, Real.cos_add_int_mul_pi, heven.neg_one_zpow, one_mul]
    · rw [imK_spin, imK_spin, hhalf, Real.sin_add_int_mul_pi, heven.neg_one_zpow, one_mul]
  · right
    refine Quaternion.ext _ _ ?_ neg_zero.symm neg_zero.symm ?_
    · rw [re_neg, re_spin, re_spin, hhalf, Real.cos_add_int_mul_pi, hodd.neg_one_zpow,
        neg_one_mul]
    · rw [imK_neg, imK_spin, imK_spin, hhalf, Real.sin_add_int_mul_pi, hodd.neg_one_zpow,
        neg_one_mul]

theorem cos_eq_half (a : ℝ) : Real.cos a = Real.cos (a / 2) ^ 2 - Real.sin (a / 2) ^ 2 := by
  rw [← Real.cos_two_mul', mul_div_cancel₀ a two_ne_zero]

theorem sin_eq_half (a : ℝ) : Real.sin a = 2 * Real.sin (a / 2) * Real.cos (a / 2) := by
  rw [← Real.sin_two_mul, mul_div_cancel₀ a two_ne_zero]

theorem imI_turn_spin (a : ℝ) (v : ℍ[ℝ]) :
    (turn (spin a) v).imI = Real.cos a * v.imI - Real.sin a * v.imJ := by
  rw [cos_eq_half a, sin_eq_half a]
  simp [turn]
  ring

theorem imJ_turn_spin (a : ℝ) (v : ℍ[ℝ]) :
    (turn (spin a) v).imJ = Real.sin a * v.imI + Real.cos a * v.imJ := by
  rw [cos_eq_half a, sin_eq_half a]
  simp [turn]
  ring

/-- **A spin keeps heights.** -/
theorem imK_turn_spin (a : ℝ) (v : ℍ[ℝ]) : (turn (spin a) v).imK = v.imK := by
  have hcircle := Real.cos_sq_add_sin_sq (a / 2)
  simp [turn]
  linear_combination v.imK * hcircle

theorem re_turn_spin (a : ℝ) (v : ℍ[ℝ]) : (turn (spin a) v).re = v.re := by
  have hcircle := Real.cos_sq_add_sin_sq (a / 2)
  simp [turn]
  linear_combination v.re * hcircle

/-- A spin keeps the vertical. -/
theorem turn_spin_upright (a c : ℝ) : turn (spin a) (vector 0 0 c) = vector 0 0 c := by
  refine Quaternion.ext _ _ (re_turn_spin a _) ?_ ?_ (imK_turn_spin a _)
  · rw [imI_turn_spin, imI_vector, imJ_vector, mul_zero, mul_zero, sub_zero]
  · rw [imJ_turn_spin, imI_vector, imJ_vector, mul_zero, mul_zero, add_zero]

/-! ## The heading -/

/-- The horizontal part of a vector. -/
def horizontal (v : ℍ[ℝ]) : ℂ := ⟨v.imI, v.imJ⟩

theorem horizontal_add (u v : ℍ[ℝ]) : horizontal (u + v) = horizontal u + horizontal v := rfl

/-- The phase of an angle. -/
theorem exp_mul_I_congr {a b : ℝ} (h : (a : Real.Angle) = b) :
    Complex.exp (a * Complex.I) = Complex.exp (b * Complex.I) := by
  have hcos : Real.cos a = Real.cos b := congrArg Real.Angle.cos h
  have hsin : Real.sin a = Real.sin b := congrArg Real.Angle.sin h
  refine Complex.ext ?_ ?_
  · rw [Complex.exp_ofReal_mul_I_re, Complex.exp_ofReal_mul_I_re, hcos]
  · rw [Complex.exp_ofReal_mul_I_im, Complex.exp_ofReal_mul_I_im, hsin]

theorem exp_mul_I_mul (a : ℝ) (z : ℂ) : Complex.exp (a * Complex.I) * z
    = ⟨Real.cos a * z.re - Real.sin a * z.im, Real.sin a * z.re + Real.cos a * z.im⟩ := by
  have hexp : Complex.exp (a * Complex.I) = ⟨Real.cos a, Real.sin a⟩ :=
    Complex.ext (Complex.exp_ofReal_mul_I_re a) (Complex.exp_ofReal_mul_I_im a)
  rw [hexp]
  exact Complex.ext (Complex.mul_re _ _) ((Complex.mul_im _ _).trans (add_comm _ _))

/-- **A spin turns the horizontal part by its angle.** -/
theorem horizontal_turn_spin (a : ℝ) (v : ℍ[ℝ]) :
    horizontal (turn (spin a) v) = Complex.exp (a * Complex.I) * horizontal v := by
  rw [exp_mul_I_mul]
  exact Complex.ext (imI_turn_spin a v) (imJ_turn_spin a v)

/-- The horizontal part of the forward axis of an orientation. -/
noncomputable def heading (q : ℍ[ℝ]) : ℂ := horizontal (turn q (vector 1 0 0))

theorem heading_spin_mul (a : ℝ) (q : ℍ[ℝ]) :
    heading (spin a * q) = Complex.exp (a * Complex.I) * heading q := by
  rw [heading, turn_mul, horizontal_turn_spin]
  rfl

/-- **Spinning an orientation turns its heading by that angle**, unless it points up or down. -/
theorem arg_heading_spin_mul {q : ℍ[ℝ]} (hq : heading q ≠ 0) (a : ℝ) :
    ((heading (spin a * q)).arg : Real.Angle) = a + (heading q).arg := by
  have harg : ((Complex.exp (a * Complex.I)).arg : Real.Angle) = a := by
    rw [Complex.exp_mul_I, ← Complex.ofReal_cos, ← Complex.ofReal_sin]
    exact Complex.arg_cos_add_sin_mul_I_coe_angle a
  rw [heading_spin_mul, Complex.arg_mul_coe_angle (Complex.exp_ne_zero _) hq, harg]

/-- **Spun back by the angle of its heading, an orientation heads along the first axis.** -/
theorem heading_spin_neg_arg_mul (q : ℍ[ℝ]) :
    heading (spin (-(heading q).arg) * q) = ‖heading q‖ := by
  rw [heading_spin_mul]
  nth_rewrite 2 [← Complex.norm_mul_exp_arg_mul_I (heading q)]
  rw [mul_left_comm, ← Complex.exp_add, Complex.ofReal_neg, neg_mul, neg_add_cancel,
    Complex.exp_zero, mul_one]

/-! ## Axes that a turn keeps -/

/-- Coordinates whose squares add to `1`, one of which is `1`. -/
theorem eq_zero_of_sq_add_sq {x y z : ℝ} (h : x ^ 2 + y ^ 2 + z ^ 2 = 1) (hx : x = 1) :
    y = 0 ∧ z = 0 := by
  have hsum : y ^ 2 + z ^ 2 = 0 := by
    rw [hx] at h
    linear_combination h
  obtain ⟨hy, hz⟩ := (add_eq_zero_iff_of_nonneg (sq_nonneg y) (sq_nonneg z)).mp hsum
  exact ⟨pow_eq_zero_iff two_ne_zero |>.mp hy, pow_eq_zero_iff two_ne_zero |>.mp hz⟩

section Axes

variable {q : ℍ[ℝ]} (hunit : normSq q = 1)

include hunit

theorem normSq_turn_vector (a b c : ℝ) : (turn q (vector a b c)).imI ^ 2
    + (turn q (vector a b c)).imJ ^ 2 + (turn q (vector a b c)).imK ^ 2
      = a ^ 2 + b ^ 2 + c ^ 2 := by
  have hnorm := normSq_turn hunit (vector a b c)
  rw [normSq_def', normSq_def'] at hnorm
  simpa [re_turn_vector] using hnorm

theorem turn_first_eq_iff :
    turn q (vector 1 0 0) = vector 1 0 0 ↔ (turn q (vector 1 0 0)).imI = 1 := by
  refine ⟨fun h => by rw [h, imI_vector], fun h => ?_⟩
  have hnorm := normSq_turn_vector hunit 1 0 0
  obtain ⟨hJ, hK⟩ := eq_zero_of_sq_add_sq (y := (turn q (vector 1 0 0)).imJ)
    (z := (turn q (vector 1 0 0)).imK) (by linear_combination hnorm) h
  exact Quaternion.ext _ _ (re_turn_vector q 1 0 0) h hJ hK

theorem turn_second_eq_iff :
    turn q (vector 0 1 0) = vector 0 1 0 ↔ (turn q (vector 0 1 0)).imJ = 1 := by
  refine ⟨fun h => by rw [h, imJ_vector], fun h => ?_⟩
  have hnorm := normSq_turn_vector hunit 0 1 0
  obtain ⟨hI, hK⟩ := eq_zero_of_sq_add_sq (y := (turn q (vector 0 1 0)).imI)
    (z := (turn q (vector 0 1 0)).imK) (by linear_combination hnorm) h
  exact Quaternion.ext _ _ (re_turn_vector q 0 1 0) hI h hK

theorem turn_third_eq_iff :
    turn q (vector 0 0 1) = vector 0 0 1 ↔ (turn q (vector 0 0 1)).imK = 1 := by
  refine ⟨fun h => by rw [h, imK_vector], fun h => ?_⟩
  have hnorm := normSq_turn_vector hunit 0 0 1
  obtain ⟨hI, hJ⟩ := eq_zero_of_sq_add_sq (y := (turn q (vector 0 0 1)).imI)
    (z := (turn q (vector 0 0 1)).imJ) (by linear_combination hnorm) h
  exact Quaternion.ext _ _ (re_turn_vector q 0 0 1) hI hJ h

/-- **A turn that heads along the first axis keeps the horizontal part of a horizontal vector
exactly when it keeps each axis the vector has a part along.** -/
theorem horizontal_turn_eq_iff (hheading : (turn q (vector 1 0 0)).imJ = 0) (a b : ℝ) :
    horizontal (turn q (vector a b 0)) = ⟨a, b⟩
      ↔ (a = 0 ∨ turn q (vector 1 0 0) = vector 1 0 0)
        ∧ (b = 0 ∨ turn q (vector 0 1 0) = vector 0 1 0) := by
  have hsecond : b * (turn q (vector 0 1 0)).imJ = b
      ↔ b = 0 ∨ turn q (vector 0 1 0) = vector 0 1 0 := by
    rw [mul_right_eq_self₀, or_comm, turn_second_eq_iff hunit]
  rw [Complex.ext_iff, ← hsecond, turn_first_eq_iff hunit, or_comm, ← mul_right_eq_self₀]
  change (turn q (vector a b 0)).imI = a ∧ (turn q (vector a b 0)).imJ = b ↔ _
  rw [imI_turn_vector, imJ_turn_vector, hheading, zero_mul, zero_mul, add_zero, add_zero, mul_zero,
    zero_add]
  refine and_congr_left fun hb => ?_
  -- where the second axis is kept or not needed, it adds nothing to the first coordinate
  have hzero : b * (turn q (vector 0 1 0)).imI = 0 := by
    rcases hsecond.mp hb with hnone | hkept
    · rw [hnone, zero_mul]
    · rw [hkept, imI_vector, mul_zero]
  rw [hzero, add_zero]

/-- **A turn keeps the height of an upright vector exactly when it keeps the vertical, or there is
nothing to keep.** -/
theorem imK_turn_upright_eq_iff (c : ℝ) :
    (turn q (vector 0 0 c)).imK = c ↔ c = 0 ∨ turn q (vector 0 0 1) = vector 0 0 1 := by
  rw [imK_turn_vector, zero_mul, zero_mul, zero_add, zero_add, mul_right_eq_self₀, or_comm,
    turn_third_eq_iff hunit]

end Axes

end Foundations
