import K1Sim.Foundations.Numerals
import Mathlib.Analysis.SpecialFunctions.Complex.Arg
import Mathlib.Analysis.SpecialFunctions.Trigonometric.Inverse
import Mathlib.LinearAlgebra.Matrix.Adjugate
import Mathlib.LinearAlgebra.UnitaryGroup
import Mathlib.Tactic.LinearCombination

/-!
# Foundations/EulerAngles — a rotation as a roll, a pitch and a yaw

A rotation that does not put the first axis upright is a roll, then a pitch, then a yaw
(`rotZ_mul_rotY_mul_rotX`).  The angles are read off the first column and the last row; the other
four entries follow because a rotation is its own cofactor matrix (`transpose_eq_adjugate`).
-/

namespace Foundations

open Matrix

/-- The turn about the first axis. -/
noncomputable def rotX (a : ℝ) : Matrix (Fin 3) (Fin 3) ℝ :=
  !![1, 0, 0; 0, Real.cos a, -Real.sin a; 0, Real.sin a, Real.cos a]

/-- The turn about the second axis. -/
noncomputable def rotY (a : ℝ) : Matrix (Fin 3) (Fin 3) ℝ :=
  !![Real.cos a, 0, Real.sin a; 0, 1, 0; -Real.sin a, 0, Real.cos a]

/-- The turn about the third axis. -/
noncomputable def rotZ (a : ℝ) : Matrix (Fin 3) (Fin 3) ℝ :=
  !![Real.cos a, -Real.sin a, 0; Real.sin a, Real.cos a, 0; 0, 0, 1]

theorem rotZ_mul_rotY_mul_rotX_eq (a b c : ℝ) : rotZ c * rotY b * rotX a
    = !![Real.cos c * Real.cos b,
          Real.cos c * Real.sin b * Real.sin a - Real.sin c * Real.cos a,
          Real.cos c * Real.sin b * Real.cos a + Real.sin c * Real.sin a;
        Real.sin c * Real.cos b,
          Real.sin c * Real.sin b * Real.sin a + Real.cos c * Real.cos a,
          Real.sin c * Real.sin b * Real.cos a - Real.cos c * Real.sin a;
        -Real.sin b, Real.cos b * Real.sin a, Real.cos b * Real.cos a] := by
  ext i j
  fin_cases i <;> fin_cases j <;> simp [rotX, rotY, rotZ, Matrix.mul_apply, Fin.sum_univ_three] <;>
    ring

/-- The polar angle of a point at distance `c` from the origin. -/
theorem mul_cos_arg_mul_sin_arg {x y c : ℝ} (hc : 0 ≤ c) (h : x ^ 2 + y ^ 2 = c ^ 2) :
    c * Real.cos (Complex.arg ⟨x, y⟩) = x ∧ c * Real.sin (Complex.arg ⟨x, y⟩) = y := by
  have hnorm : ‖(⟨x, y⟩ : ℂ)‖ = c := by
    rw [Complex.norm_def, Complex.normSq_mk, ← sq, ← sq, h, Real.sqrt_sq hc]
  rw [← hnorm]
  exact ⟨Complex.norm_mul_cos_arg _, Complex.norm_mul_sin_arg _⟩

section Rotation

variable {R : Matrix (Fin 3) (Fin 3) ℝ} (hR : R ∈ specialOrthogonalGroup (Fin 3) ℝ)

include hR

/-- **A rotation is its own cofactor matrix.** -/
theorem transpose_eq_adjugate : Rᵀ = R.adjugate := by
  obtain ⟨horth, hdet⟩ := mem_specialOrthogonalGroup_iff.mp hR
  have hleft : Rᵀ * R = 1 := (mem_orthogonalGroup_iff' (Fin 3) ℝ).mp horth
  have hright : R * R.adjugate = 1 := by rw [mul_adjugate, hdet, one_smul]
  exact left_inv_eq_right_inv hleft hright

theorem column_mul_column (i j : Fin 3) :
    R 0 i * R 0 j + R 1 i * R 1 j + R 2 i * R 2 j = if i = j then 1 else 0 := by
  obtain ⟨horth, -⟩ := mem_specialOrthogonalGroup_iff.mp hR
  have hentry := congrFun (congrFun ((mem_orthogonalGroup_iff' (Fin 3) ℝ).mp horth) i) j
  rwa [mul_apply, Fin.sum_univ_three, one_apply] at hentry

theorem last_row_sq : R 2 0 ^ 2 + R 2 1 ^ 2 + R 2 2 ^ 2 = 1 := by
  obtain ⟨horth, -⟩ := mem_specialOrthogonalGroup_iff.mp hR
  have hentry := congrFun (congrFun ((mem_orthogonalGroup_iff (Fin 3) ℝ).mp horth) 2) 2
  rw [mul_apply, Fin.sum_univ_three, one_apply_eq] at hentry
  rw [sq, sq, sq]
  exact hentry

/-- The last row is the cross product of the other two. -/
theorem last_row_eq : R 2 1 = R 0 2 * R 1 0 - R 0 0 * R 1 2
    ∧ R 2 2 = R 0 0 * R 1 1 - R 0 1 * R 1 0 := by
  have hentry (i j : Fin 3) : R j i = R.adjugate i j :=
    congrFun (congrFun (transpose_eq_adjugate hR) i) j
  rw [hentry 1 2, hentry 2 2, adjugate_fin_three]
  exact ⟨by simp; ring, by simp⟩

/-- **Roll, pitch and yaw.**  A rotation that does not put the first axis upright turns by the
angles of its last row and first column. -/
theorem rotZ_mul_rotY_mul_rotX (hlevel : |R 2 0| < 1) :
    rotZ (Complex.arg ⟨R 0 0, R 1 0⟩) * rotY (Real.arcsin (-R 2 0))
      * rotX (Complex.arg ⟨R 2 2, R 2 1⟩) = R := by
  obtain ⟨hlow, hhigh⟩ := abs_lt.mp hlevel
  have hpos : 0 < 1 - R 2 0 ^ 2 := sub_pos.mpr ((sq_lt_one_iff_abs_lt_one _).mpr hlevel)
  have hsin : Real.sin (Real.arcsin (-R 2 0)) = -R 2 0 :=
    Real.sin_arcsin (neg_le_neg hhigh.le) (neg_le.mp hlow.le)
  have hcos : Real.cos (Real.arcsin (-R 2 0)) = √(1 - R 2 0 ^ 2) := by
    rw [Real.cos_arcsin, neg_sq]
  have hcpos : 0 < √(1 - R 2 0 ^ 2) := Real.sqrt_pos.mpr hpos
  have hcsq := Real.sq_sqrt hpos.le
  rw [rotZ_mul_rotY_mul_rotX_eq, hsin, hcos]
  generalize √(1 - R 2 0 ^ 2) = c at hcpos hcsq
  have hcolumn := column_mul_column hR
  have hnorm : R 0 0 ^ 2 + R 1 0 ^ 2 = c ^ 2 := by
    have hfirst := hcolumn 0 0
    rw [if_pos rfl] at hfirst
    rw [hcsq]
    linear_combination hfirst
  have hrow : R 2 2 ^ 2 + R 2 1 ^ 2 = c ^ 2 := by
    rw [hcsq]
    linear_combination last_row_sq hR
  obtain ⟨hyawCos, hyawSin⟩ := mul_cos_arg_mul_sin_arg hcpos.le hnorm
  obtain ⟨hrollCos, hrollSin⟩ := mul_cos_arg_mul_sin_arg hcpos.le hrow
  generalize Complex.arg ⟨R 0 0, R 1 0⟩ = yaw at hyawCos hyawSin
  generalize Complex.arg ⟨R 2 2, R 2 1⟩ = roll at hrollCos hrollSin
  obtain ⟨hlast₁, hlast₂⟩ := last_row_eq hR
  have hsecond : R 0 0 * R 0 1 + R 1 0 * R 1 1 + R 2 0 * R 2 1 = 0 := hcolumn 0 1
  have hthird : R 0 0 * R 0 2 + R 1 0 * R 1 2 + R 2 0 * R 2 2 = 0 := hcolumn 0 2
  -- times `c²`, an entry outside the first column and the last row is a polynomial in those two
  have hc : c ^ 2 ≠ 0 := pow_ne_zero 2 hcpos.ne'
  have h01 : Real.cos yaw * -R 2 0 * Real.sin roll - Real.sin yaw * Real.cos roll = R 0 1 := by
    refine mul_left_cancel₀ hc ?_
    linear_combination -R 2 0 * c * Real.sin roll * hyawCos - R 2 0 * R 0 0 * hrollSin
      - c * Real.cos roll * hyawSin - R 1 0 * hrollCos - R 0 0 * hsecond - R 1 0 * hlast₂
      + R 0 1 * hnorm
  have h02 : Real.cos yaw * -R 2 0 * Real.cos roll + Real.sin yaw * Real.sin roll = R 0 2 := by
    refine mul_left_cancel₀ hc ?_
    linear_combination -R 2 0 * c * Real.cos roll * hyawCos - R 2 0 * R 0 0 * hrollCos
      + c * Real.sin roll * hyawSin + R 1 0 * hrollSin - R 0 0 * hthird + R 1 0 * hlast₁
      + R 0 2 * hnorm
  have h11 : Real.sin yaw * -R 2 0 * Real.sin roll + Real.cos yaw * Real.cos roll = R 1 1 := by
    refine mul_left_cancel₀ hc ?_
    linear_combination -R 2 0 * c * Real.sin roll * hyawSin - R 2 0 * R 1 0 * hrollSin
      + c * Real.cos roll * hyawCos + R 0 0 * hrollCos - R 1 0 * hsecond + R 0 0 * hlast₂
      + R 1 1 * hnorm
  have h12 : Real.sin yaw * -R 2 0 * Real.cos roll - Real.cos yaw * Real.sin roll = R 1 2 := by
    refine mul_left_cancel₀ hc ?_
    linear_combination -R 2 0 * c * Real.cos roll * hyawSin - R 2 0 * R 1 0 * hrollCos
      - c * Real.sin roll * hyawCos - R 0 0 * hrollSin - R 1 0 * hthird - R 0 0 * hlast₁
      + R 1 2 * hnorm
  rw [h01, h02, h11, h12, mul_comm _ c, mul_comm _ c, hyawCos, hyawSin, hrollCos, hrollSin, neg_neg]
  exact (eta_fin_three R).symm

end Rotation

end Foundations
