import K1Sim.Foundations.Heading
import K1Sim.Shared.HeadPose
import K1Sim.Shared.RealLibc

/-!
# Shared/Rotation — MuJoCo's quaternions as rotations

`mju_mulQuat` is the product of quaternions and `mju_rotVecQuat` the turn of a vector by a unit
quaternion, so that what the library of rotations says carries over.
-/

namespace K1Sim

open Foundations Quaternion

/-- The quaternion of the entries `w x y z`. -/
def Quat.toQuaternion (q : Quat ℝ) : ℍ[ℝ] := ⟨q.w, q.x, q.y, q.z⟩

section Entries

variable (q : Quat ℝ)

@[simp] theorem Quat.re_toQuaternion : q.toQuaternion.re = q.w := rfl

@[simp] theorem Quat.imI_toQuaternion : q.toQuaternion.imI = q.x := rfl

@[simp] theorem Quat.imJ_toQuaternion : q.toQuaternion.imJ = q.y := rfl

@[simp] theorem Quat.imK_toQuaternion : q.toQuaternion.imK = q.z := rfl

end Entries

/-- A three-vector as a quaternion without real part. -/
def Vec3.toQuaternion (v : Vec3 ℝ) : ℍ[ℝ] := vector v.x v.y v.z

theorem Quat.toQuaternion_injective : Function.Injective Quat.toQuaternion := by
  rintro ⟨w, x, y, z⟩ ⟨w', x', y', z'⟩ h
  obtain ⟨rfl, rfl, rfl, rfl⟩ := QuaternionAlgebra.mk.inj h
  rfl

theorem Vec3.toQuaternion_injective : Function.Injective Vec3.toQuaternion := by
  rintro ⟨x, y, z⟩ ⟨x', y', z'⟩ h
  obtain ⟨-, rfl, rfl, rfl⟩ := QuaternionAlgebra.mk.inj h
  rfl

theorem normSq_toQuaternion (q : Quat ℝ) : normSq q.toQuaternion = q.normSq := by
  rw [normSq_def', Quat.normSq]
  change q.w ^ 2 + q.x ^ 2 + q.y ^ 2 + q.z ^ 2 = _
  ring

theorem toQuaternion_mjuMulQuat (a b : Quat ℝ) :
    (mjuMulQuat a b).toQuaternion = a.toQuaternion * b.toQuaternion := by
  refine Quaternion.ext _ _ ?_ ?_ ?_ ?_
  · rw [re_mul]
    rfl
  · rw [imI_mul]
    rfl
  · rw [imJ_mul]
    rfl
  · rw [imK_mul]
    rfl

/-- **Rotating a vector is turning it.** -/
theorem toQuaternion_mjuRotVecQuat {q : Quat ℝ} (hunit : q.normSq = 1) (v : Vec3 ℝ) :
    (mjuRotVecQuat v q).toQuaternion = turn q.toQuaternion v.toQuaternion := by
  have hscaled : (mjuRotVecQuat v q).toQuaternion
      = turn q.toQuaternion v.toQuaternion + ((1 - q.normSq : ℝ) : ℍ[ℝ]) * v.toQuaternion := by
    refine Quaternion.ext _ _ ?_ ?_ ?_ ?_
    all_goals
      simp [mjuRotVecQuat, turn, Vec3.cross, Vec3.toQuaternion, Quat.normSq]
      ring
  rw [hscaled, hunit, sub_self, coe_zero, zero_mul, add_zero]

/-! ## Spins about the vertical -/

theorem toQuaternion_mjuAxisAngle2Quat (a : ℝ) :
    (mjuAxisAngle2Quat ⟨0, 0, 1⟩ a).toQuaternion = spin a := by
  rw [mjuAxisAngle2Quat]
  split_ifs with hzero
  · rw [hzero, spin_zero]
    rfl
  · have hhalf : a * (1 / 2) = a / 2 := mul_one_div a 2
    rw [hhalf]
    exact Quaternion.ext _ _ rfl (zero_mul _) (zero_mul _) (one_mul _)

theorem normSq_mjuAxisAngle2Quat (a : ℝ) : (mjuAxisAngle2Quat ⟨0, 0, 1⟩ a).normSq = 1 := by
  rw [← normSq_toQuaternion, toQuaternion_mjuAxisAngle2Quat, normSq_spin]

theorem normSq_mjuMulQuat (a b : Quat ℝ) : (mjuMulQuat a b).normSq = a.normSq * b.normSq := by
  rw [← normSq_toQuaternion, toQuaternion_mjuMulQuat, map_mul, normSq_toQuaternion,
    normSq_toQuaternion]

/-! ## The yaw -/

namespace Quat

/-- The yaw of an orientation, as the simulator extracts it. -/
noncomputable def yaw (q : Quat ℝ) : ℝ :=
  Libc.atan2 (2 * (q.w * q.z + q.x * q.y)) (1 - 2 * (q.y * q.y + q.z * q.z))

/-- The body's x axis is along the world's z axis. -/
def Vertical (q : Quat ℝ) : Prop :=
  (mjuRotVecQuat ⟨1, 0, 0⟩ q).x = 0 ∧ (mjuRotVecQuat ⟨1, 0, 0⟩ q).y = 0

variable {q : Quat ℝ} (hunit : q.normSq = 1)

include hunit

theorem heading_toQuaternion : heading q.toQuaternion
    = ⟨(mjuRotVecQuat ⟨1, 0, 0⟩ q).x, (mjuRotVecQuat ⟨1, 0, 0⟩ q).y⟩ := by
  rw [heading]
  change horizontal (turn q.toQuaternion (Vec3.toQuaternion ⟨1, 0, 0⟩)) = _
  rw [← toQuaternion_mjuRotVecQuat hunit]
  rfl

/-- **The yaw is the angle of the heading.** -/
theorem yaw_eq_arg : q.yaw = (heading q.toQuaternion).arg := by
  have hx : (mjuRotVecQuat ⟨1, 0, 0⟩ q).x = 1 - 2 * (q.y * q.y + q.z * q.z) := by
    rw [mjuRotVecQuat]
    dsimp only [Vec3.cross]
    ring
  have hy : (mjuRotVecQuat ⟨1, 0, 0⟩ q).y = 2 * (q.w * q.z + q.x * q.y) := by
    rw [mjuRotVecQuat]
    dsimp only [Vec3.cross]
    ring
  rw [heading_toQuaternion hunit, hx, hy]
  rfl

theorem heading_ne_zero_iff : heading q.toQuaternion ≠ 0 ↔ ¬ q.Vertical := by
  rw [heading_toQuaternion hunit, ne_eq, Complex.ext_iff]
  rfl

/-- **Turned about the vertical, an orientation yaws by that angle**, up to whole turns. -/
theorem yaw_mjuMulQuat {s : Quat ℝ} {a : ℝ} (hs : s.toQuaternion = spin a) (h : ¬ q.Vertical) :
    ((mjuMulQuat s q).yaw : Real.Angle) = a + q.yaw := by
  have hs' : s.normSq = 1 := by
    rw [← normSq_toQuaternion, hs, normSq_spin]
  have hmul : (mjuMulQuat s q).normSq = 1 := by
    rw [normSq_mjuMulQuat, hs', hunit, one_mul]
  rw [yaw_eq_arg hunit, yaw_eq_arg hmul, toQuaternion_mjuMulQuat, hs,
    arg_heading_spin_mul ((heading_ne_zero_iff hunit).mpr h)]

end Quat

end K1Sim
