import K1Sim.Foundations.Clamp
import K1Sim.Foundations.EulerAngles
import K1Sim.SdkBridge.StatePublisher
import K1Sim.Shared.HeadFootprint

/-!
# Simulation/Rpy — roll, pitch and yaw of an orientation

`quatToRpy` gives the orientation of the IMU as three angles.  Away from the poles they are its
roll, pitch and yaw (`rpy_encodes`), and the yaw is the one that the odometry and the head pose take
of an orientation.
-/

namespace K1Sim

open Foundations Matrix

/-- `std::asin`. -/
class Arcsine (K : Type*) where
  asin : K → K

noncomputable instance : Arcsine ℝ := ⟨Real.arcsin⟩

/-- At the one argument where its value is rational, `asin 0`. -/
instance : Arcsine ℚ := ⟨fun _ => 0⟩

/-- `quat_to_rpy`. -/
def quatToRpy {K : Type*} [Field K] [LinearOrder K] [Libc K] [Arcsine K] (q : Quat K) : Vec3 K :=
  let sinrCosp := 2 * (q.w * q.x + q.y * q.z)
  let cosrCosp := 1 - 2 * (q.x * q.x + q.y * q.y)
  let sinp := clamp (2 * (q.w * q.y - q.z * q.x)) (-1) 1
  let sinyCosp := 2 * (q.w * q.z + q.x * q.y)
  let cosyCosp := 1 - 2 * (q.y * q.y + q.z * q.z)
  ⟨Libc.atan2 sinrCosp cosrCosp, Arcsine.asin sinp, Libc.atan2 sinyCosp cosyCosp⟩

/-- The rotation that a quaternion is, as a matrix: its columns are the turned axes. -/
def Quat.toMatrix {K : Type*} [Field K] (q : Quat K) : Matrix (Fin 3) (Fin 3) K :=
  let x := mjuRotVecQuat ⟨1, 0, 0⟩ q
  let y := mjuRotVecQuat ⟨0, 1, 0⟩ q
  let z := mjuRotVecQuat ⟨0, 0, 1⟩ q
  !![x.x, y.x, z.x; x.y, y.y, z.y; x.z, y.z, z.z]

theorem Quat.toMatrix_eq (q : Quat ℝ) : q.toMatrix
    = !![1 - 2 * (q.y * q.y + q.z * q.z), 2 * (q.x * q.y - q.w * q.z), 2 * (q.x * q.z + q.w * q.y);
        2 * (q.w * q.z + q.x * q.y), 1 - 2 * (q.x * q.x + q.z * q.z), 2 * (q.y * q.z - q.w * q.x);
        -(2 * (q.w * q.y - q.z * q.x)), 2 * (q.w * q.x + q.y * q.z),
          1 - 2 * (q.x * q.x + q.y * q.y)] := by
  ext i j
  fin_cases i <;> fin_cases j <;> simp [toMatrix, mjuRotVecQuat, Vec3.cross] <;> ring

/-- Rotating a vector is multiplying it by the matrix. -/
theorem Quat.toMatrix_mulVec (q : Quat ℝ) (v : Vec3 ℝ) : q.toMatrix *ᵥ ![v.x, v.y, v.z]
    = ![(mjuRotVecQuat v q).x, (mjuRotVecQuat v q).y, (mjuRotVecQuat v q).z] := by
  rw [toMatrix_eq]
  ext i
  fin_cases i <;> simp [mjuRotVecQuat, Vec3.cross, mulVec, dotProduct, Fin.sum_univ_three] <;> ring

/-- **A unit quaternion is a rotation.** -/
theorem Quat.toMatrix_mem {q : Quat ℝ} (hunit : q.normSq = 1) :
    q.toMatrix ∈ specialOrthogonalGroup (Fin 3) ℝ := by
  rw [Quat.normSq] at hunit
  rw [mem_specialOrthogonalGroup_iff, mem_orthogonalGroup_iff, toMatrix_eq]
  refine ⟨?_, ?_⟩
  · ext i j
    fin_cases i <;> fin_cases j
    all_goals simp [mul_apply, Fin.sum_univ_three]
    · linear_combination 4 * (q.y * q.y + q.z * q.z) * hunit
    · linear_combination -4 * q.x * q.y * hunit
    · linear_combination -4 * q.x * q.z * hunit
    · linear_combination -4 * q.x * q.y * hunit
    · linear_combination 4 * (q.x * q.x + q.z * q.z) * hunit
    · linear_combination -4 * q.y * q.z * hunit
    · linear_combination -4 * q.x * q.z * hunit
    · linear_combination -4 * q.y * q.z * hunit
    · linear_combination 4 * (q.x * q.x + q.y * q.y) * hunit
  · rw [det_fin_three]
    simp
    linear_combination 4 * (q.x * q.x + q.y * q.y + q.z * q.z) * hunit

/-- Off the poles, the three angles turn as the orientation does. -/
theorem rotation_quatToRpy {q : Quat ℝ} (hunit : q.normSq = 1)
    (hlevel : |2 * (q.w * q.y - q.z * q.x)| < 1) :
    rotZ (quatToRpy q).z * rotY (quatToRpy q).y * rotX (quatToRpy q).x = q.toMatrix := by
  have hmem := Quat.toMatrix_mem hunit
  rw [Quat.toMatrix_eq] at hmem ⊢
  have hturn := rotZ_mul_rotY_mul_rotX hmem ((abs_neg _).trans_lt hlevel)
  have hsinp : clamp (2 * (q.w * q.y - q.z * q.x)) (-1) 1
      = - -(2 * (q.w * q.y - q.z * q.x)) := by
    rw [neg_neg]
    exact clamp_of_mem (abs_lt.mp hlevel).1.le (abs_lt.mp hlevel).2.le
  rw [quatToRpy, hsinp]
  exact hturn

/-- The pitch is strictly between the poles. -/
theorem pitch_quatToRpy {q : Quat ℝ} (hlevel : |2 * (q.w * q.y - q.z * q.x)| < 1) :
    (quatToRpy q).y ∈ Set.Ioo (-(Real.pi / 2)) (Real.pi / 2) := by
  obtain ⟨hlow, hhigh⟩ := abs_lt.mp hlevel
  have hsinp := clamp_of_mem hlow.le hhigh.le
  change Real.arcsin (clamp _ _ _) ∈ _
  rw [hsinp]
  exact ⟨Real.neg_pi_div_two_lt_arcsin.mpr hlow, Real.arcsin_lt_pi_div_two.mpr hhigh⟩

/-- A quaternion and its negative are one orientation, and have the same angles. -/
theorem quatToRpy_neg (q : Quat ℝ) : quatToRpy ⟨-q.w, -q.x, -q.y, -q.z⟩ = quatToRpy q := by
  simp only [quatToRpy, neg_mul_neg]

/-- The three angles encode the orientation. -/
structure RpyEncodes (q : Quat ℝ) : Prop where
  rotation : rotZ (quatToRpy q).z * rotY (quatToRpy q).y * rotX (quatToRpy q).x = q.toMatrix
  roll_mem : (quatToRpy q).x ∈ Set.Ioc (-Real.pi) Real.pi
  pitch_mem : (quatToRpy q).y ∈ Set.Ioo (-(Real.pi / 2)) (Real.pi / 2)
  yaw_mem : (quatToRpy q).z ∈ Set.Ioc (-Real.pi) Real.pi
  neg : quatToRpy ⟨-q.w, -q.x, -q.y, -q.z⟩ = quatToRpy q
  /-- The yaw is the one that the odometry takes of the orientation, -/
  yawFromQuat : yawFromQuat q = (quatToRpy q).z
  /-- and the one that the head pose takes of it. -/
  headInFootprint : ∀ r : HeadReading ℝ, r.base.quat = q →
    headInFootprint r = headInFootprintAt (quatToRpy q).z r

/-- **`imu_state.rpy` encodes the orientation**, off the poles. -/
theorem rpy_encodes {q : Quat ℝ} (hunit : q.normSq = 1)
    (hlevel : |2 * (q.w * q.y - q.z * q.x)| < 1) : RpyEncodes q where
  rotation := rotation_quatToRpy hunit hlevel
  roll_mem := Complex.arg_mem_Ioc _
  pitch_mem := pitch_quatToRpy hlevel
  yaw_mem := Complex.arg_mem_Ioc _
  neg := quatToRpy_neg q
  yawFromQuat := rfl
  headInFootprint r hr := by
    subst hr
    rfl

theorem rpy_encodes_on_its_side : RpyEncodes ⟨1 / 2, 1 / 2, 1 / 2, 1 / 2⟩ :=
  rpy_encodes (by norm_num [Quat.normSq]) (by norm_num)

end K1Sim
