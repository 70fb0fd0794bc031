import K1Sim.SdkBridge.StatePublisher
import K1Sim.Shared.Rotation

/-!
# SdkBridge/OdometryTopics — what the two odometry topics say of the pose

`rt/odometer_state` has the estimated pose; `rt/odom` turns the true orientation about the vertical
by the error of the heading, so that its yaw is the estimated one (`odometry_topics_agree`).
-/

namespace K1Sim

open Foundations Quaternion

/-! ## World and body vectors -/

section Body

variable {q : Quat ℝ} (hunit : q.normSq = 1) (v : Vec3 ℝ)

include hunit

theorem toQuaternion_worldToBody :
    (worldToBody q v).toQuaternion = turn (star q.toQuaternion) v.toQuaternion := by
  have hconj : worldToBody q v = mjuRotVecQuat v ⟨q.w, -q.x, -q.y, -q.z⟩ := by
    rw [worldToBody, mjuRotVecQuat, Vec3.mk.injEq]
    dsimp only [Vec3.cross]
    exact ⟨by ring, by ring, by ring⟩
  have hstar : (⟨q.w, -q.x, -q.y, -q.z⟩ : Quat ℝ).toQuaternion = star q.toQuaternion :=
    Quaternion.ext _ _ (re_star q.toQuaternion).symm rfl rfl rfl
  have hnorm : (⟨q.w, -q.x, -q.y, -q.z⟩ : Quat ℝ).normSq = 1 := by
    rw [← normSq_toQuaternion, hstar, normSq_star, normSq_toQuaternion, hunit]
  rw [hconj, toQuaternion_mjuRotVecQuat hnorm, hstar]

/-- **A world vector in the body frame, rotated by the orientation, is the world vector.** -/
theorem mjuRotVecQuat_worldToBody : mjuRotVecQuat (worldToBody q v) q = v := by
  refine Vec3.toQuaternion_injective ?_
  rw [toQuaternion_mjuRotVecQuat hunit, toQuaternion_worldToBody hunit, turn_turn_star]
  rwa [normSq_toQuaternion]

end Body

/-! ## The published orientation -/

section Orientation

variable (update : SimStateUpdate ℝ) (est : OdometryModel.Estimate ℝ)

/-- The error of the estimated heading. -/
noncomputable def headingError : ℝ :=
  Libc.remainder (est.yaw - yawFromQuat update.base.quat) (2 * Libc.pi)

/-- **The heading error is what the true heading lacks**, up to whole turns. -/
theorem coe_headingError :
    (headingError update est : Real.Angle) = est.yaw - yawFromQuat update.base.quat := by
  obtain ⟨k, hk⟩ := exists_remainder_eq (est.yaw - yawFromQuat update.base.quat) (2 * Real.pi)
  rw [← Real.Angle.coe_sub]
  refine Real.Angle.angle_eq_iff_two_pi_dvd_sub.mpr ⟨-k, ?_⟩
  change Libc.remainder _ (2 * Real.pi) - _ = _
  rw [hk]
  push_cast
  ring

/-- `half_dyaw` is half the angle of a turn about the vertical. -/
theorem toQuaternion_halfDyaw : (⟨Real.cos (1 / 2 * headingError update est), 0, 0,
    Real.sin (1 / 2 * headingError update est)⟩ : Quat ℝ).toQuaternion
      = spin (headingError update est) := by
  rw [one_div_mul_eq_div]
  rfl

theorem orientation_eq : (rosOdometer update est).orientation
    = mjuMulQuat ⟨Real.cos (1 / 2 * headingError update est), 0, 0,
      Real.sin (1 / 2 * headingError update est)⟩ update.base.quat := rfl

theorem toQuaternion_orientation : (rosOdometer update est).orientation.toQuaternion
    = spin (headingError update est) * update.base.quat.toQuaternion := by
  rw [orientation_eq, toQuaternion_mjuMulQuat, toQuaternion_halfDyaw]

variable {update} in
theorem normSq_orientation (hunit : update.base.quat.normSq = 1) :
    (rosOdometer update est).orientation.normSq = 1 := by
  rw [← normSq_toQuaternion, toQuaternion_orientation, map_mul, normSq_spin, normSq_toQuaternion,
    hunit, one_mul]

end Orientation

/-! ## One pose on two topics -/

/-- The two samples describe one pose, which is the true one turned about the vertical. -/
structure SamePose (base : BaseState ℝ) (odom : OdometerMsg ℝ) (ros : OdometryMsg ℝ) : Prop where
  x : ros.position.x = odom.x
  y : ros.position.y = odom.y
  yaw : ((yawFromQuat ros.orientation : ℝ) : Real.Angle) = (odom.theta : ℝ)
  about_vertical : ∃ c s : ℝ, c * c + s * s = 1
    ∧ ros.orientation = quatMul ⟨c, 0, 0, s⟩ base.quat
  unit : ros.orientation.normSq = 1
  tilt : worldToBody ros.orientation ⟨0, 0, 1⟩ = worldToBody base.quat ⟨0, 0, 1⟩

theorem rosOdometer_samePose {update : SimStateUpdate ℝ} (hunit : update.base.quat.normSq = 1)
    (hlevel : ¬ update.base.quat.Vertical) (est : OdometryModel.Estimate ℝ) :
    SamePose update.base (odometerState est) (rosOdometer update est) := by
  have hnorm := normSq_orientation est hunit
  refine ⟨rfl, rfl, ?_, ?_, hnorm, ?_⟩
  case refine_1 =>
    change ((rosOdometer update est).orientation.yaw : Real.Angle) = (est.yaw : ℝ)
    rw [orientation_eq, Quat.yaw_mjuMulQuat hunit (toQuaternion_halfDyaw update est) hlevel,
      coe_headingError]
    exact sub_add_cancel _ _
  case refine_2 =>
    refine ⟨_, _, ?_, rfl⟩
    exact circular_real.normSq_eq_one _
  case refine_3 =>
    refine Vec3.toQuaternion_injective ?_
    rw [toQuaternion_worldToBody hnorm, toQuaternion_worldToBody hunit,
      toQuaternion_orientation, star_mul, turn_mul, star_spin]
    exact congrArg _ (turn_spin_upright _ 1)

/-- The sample is the ground truth: the true pose, and a twist without error that is the true
velocities in the body frame, so that the orientation rotates it to the true velocities. -/
structure GroundTruth (base : BaseState ℝ) (ros : OdometryMsg ℝ) : Prop where
  position : ros.position = base.position
  orientation : ros.orientation = base.quat
  linear : ros.linear = worldToBody base.quat base.linVel
  angular : ros.angular = worldToBody base.quat base.angVel
  world : base.quat.normSq = 1 → mjuRotVecQuat ros.linear ros.orientation = base.linVel
    ∧ mjuRotVecQuat ros.angular ros.orientation = base.angVel
  covariance : ros.covariance = fun _ => 0

/-- **Where the estimate is the truth, so is `rt/odom`.** -/
theorem rosOdometer_truth (update : SimStateUpdate ℝ) :
    GroundTruth update.base (rosOdometer update (OdometryModel.truth update.base.position.x
      update.base.position.y (yawFromQuat update.base.quat) update.base.linVel.x
      update.base.linVel.y update.base.angVel.z)) := by
  let est := OdometryModel.truth update.base.position.x update.base.position.y
    (yawFromQuat update.base.quat) update.base.linVel.x update.base.linVel.y update.base.angVel.z
  have hnone : headingError update est = 0 := by
    change Libc.remainder (yawFromQuat update.base.quat - yawFromQuat update.base.quat) _ = 0
    rw [sub_self]
    exact remainder_zero _
  have hquat : (rosOdometer update est).orientation = update.base.quat := by
    refine Quat.toQuaternion_injective ?_
    rw [toQuaternion_orientation, hnone, spin_zero, one_mul]
  have hlinear : (rosOdometer update est).linear
      = worldToBody update.base.quat update.base.linVel := by
    rw [rosOdometer, Vec3.mk.injEq]
    exact ⟨add_sub_cancel_right _ _, add_sub_cancel_right _ _, rfl⟩
  have hangular : (rosOdometer update est).angular
      = worldToBody update.base.quat update.base.angVel := by
    rw [rosOdometer, Vec3.mk.injEq]
    exact ⟨rfl, rfl, add_sub_cancel_right _ _⟩
  refine ⟨rfl, hquat, hlinear, hangular, fun hunit => ?_, rfl⟩
  rw [hquat, hlinear, hangular]
  exact ⟨mjuRotVecQuat_worldToBody hunit _, mjuRotVecQuat_worldToBody hunit _⟩

namespace StatePublisher

variable {ρ : Type*} (normal : ρ → ℝ × ρ) (p : StatePublisher ℝ ρ) (update : SimStateUpdate ℝ)

/-- **An update publishes its estimate on both topics**, once on each. -/
theorem odometerState_mem_publish (odom : OdometerMsg ℝ) :
    .odometerState odom ∈ (p.publish normal update).2
      ↔ odom = odometerState (updateOdometry normal p.odometry update).estimate := by
  rw [publish]
  split_ifs with hdue <;> cases update.head <;> simp

theorem rosOdometer_mem_publish (ros : OdometryMsg ℝ) :
    .rosOdometer ros ∈ (p.publish normal update).2
      ↔ ros = rosOdometer update (updateOdometry normal p.odometry update).estimate := by
  rw [publish]
  split_ifs with hdue <;> cases update.head <;> simp

/-- **A disabled model estimates the truth.** -/
theorem updateOdometry_of_disabled {m : OdometryModel ℝ ρ} (hdisabled : m.config.enabled = false) :
    (updateOdometry normal m update).estimate = OdometryModel.truth update.base.position.x
      update.base.position.y (yawFromQuat update.base.quat) update.base.linVel.x
      update.base.linVel.y update.base.angVel.z :=
  m.estimate_of_restarts normal _ _ _ _ _ _ _ (.inl hdisabled)

/-- A robot at rest, pitched forward. -/
noncomputable def pitchedUpdate : SimStateUpdate ℝ where
  joints _ := ⟨0, 0, 0, 0⟩
  imu := ⟨⟨4 / 5, 0, 3 / 5, 0⟩, ⟨0, 0, 0⟩, ⟨0, 0, 0⟩, ⟨0, 0, 0⟩⟩
  base := ⟨⟨0, 0, 1 / 2⟩, ⟨4 / 5, 0, 3 / 5, 0⟩, ⟨0, 0, 0⟩, ⟨0, 0, 0⟩⟩
  head := none
  mode := .prepare
  fallState := .isFalling
  gettingUp := false
  measuredRtf := 1
  simTime := 0
  stepCount := 0

theorem pitchedUpdate_unit : pitchedUpdate.base.quat.normSq = 1 := by
  norm_num [pitchedUpdate, Quat.normSq]

theorem pitchedUpdate_level : ¬ pitchedUpdate.base.quat.Vertical := by
  norm_num [pitchedUpdate, Quat.Vertical, mjuRotVecQuat, Vec3.cross]

/-- A publisher before its first update, the odometry model disabled. -/
noncomputable def disabledPublisher : StatePublisher ℝ Unit :=
  { odometry := { config := OdometryModel.loadConfig {}, rng := () } }

end StatePublisher

end K1Sim
