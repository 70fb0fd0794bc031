import K1Sim.Foundations.Machine
import K1Sim.SdkBridge.OdometryModel
import K1Sim.Shared.SimMessages

/-!
# SdkBridge/StatePublisher — the state topics

`StatePublisher::publish` turns a state update into samples on the wire.  Each topic is a definition
of its own; what is kept from one update to the next is the odometry model and the three variables
behind `rt/fall_down`.
-/

namespace K1Sim

open Foundations

/-! ## The samples -/

/-- `MotorState_`, as far as it varies. -/
structure MotorStateMsg (K : Type*) where
  q : K
  dq : K
  ddq : K
  tauEst : K

/-- `LowState_`. -/
structure LowStateMsg (K : Type*) where
  rpy : Vec3 K
  gyro : Vec3 K
  acc : Vec3 K
  motorStateSerial : List (MotorStateMsg K)
  motorStateParallel : List (MotorStateMsg K)

/-- `Odometer_`. -/
structure OdometerMsg (K : Type*) where
  x : K
  y : K
  theta : K

/-- `Odometry_`: pose, twist and the diagonal entries of the twist covariance that are set. -/
structure OdometryMsg (K : Type*) where
  position : Vec3 K
  orientation : Quat K
  linear : Vec3 K
  angular : Vec3 K
  covariance : Fin 3 → K

/-- `FallDownState_`. -/
structure FallDownMsg where
  fallDownState : FallState
  isRecoveryAvailable : Bool := true

/-- A sample written by `publish`. -/
inductive StateSample (K : Type*) where
  | lowState (msg : LowStateMsg K)
  | odometerState (msg : OdometerMsg K)
  | rosOdometer (msg : OdometryMsg K)
  | headPose (msg : HeadPose K)
  | fallDown (msg : FallDownMsg)

/-- A sample of `rt/fall_down`. -/
def StateSample.isFallDown {K : Type*} : StateSample K → Bool
  | .fallDown _ => true
  | _ => false

section Topics

variable {K : Type*} [Field K] [Libc K]

/-- `yaw_from_quat`. -/
def yawFromQuat (q : Quat K) : K :=
  Libc.atan2 (2 * (q.w * q.z + q.x * q.y)) (1 - 2 * (q.y * q.y + q.z * q.z))

omit [Libc K] in
/-- `quat_mul`: the Hamilton product. -/
def quatMul (a b : Quat K) : Quat K where
  w := a.w * b.w - a.x * b.x - a.y * b.y - a.z * b.z
  x := a.w * b.x + a.x * b.w + a.y * b.z - a.z * b.y
  y := a.w * b.y - a.x * b.z + a.y * b.w + a.z * b.x
  z := a.w * b.z + a.x * b.y - a.y * b.x + a.z * b.w

omit [Libc K] in
/-- `world_to_body`: a world vector in the body frame. -/
def worldToBody (q : Quat K) (v : Vec3 K) : Vec3 K where
  x := (1 - 2 * (q.y * q.y + q.z * q.z)) * v.x + 2 * (q.x * q.y + q.w * q.z) * v.y
    + 2 * (q.x * q.z - q.w * q.y) * v.z
  y := 2 * (q.x * q.y - q.w * q.z) * v.x + (1 - 2 * (q.x * q.x + q.z * q.z)) * v.y
    + 2 * (q.y * q.z + q.w * q.x) * v.z
  z := 2 * (q.x * q.z + q.w * q.y) * v.x + 2 * (q.y * q.z - q.w * q.x) * v.y
    + (1 - 2 * (q.x * q.x + q.y * q.y)) * v.z

/-- The cast to `float`, entry by entry. -/
def Vec3.toFloat (v : Vec3 K) : Vec3 K := ⟨Libc.toFloat v.x, Libc.toFloat v.y, Libc.toFloat v.z⟩

/-- `to_motor_state`. -/
def toMotorState (joint : JointState K) : MotorStateMsg K :=
  ⟨Libc.toFloat joint.q, Libc.toFloat joint.dq, Libc.toFloat joint.ddq, Libc.toFloat joint.tau⟩

/-- `rt/low_state`; the parallel vector is the legs alone. -/
def lowState (update : SimStateUpdate K) : LowStateMsg K :=
  let motors := (List.finRange jointCount).map fun i => toMotorState (update.joints i)
  { rpy := update.imu.rpy.toFloat
    gyro := update.imu.gyro.toFloat
    acc := update.imu.acc.toFloat
    motorStateSerial := motors
    motorStateParallel := motors.drop JointIndexK1.leftHipPitch }

/-- `rt/odometer_state`. -/
def odometerState (est : OdometryModel.Estimate K) : OdometerMsg K :=
  ⟨Libc.toFloat est.x, Libc.toFloat est.y, Libc.toFloat est.yaw⟩

/-- `rt/odom`: the planar errors of the odometry on top of the true pose and twist. -/
def rosOdometer (update : SimStateUpdate K) (est : OdometryModel.Estimate K) : OdometryMsg K :=
  let base := update.base
  let yawTrue := yawFromQuat base.quat
  let vTruePlanar := OdometryModel.trueVelocity yawTrue base.linVel.x base.linVel.y base.angVel.z
  let halfDyaw := 1 / 2 * Libc.remainder (est.yaw - yawTrue) (2 * Libc.pi)
  let linear := worldToBody base.quat base.linVel
  let angular := worldToBody base.quat base.angVel
  { position := ⟨est.x, est.y, base.position.z⟩
    orientation := quatMul ⟨Libc.cos halfDyaw, 0, 0, Libc.sin halfDyaw⟩ base.quat
    linear :=
      ⟨linear.x + est.velocity 0 - vTruePlanar 0, linear.y + est.velocity 1 - vTruePlanar 1,
        linear.z⟩
    angular := ⟨angular.x, angular.y, angular.z + est.velocity 2 - vTruePlanar 2⟩
    covariance := est.velocityVariance }

end Topics

/-! ## The publisher -/

/-- `StatePublisher`, its writers apart. -/
structure StatePublisher (K ρ : Type*) [Field K] where
  odometry : OdometryModel K ρ
  haveLastFallState : Bool := false
  lastFallState : Option FallState := none
  lastFallPublishTime : K := -1000000000

namespace StatePublisher

variable {K : Type*} [Field K] [Libc K] [LinearOrder K] {ρ : Type*} (normal : ρ → K × ρ)

/-- The odometry part of `publish`. -/
def updateOdometry (m : OdometryModel K ρ) (update : SimStateUpdate K) : OdometryModel K ρ :=
  m.update normal update.simTime update.base.position.x update.base.position.y
    (yawFromQuat update.base.quat) update.base.linVel.x update.base.linVel.y update.base.angVel.z

omit [Libc K] [LinearOrder K] in
/-- The fall state differs from the one published last. -/
def fallChanged (p : StatePublisher K ρ) (update : SimStateUpdate K) : Bool :=
  !p.haveLastFallState || p.lastFallState != some update.fallState

/-- An update at which `rt/fall_down` is written: on change, or a second after the last sample. -/
def fallDue (p : StatePublisher K ρ) (update : SimStateUpdate K) : Bool :=
  p.fallChanged update || decide (1 ≤ update.simTime - p.lastFallPublishTime)

/-- `publish`: the publisher afterwards, and the samples written. -/
def publish (p : StatePublisher K ρ) (update : SimStateUpdate K) :
    StatePublisher K ρ × List (StateSample K) :=
  let odometry := updateOdometry normal p.odometry update
  let est := odometry.estimate
  let samples :=
    [.lowState (lowState update), .odometerState (odometerState est),
      .rosOdometer (rosOdometer update est)]
      ++ (update.head.map .headPose).toList
  if p.fallDue update then
    ({ odometry := odometry
       haveLastFallState := true
       lastFallState := some update.fallState
       lastFallPublishTime := update.simTime },
      samples ++ [.fallDown { fallDownState := update.fallState }])
  else ({ p with odometry := odometry }, samples)

/-- The publisher, reading updates in order. -/
def machine : Machine (StatePublisher K ρ) (SimStateUpdate K) (List (StateSample K)) where
  next p update := (p.publish normal update).1
  out p update := some (p.publish normal update).2

/-- **`rt/fall_down` is written exactly when it is due.** -/
theorem any_isFallDown_publish (p : StatePublisher K ρ) (update : SimStateUpdate K) :
    (p.publish normal update).2.any StateSample.isFallDown = p.fallDue update := by
  rw [publish]
  cases hdue : p.fallDue update <;> cases update.head <;> simp [StateSample.isFallDown]

theorem publish_odometry (p : StatePublisher K ρ) (update : SimStateUpdate K) :
    (p.publish normal update).1.odometry = updateOdometry normal p.odometry update := by
  rw [publish]
  split <;> rfl

/-- A published update leaves the odometry model initialised at its own time. -/
theorem publish_odometry_frame (p : StatePublisher K ρ) (update : SimStateUpdate K) :
    (p.publish normal update).1.odometry.t = update.simTime
      ∧ (p.publish normal update).1.odometry.initialised = true
      ∧ (p.publish normal update).1.odometry.config = p.odometry.config := by
  rw [publish_odometry]
  exact p.odometry.update_frame normal _ _ _ _ _ _ _

end StatePublisher

end K1Sim
