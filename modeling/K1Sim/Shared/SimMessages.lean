import K1Sim.Shared.BoosterApi
import K1Sim.Shared.ModelMap

/-!
# Shared/SimMessages — what the physics thread tells the other modules

`SimStateUpdate` and its parts, of `shared/message/SimMessages.hpp`.
-/

namespace K1Sim

/-- `JointState`. -/
structure JointState (K : Type*) where
  q : K
  dq : K
  ddq : K
  tau : K

/-- `ImuData`. -/
structure ImuData (K : Type*) where
  quat : Quat K
  rpy : Vec3 K
  gyro : Vec3 K
  acc : Vec3 K

/-- `BaseState`: position, orientation and velocities in the world frame. -/
structure BaseState (K : Type*) where
  position : Vec3 K
  quat : Quat K
  linVel : Vec3 K
  angVel : Vec3 K

/-- `HeadPose`: the head in the yaw-only base footprint frame. -/
structure HeadPose (K : Type*) where
  position : Vec3 K
  quat : Quat K

/-- What a snapshot reads off the model's state, the controller and the pacing; the head is `none`
in a model without a head body. -/
structure Reading (K : Type*) where
  joints : JointArray (JointState K)
  imu : ImuData K
  base : BaseState K
  head : Option (HeadPose K)
  mode : RobotMode
  fallState : FallState
  gettingUp : Bool
  measuredRtf : K

/-- `SimStateUpdate`. -/
structure SimStateUpdate (K : Type*) extends Reading K where
  simTime : K
  stepCount : ℕ

/-- A robot upright and at rest at the origin. -/
def restReading : Reading ℚ where
  joints _ := ⟨0, 0, 0, 0⟩
  imu := ⟨⟨1, 0, 0, 0⟩, ⟨0, 0, 0⟩, ⟨0, 0, 0⟩, ⟨0, 0, 0⟩⟩
  base := ⟨⟨0, 0, 1 / 2⟩, ⟨1, 0, 0, 0⟩, ⟨0, 0, 0⟩, ⟨0, 0, 0⟩⟩
  head := none
  mode := .prepare
  fallState := .isReady
  gettingUp := false
  measuredRtf := 1

end K1Sim
