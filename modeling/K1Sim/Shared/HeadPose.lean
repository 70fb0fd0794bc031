import K1Sim.Shared.Libc
import K1Sim.Shared.MujocoLibrary
import K1Sim.Shared.SimMessages

/-!
# Shared/HeadPose — the head in the yaw-only base footprint frame

`headInFootprint` combines the world pose of the head body with the pose of the base.  The modules
that call it read the head from what was last derived and the base from the positions.
-/

namespace K1Sim

variable {K : Type*}

/-- What the head pose takes of the base: where it stands, and its orientation. -/
structure BasePose (K : Type*) where
  x : K
  y : K
  quat : Quat K
  deriving DecidableEq

/-- The base pose in a free joint's positions. -/
def basePose (qpos : ℕ → K) (adr : ℕ) : BasePose K :=
  ⟨qpos adr, qpos (adr + 1), ⟨qpos (adr + 3), qpos (adr + 4), qpos (adr + 5), qpos (adr + 6)⟩⟩

/-- The two poses that `head_in_footprint` combines. -/
structure HeadReading (K : Type*) where
  head : BodyPose K
  base : BasePose K
  deriving DecidableEq

variable [Field K]

/-- `HEAD_FRAME_ABOVE_PITCH`. -/
def headFrameAbovePitch : K := 8 / 100

variable [Libc K] [DecidableEq K]

/-- `mju_axisAngle2Quat`. -/
def mjuAxisAngle2Quat (axis : Vec3 K) (angle : K) : Quat K :=
  if angle = 0 then ⟨1, 0, 0, 0⟩
  else
    let s := Libc.sin (angle * (1 / 2))
    ⟨Libc.cos (angle * (1 / 2)), axis.x * s, axis.y * s, axis.z * s⟩

/-- `head_in_footprint`, from the yaw of the base on. -/
def headInFootprintAt (yaw : K) (r : HeadReading K) : HeadPose K :=
  let negYaw := mjuAxisAngle2Quat ⟨0, 0, 1⟩ (-yaw)
  let relP := mjuRotVecQuat
    ⟨r.head.position.x - r.base.x, r.head.position.y - r.base.y, r.head.position.z⟩ negYaw
  let relQ := mjuMulQuat negYaw r.head.quat
  let up := mjuRotVecQuat ⟨0, 0, headFrameAbovePitch⟩ relQ
  ⟨⟨relP.x + up.x, relP.y + up.y, relP.z + up.z⟩, relQ⟩

/-- `head_in_footprint`. -/
def headInFootprint (r : HeadReading K) : HeadPose K :=
  let q := r.base.quat
  let yaw := Libc.atan2 (2 * (q.w * q.z + q.x * q.y)) (1 - 2 * (q.y * q.y + q.z * q.z))
  headInFootprintAt yaw r

end K1Sim
