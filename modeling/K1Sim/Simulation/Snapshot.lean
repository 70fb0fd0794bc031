import K1Sim.Shared.MujocoLibrary
import K1Sim.Simulation.FootLog
import K1Sim.Simulation.PhysicsLoop

/-!
# Simulation/Snapshot — what a snapshot reads of the data

`readState` is `SimCore::make_snapshot` but for the clock and the step counter: part of it comes
from the state that `mj_step` leaves, part from what that step derived of the state it started from.
The angular velocity of the base crosses the two: a velocity of the new state, turned by the matrix
of the old one.
-/

namespace K1Sim

open Foundations

/-- The derived arrays of `mjData` that a snapshot reads, besides the poses of the bodies. -/
structure DerivedArrays (K δ : Type*) where
  xmat : δ → ℕ → K
  cvel : δ → ℕ → K
  qacc : δ → ℕ → K
  actuatorForce : δ → ℕ → K

/-- What a snapshot asks of the controller. -/
structure ControllerReport where
  mode : RobotMode
  fallState : FallState
  gettingUp : Bool
  deriving DecidableEq

/-- The report where no controller is attached. -/
def ControllerReport.fallback : ControllerReport := ⟨.prepare, .isReady, false⟩

/-- `mju_mulMatVec3`: the matrix times the vector. -/
def mjuMulMatVec3 {K : Type*} [Field K] (mat : ℕ → K) (v : Vec3 K) : Vec3 K :=
  ⟨mat 0 * v.x + mat 1 * v.y + mat 2 * v.z, mat 3 * v.x + mat 4 * v.y + mat 5 * v.z,
    mat 6 * v.x + mat 7 * v.y + mat 8 * v.z⟩

/-- The three entries from `adr` on. -/
def vec3At {K : Type*} (a : ℕ → K) (adr : ℕ) : Vec3 K := ⟨a adr, a (adr + 1), a (adr + 2)⟩

/-- The four entries from `adr` on. -/
def quatAt {K : Type*} (a : ℕ → K) (adr : ℕ) : Quat K :=
  ⟨a adr, a (adr + 1), a (adr + 2), a (adr + 3)⟩

/-- The angular velocity of a free joint, in the frame of its body. -/
def MjData.freeRate {K : Type*} (d : MjData K) (vadr : ℕ) : Vec3 K := vec3At d.qvel (vadr + 3)

namespace SimCore

variable {K ρ δ : Type*} (lib : MujocoLibrary K ρ δ) (arrays : DerivedArrays K δ)

section Readings

variable (map : ModelMap) (s : MjInstance K ρ δ)

/-- A joint of the snapshot. -/
def readJoint (i : Fin jointCount) : JointState K :=
  ⟨s.data.qpos (map.qposAdr i), s.data.qvel (map.dofAdr i), arrays.qacc s.derived (map.dofAdr i),
    arrays.actuatorForce s.derived (map.actId i)⟩

/-- The row-major matrix of the root body. -/
def rootMat (k : ℕ) : K := arrays.xmat s.derived (9 * map.rootBodyId + k)

/-- The orientation of the IMU: of the sensor, or else of the root body. -/
def imuQuat : Quat K :=
  match map.sensQuat with
  | some adr => quatAt s.data.sensordata adr
  | none => (lib.bodyPose s.derived map.rootBodyId).quat

variable [Field K]

/-- The gyro: of the sensor, or else the world velocity of the root body in its own frame. -/
def imuGyro : Vec3 K :=
  match map.sensGyro with
  | some adr => vec3At s.data.sensordata adr
  | none =>
    mjuMulMatTVec3 (rootMat arrays map s) (vec3At (arrays.cvel s.derived) (6 * map.rootBodyId))

/-- The accelerometer: of the sensor, or else what it would show at rest. -/
def imuAcc (optGravity : Vec3 K) : Vec3 K :=
  match map.sensAcc with
  | some adr => vec3At s.data.sensordata adr
  | none => mjuMulMatTVec3 (rootMat arrays map s) ⟨0, 0, -optGravity.z⟩

/-- The base: the velocities in the world frame. -/
def readBase : BaseState K where
  position := vec3At s.data.qpos map.rootQposAdr
  quat := s.data.freeQuat map.rootQposAdr
  linVel := vec3At s.data.qvel map.rootDofAdr
  angVel := mjuMulMatVec3 (rootMat arrays map s) (s.data.freeRate map.rootDofAdr)

end Readings

variable [Field K] [LinearOrder K] [Libc K] [Arcsine K]

/-- `make_snapshot`, but for the clock and the step counter. -/
def readState (optGravity : Vec3 K) (map : ModelMap) (headBodyId : Option ℕ)
    (controller : Option ControllerReport) (measuredRtf : K) (s : MjInstance K ρ δ) : Reading K :=
  let quat := imuQuat lib map s
  let report := controller.getD .fallback
  { joints := readJoint arrays map s
    imu :=
      { quat := quat
        rpy := quatToRpy quat
        gyro := imuGyro arrays map s
        acc := imuAcc arrays map s optGravity }
    base := readBase arrays map s
    head := headBodyId.map fun b =>
      headInFootprint ⟨lib.bodyPose s.derived b, basePose s.data.qpos map.rootQposAdr⟩
    mode := report.mode
    fallState := report.fallState
    gettingUp := report.gettingUp
    measuredRtf := measuredRtf }

end SimCore

/-! ## What MuJoCo documents of the root -/

/-- **A free joint that carries a body**: the body has the orientation of the joint, its matrix is
that of its orientation, the velocity derived is the one the step started with, in the world, and
the step turns the joint about the angular velocity that it leaves. -/
structure FreeJointDocumented {K ρ δ : Type*} [Field K] (lib : MujocoLibrary K ρ δ)
    (arrays : DerivedArrays K δ) (m : SceneModel K) (bodyId qposAdr dofAdr : ℕ) : Prop where
  orientation : ∀ d : MjData K, (d.freeQuat qposAdr).normSq = 1 →
    (lib.kinematics m d.qpos bodyId).quat = d.freeQuat qposAdr
  xmat : ∀ s (i j : Fin 3), arrays.xmat (lib.step m s).derived (9 * bodyId + (3 * i + j))
    = (lib.bodyPose (lib.step m s).derived bodyId).quat.toMatrix i j
  cvel : ∀ s, vec3At (arrays.cvel (lib.step m s).derived) (6 * bodyId)
    = mjuRotVecQuat (s.data.freeRate dofAdr) (lib.bodyPose (lib.step m s).derived bodyId).quat
  turn : ∀ s, (s.data.freeQuat qposAdr).normSq = 1 → ∃ r : Quat K, r.normSq = 1
    ∧ mjuRotVecQuat ((lib.step m s).data.freeRate dofAdr) r = (lib.step m s).data.freeRate dofAdr
    ∧ (lib.step m s).data.freeQuat qposAdr = mjuMulQuat (s.data.freeQuat qposAdr) r

/-- **The IMU of the model**: its sensors, where it has them, are on a site aligned with the root
body, and a step reads them of the state it starts from. -/
structure ImuAligned {K ρ δ : Type*} [Field K] (lib : MujocoLibrary K ρ δ) (m : SceneModel K)
    (map : ModelMap) : Prop where
  framequat : ∀ adr ∈ map.sensQuat, ∀ s, quatAt (lib.step m s).data.sensordata adr
    = (lib.bodyPose (lib.step m s).derived map.rootBodyId).quat
  gyro : ∀ adr ∈ map.sensGyro, ∀ s, vec3At (lib.step m s).data.sensordata adr
    = s.data.freeRate map.rootDofAdr

/-! ## Rotations by unit quaternions -/

section Rotation

variable {K : Type*} [Field K]

theorem normSq_mulQuat (a b : Quat K) : (mjuMulQuat a b).normSq = a.normSq * b.normSq := by
  rw [Quat.normSq, mjuMulQuat, Quat.normSq, Quat.normSq]
  ring

variable {a b q : Quat K}

/-- **A product of rotations turns by one factor after the other.** -/
theorem mjuRotVecQuat_mulQuat (ha : a.normSq = 1) (hb : b.normSq = 1) (v : Vec3 K) :
    mjuRotVecQuat v (mjuMulQuat a b) = mjuRotVecQuat (mjuRotVecQuat v b) a := by
  rw [Quat.normSq] at ha hb
  obtain ⟨x, y, z⟩ := v
  simp only [mjuRotVecQuat, mjuMulQuat, Vec3.cross, Vec3.mk.injEq]
  -- each factor off the unit would scale what the other adds
  refine ⟨?_, ?_, ?_⟩
  · linear_combination 2 * (b.y * (b.w * z + (b.x * y - b.y * x))
        - b.z * (b.w * y + (b.z * x - b.x * z))) * ha
      + 2 * (a.y * (a.w * z + (a.x * y - a.y * x)) - a.z * (a.w * y + (a.z * x - a.x * z))) * hb
  · linear_combination 2 * (b.z * (b.w * x + (b.y * z - b.z * y))
        - b.x * (b.w * z + (b.x * y - b.y * x))) * ha
      + 2 * (a.z * (a.w * x + (a.y * z - a.z * y)) - a.x * (a.w * z + (a.x * y - a.y * x))) * hb
  · linear_combination 2 * (b.x * (b.w * y + (b.z * x - b.x * z))
        - b.y * (b.w * x + (b.y * z - b.z * y))) * ha
      + 2 * (a.x * (a.w * y + (a.z * x - a.x * z)) - a.y * (a.w * x + (a.y * z - a.z * y))) * hb

/-- The inverse of a unit quaternion. -/
def Quat.conj (q : Quat K) : Quat K := ⟨q.w, -q.x, -q.y, -q.z⟩

theorem normSq_conj (q : Quat K) : q.conj.normSq = q.normSq := by
  rw [Quat.normSq, Quat.normSq, Quat.conj]
  ring

/-- **The conjugate turns back.** -/
theorem mjuRotVecQuat_conj (hq : q.normSq = 1) (v : Vec3 K) :
    mjuRotVecQuat (mjuRotVecQuat v q) q.conj = v := by
  have hone : mjuMulQuat q.conj q = ⟨1, 0, 0, 0⟩ := by
    rw [← hq, Quat.normSq, mjuMulQuat, Quat.conj, Quat.mk.injEq]
    exact ⟨by ring, by ring, by ring, by ring⟩
  rw [← mjuRotVecQuat_mulQuat ((normSq_conj q).trans hq) hq, hone]
  simp [mjuRotVecQuat, Vec3.cross]

theorem worldToBody_eq (q : Quat K) (v : Vec3 K) :
    worldToBody q v = mjuRotVecQuat v q.conj := by
  simp only [worldToBody, mjuRotVecQuat, Vec3.cross, Quat.conj, Vec3.mk.injEq]
  exact ⟨by ring, by ring, by ring⟩

section Matrix

variable {mat : ℕ → K} (hmat : ∀ i j : Fin 3, mat (3 * i + j) = q.toMatrix i j)

include hmat

/-- The columns are the turned axes. -/
theorem columns_eq : (⟨mat 0, mat 3, mat 6⟩ : Vec3 K) = mjuRotVecQuat ⟨1, 0, 0⟩ q
    ∧ (⟨mat 1, mat 4, mat 7⟩ : Vec3 K) = mjuRotVecQuat ⟨0, 1, 0⟩ q
    ∧ (⟨mat 2, mat 5, mat 8⟩ : Vec3 K) = mjuRotVecQuat ⟨0, 0, 1⟩ q := by
  refine ⟨?_, ?_, ?_⟩
  · exact Vec3.mk.injEq .. |>.mpr ⟨hmat 0 0, hmat 1 0, hmat 2 0⟩
  · exact Vec3.mk.injEq .. |>.mpr ⟨hmat 0 1, hmat 1 1, hmat 2 1⟩
  · exact Vec3.mk.injEq .. |>.mpr ⟨hmat 0 2, hmat 1 2, hmat 2 2⟩

/-- The matrix of an orientation turns a vector as the orientation does, -/
theorem mulMatVec3_eq (v : Vec3 K) : mjuMulMatVec3 mat v = mjuRotVecQuat v q := by
  obtain ⟨hx, hy, hz⟩ := columns_eq hmat
  simp only [mjuRotVecQuat, Vec3.cross, Vec3.mk.injEq] at hx hy hz
  simp only [mjuMulMatVec3, hx, hy, hz, mjuRotVecQuat, Vec3.cross, Vec3.mk.injEq]
  exact ⟨by ring, by ring, by ring⟩

/-- and transposed as its conjugate does. -/
theorem mulMatTVec3_eq (v : Vec3 K) : mjuMulMatTVec3 mat v = mjuRotVecQuat v q.conj := by
  obtain ⟨hx, hy, hz⟩ := columns_eq hmat
  simp only [mjuRotVecQuat, Vec3.cross, Vec3.mk.injEq] at hx hy hz
  simp only [mjuMulMatTVec3, hx, hy, hz, mjuRotVecQuat, Vec3.cross, Quat.conj, Vec3.mk.injEq]
  exact ⟨by ring, by ring, by ring⟩

end Matrix

end Rotation

end K1Sim
