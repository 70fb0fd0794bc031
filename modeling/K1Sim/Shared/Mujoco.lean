import K1Sim.Foundations.Numerals
import Mathlib.Algebra.Field.Defs

/-!
# Shared/Mujoco — the part of MuJoCo's model and data the simulator touches

`MjModel` holds the compiled model's arrays under MuJoCo's own names; it is immutable once loaded.
`MjData` holds the simulation state.  Arrays are total functions of their index, three-vectors and
quaternions (`w x y z`) are tuples of entries.
-/

namespace K1Sim

/-- `mjtObj`: the kinds of named objects looked up. -/
inductive MjObj where
  | body | joint | geom | site | actuator | sensor | key
  deriving DecidableEq

/-- `mjtJoint`. -/
inductive MjJnt where
  | free | ball | slide | hinge
  deriving DecidableEq

namespace MjJnt

/-- The positions of a joint in `qpos`. -/
def nq : MjJnt → ℕ
  | .free => 7
  | .ball => 4
  | .slide | .hinge => 1

/-- The velocities of a joint in `qvel`. -/
def nv : MjJnt → ℕ
  | .free => 6
  | .ball => 3
  | .slide | .hinge => 1

theorem nq_pos (t : MjJnt) : 0 < t.nq := by cases t <;> decide

end MjJnt

/-- `mjModel`.  `name2id` is `mj_name2id`, with `none` for its `-1`; an object has one name, so two
names never share an id. -/
structure MjModel (K : Type*) where
  optTimestep : K
  nbody : ℕ
  njnt : ℕ
  ngeom : ℕ
  bodyJntnum : ℕ → ℕ
  bodyJntadr : ℕ → ℕ
  bodySubtreemass : ℕ → K
  jntType : ℕ → MjJnt
  jntBodyid : ℕ → ℕ
  jntQposadr : ℕ → ℕ
  jntDofadr : ℕ → ℕ
  geomBodyid : ℕ → ℕ
  geomPos : ℕ → K
  geomSize : ℕ → K
  actuatorForcelimited : ℕ → Bool
  actuatorForcerange : ℕ → K
  sensorAdr : ℕ → ℕ
  name2id : MjObj → String → Option ℕ
  name2id_inj : ∀ {t s s' i}, name2id t s = some i → name2id t s' = some i → s = s'

/-- The place `p` is among the `width` of the joint `j`, from its address on. -/
def MjModel.Stretch {K : Type*} (m : MjModel K) (adr : ℕ → ℕ) (width : MjJnt → ℕ) (j p : ℕ) :
    Prop :=
  ∃ a < width (m.jntType j), p = adr j + a

/-- Each joint of the model has its own stretch of places. -/
def MjModel.Apart {K : Type*} (m : MjModel K) (adr : ℕ → ℕ) (width : MjJnt → ℕ) : Prop :=
  ∀ j j' p, j < m.njnt → j' < m.njnt → m.Stretch adr width j p → m.Stretch adr width j' p → j = j'

/-- `mjData`: the clock, the state, the controls and the sensor readings. -/
structure MjData (K : Type*) where
  time : K
  qpos : ℕ → K
  qvel : ℕ → K
  ctrl : ℕ → K
  sensordata : ℕ → K

/-- A three-vector. -/
structure Vec3 (K : Type*) where
  x : K
  y : K
  z : K
  deriving DecidableEq

/-- A quaternion, `w x y z`. -/
structure Quat (K : Type*) where
  w : K
  x : K
  y : K
  z : K
  deriving DecidableEq

section Rotation

variable {K : Type*} [Field K]

/-- The cross product. -/
def Vec3.cross (a b : Vec3 K) : Vec3 K :=
  ⟨a.y * b.z - a.z * b.y, a.z * b.x - a.x * b.z, a.x * b.y - a.y * b.x⟩

/-- `mju_rotVecQuat`: the vector `v` rotated by the quaternion `q`. -/
def mjuRotVecQuat (v : Vec3 K) (q : Quat K) : Vec3 K :=
  let axis : Vec3 K := ⟨q.x, q.y, q.z⟩
  let turn := axis.cross v
  let tmp : Vec3 K := ⟨q.w * v.x + turn.x, q.w * v.y + turn.y, q.w * v.z + turn.z⟩
  let twist := axis.cross tmp
  ⟨v.x + 2 * twist.x, v.y + 2 * twist.y, v.z + 2 * twist.z⟩

/-- `mju_mulQuat`. -/
def mjuMulQuat (a b : Quat K) : Quat K :=
  ⟨a.w * b.w - a.x * b.x - a.y * b.y - a.z * b.z,
    a.w * b.x + a.x * b.w + a.y * b.z - a.z * b.y,
    a.w * b.y - a.x * b.z + a.y * b.w + a.z * b.x,
    a.w * b.z + a.x * b.y - a.y * b.x + a.z * b.w⟩

/-- The square of a quaternion's norm. -/
def Quat.normSq (q : Quat K) : K := q.w * q.w + q.x * q.x + q.y * q.y + q.z * q.z

end Rotation

/-- The orientation of a free joint, from its seven positions. -/
def MjData.freeQuat {K : Type*} (d : MjData K) (adr : ℕ) : Quat K :=
  ⟨d.qpos (adr + 3), d.qpos (adr + 4), d.qpos (adr + 5), d.qpos (adr + 6)⟩

end K1Sim
