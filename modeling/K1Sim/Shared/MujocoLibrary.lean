import K1Sim.Shared.ModelMap

/-!
# Shared/MujocoLibrary — the functions of MuJoCo that move an `mjData`

MuJoCo is not part of the repository: `MujocoLibrary` is what the simulator calls of it to fill,
reset and advance an allocated `mjData`, and `MujocoLibrary.Documented` what its documentation
promises.
-/

namespace K1Sim

/-- A model with its keyframes: `key_qpos` in rows of `nq`. -/
structure SceneModel (K : Type*) extends MjModel K where
  nq : ℕ
  keyQpos : ℕ → K

/-- `xpos` and `xquat` of a body. -/
structure BodyPose (K : Type*) where
  position : Vec3 K
  quat : Quat K
  deriving DecidableEq

/-- An allocated `mjData`: the part that the simulator touches, the rest of the state (activations,
applied forces, the warm start) and what was last derived from the state. -/
structure MjInstance (K ρ δ : Type*) where
  data : MjData K
  rest : ρ
  derived : δ

/-- The functions of MuJoCo.  `kinematics` is `mj_kinematics`, the pose of each body. -/
structure MujocoLibrary (K ρ δ : Type*) where
  makeData : SceneModel K → MjInstance K ρ δ
  resetData : SceneModel K → MjInstance K ρ δ → MjInstance K ρ δ
  resetDataKeyframe : SceneModel K → MjInstance K ρ δ → ℕ → MjInstance K ρ δ
  forward : SceneModel K → MjInstance K ρ δ → MjInstance K ρ δ
  step : SceneModel K → MjInstance K ρ δ → MjInstance K ρ δ
  bodyPose : δ → ℕ → BodyPose K
  kinematics : SceneModel K → (ℕ → K) → ℕ → BodyPose K

namespace MujocoLibrary

variable {K ρ δ : Type*}

/-- The documented behaviour: a reset overwrites the whole of `mjData`, and data is made reset;
`mj_forward` leaves positions and velocities; and both `mj_forward` and `mj_step` evaluate the
kinematics of the positions that they are given. -/
structure Documented (lib : MujocoLibrary K ρ δ) : Prop where
  resetData : ∀ m s, lib.resetData m s = lib.makeData m
  resetDataKeyframe : ∀ m s t key, lib.resetDataKeyframe m s key = lib.resetDataKeyframe m t key
  forward_qpos : ∀ m s, (lib.forward m s).data.qpos = s.data.qpos
  forward_qvel : ∀ m s, (lib.forward m s).data.qvel = s.data.qvel
  forward_pose : ∀ m s b,
    lib.bodyPose (lib.forward m s).derived b = lib.kinematics m s.data.qpos b
  step_pose : ∀ m s b, lib.bodyPose (lib.step m s).derived b = lib.kinematics m s.data.qpos b

end MujocoLibrary

/-- A small library: a body is where the first free joint is, and a step moves nothing but the
clock. -/
def smallMujoco : MujocoLibrary ℚ Unit (ℕ → ℚ) where
  makeData _ := ⟨⟨0, fun _ => 0, fun _ => 0, fun _ => 0, fun _ => 0⟩, (), fun _ => 0⟩
  resetData _ _ := ⟨⟨0, fun _ => 0, fun _ => 0, fun _ => 0, fun _ => 0⟩, (), fun _ => 0⟩
  resetDataKeyframe m _ key :=
    ⟨⟨0, fun i => m.keyQpos (key * m.nq + i), fun _ => 0, fun _ => 0, fun _ => 0⟩, (), fun _ => 0⟩
  forward _ s := { s with derived := s.data.qpos }
  step m s :=
    { s with data := { s.data with time := s.data.time + m.optTimestep }, derived := s.data.qpos }
  bodyPose qpos _ := ⟨⟨qpos 0, qpos 1, qpos 2⟩, ⟨qpos 3, qpos 4, qpos 5, qpos 6⟩⟩
  kinematics _ qpos _ := ⟨⟨qpos 0, qpos 1, qpos 2⟩, ⟨qpos 3, qpos 4, qpos 5, qpos 6⟩⟩

theorem smallMujoco_documented : smallMujoco.Documented :=
  ⟨fun _ _ => rfl, fun _ _ _ _ => rfl, fun _ _ => rfl, fun _ _ => rfl, fun _ _ _ => rfl,
    fun _ _ _ => rfl⟩

end K1Sim
