import K1Sim.Foundations.Machine
import K1Sim.Shared.HeadPose
import K1Sim.Simulation.LoadModel
import K1Sim.Supervisor.SupervisorLogic

/-!
# System/SimData — the data that the modules share under the sim mutex

The physics thread steps and resets the data, the supervisor places bodies in it, the viewer shoves
and drags the robot, the camera reads it.  Each has it for itself for as long as it holds the
mutex, so a run of the simulator is a word of these accesses.
-/

namespace K1Sim

open Foundations

/-- What a loaded simulator works with. -/
structure Plant (K ρ δ : Type*) where
  lib : MujocoLibrary K ρ δ
  model : SceneModel K
  cfg : SimCore.Config K
  scene : SimCore.Scene K

/-- The shared data, and the supervisor that writes to it. -/
structure SimData (K ρ δ : Type*) [Field K] where
  mj : MjInstance K ρ δ
  logic : SupervisorLogic K

/-- One turn at the mutex: a pass of the physics loop, whose controllers leave these controls;
`SimCore::reset`; a GameController packet; the shove key; a drag of the mouse, which leaves forces
in the rest of the state; and a frame of the camera. -/
inductive SimAccess (K ρ : Type*) where
  | pass (ctrl : ℕ → K)
  | reset
  | packet (pkt : Gc.GameControllerPacket)
  | shove
  | drag (rest : ρ)
  | frame

/-- The joint that the shove key kicks. -/
def Viewer.kickedJoint {K : Type*} (m : MjModel K) : Option ℕ :=
  if 0 < m.njnt ∧ m.jntType 0 = .free then some 0 else none

/-- The shove key. -/
def Viewer.shove {K : Type*} [Field K] (m : MjModel K) (d : MjData K) : MjData K :=
  match kickedJoint m with
  | none => d
  | some joint =>
    let dof := m.jntDofadr joint
    let qvel := Function.update d.qvel (dof + 0) (d.qvel (dof + 0) + 3 / 2)
    { d with qvel := Function.update qvel (dof + 4) (qvel (dof + 4) + 6) }

theorem Viewer.shove_qpos {K : Type*} [Field K] (m : MjModel K) (d : MjData K) :
    (shove m d).qpos = d.qpos := by
  rw [shove]
  split <;> rfl

namespace Plant

variable {K ρ δ : Type*} [Field K] [Libc K] [LinearOrder K] (P : Plant K ρ δ)

/-- What a module reads of the head and of the base at this address. -/
def readHead (headBodyId adr : ℕ) (s : MjInstance K ρ δ) : HeadReading K :=
  ⟨P.lib.bodyPose s.derived headBodyId, basePose s.data.qpos adr⟩

/-- The physics thread's turn, up to the snapshot. -/
def pass (ctrl : ℕ → K) (s : MjInstance K ρ δ) : MjInstance K ρ δ :=
  P.lib.step P.model { s with data := { s.data with ctrl := ctrl } }

/-- What each turn leaves. -/
def next (s : SimData K ρ δ) : SimAccess K ρ → SimData K ρ δ
  | .pass ctrl => { s with mj := P.pass ctrl s.mj }
  | .reset => { s with mj := SimCore.resetMjData P.lib P.model P.cfg P.scene s.mj }
  | .packet pkt =>
    let (logic, result) := s.logic.process P.model.toMjModel s.mj.data pkt
    { mj := { s.mj with data := result.data }, logic := logic }
  | .shove => { s with mj := { s.mj with data := Viewer.shove P.model.toMjModel s.mj.data } }
  | .drag rest => { s with mj := { s.mj with rest := rest } }
  | .frame => s

/-- The simulator: its snapshots and the camera's frames show the head pose, with the base at the
root of the map and at the start of `qpos`. -/
def machine (headBodyId : ℕ) : Machine (SimData K ρ δ) (SimAccess K ρ) (HeadReading K) where
  next := P.next
  out s
    | .pass ctrl => some (P.readHead headBodyId P.scene.map.rootQposAdr (P.pass ctrl s.mj))
    | .frame => some (P.readHead headBodyId 0 s.mj)
    | _ => none

end Plant

end K1Sim
