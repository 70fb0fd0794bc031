import K1Sim.Simulation.RobotPlacement
import K1Sim.Supervisor.PenaltyTracking
import K1Sim.System.SimData

/-!
# System/ResetRestores — a reset leaves the data that loading left

Whatever the modules have done to the data, a reset puts it back as `load_model` left it, down to
the derived quantities; and there the robots stand where the game or the grid puts them.
-/

namespace K1Sim

open Foundations

namespace Plant

variable {K ρ δ : Type*} [Field K] [Libc K] [LinearOrder K]

/-- **A reset restores the loaded data**, after every run of the simulator.  In a scene of attached
copies the main robot is turned there by its yaw once, keeping its norm, its height and its tilt,
and every copy stands at its slot. -/
theorem reset_restoresLoaded {P : Plant K ρ δ} (hlib : P.lib.Documented)
    {loaded : MjInstance K ρ δ}
    (hload : SimCore.loadModel P.lib P.model P.cfg = .ok (P.scene, loaded))
    (logic : SupervisorLogic K) (headBodyId : ℕ) (es : List (SimAccess K ρ)) :
    ((P.machine headBodyId).run ⟨loaded, logic⟩ (es ++ [.reset])).mj = loaded
      ∧ ((∀ x : K, Libc.cos x * Libc.cos x + Libc.sin x * Libc.sin x = 1) →
        SimCore.RobotsAttached P.model.toMjModel →
        SimCore.Placed P.cfg P.scene
          (SimCore.resetToKey P.lib P.model P.scene.resetKey (P.lib.makeData P.model)).data
          loaded.data) := by
  have hreset := SimCore.resetMjData_eq_of_loadModel hlib hload
  refine ⟨?_, fun htrig hattached => ?_⟩
  · rw [Machine.run_append]
    exact hreset _
  · obtain ⟨hmap, hcopies, -, -⟩ := SimCore.of_loadModel hload
    rw [← hreset (P.lib.makeData P.model)]
    exact (SimCore.placeRobots_placed hattached htrig hmap hcopies _).congr
      (hlib.forward_qpos _ _) (hlib.forward_qvel _ _)

/-! ## A game of one robot a side -/

/-- The game: each robot on its half, facing the other, the main robot turned about for it. -/
def pairGame : SimCore.Config ℚ where
  robots := 2
  spawns := [⟨1, 0, Libc.pi⟩, ⟨-1, 0, 0⟩]
  readyPoseFallback _ := 0

/-- The map of the robot of the pair that the modules control. -/
def pairMap : ModelMap where
  qposAdr i := SimCore.k1Pair.jntQposadr (i + 1)
  dofAdr i := SimCore.k1Pair.jntDofadr (i + 1)
  actId i := i
  rootQposAdr := 0
  rootDofAdr := 0
  rootBodyId := 1
  imuSiteId := none
  sensQuat := none
  sensGyro := none
  sensAcc := none
  sensLinvel := none

/-- The map of its copy. -/
def pairCopy : SimCore.CopyMap where
  qposAdr i := SimCore.k1Pair.jntQposadr (i + 24)
  dofAdr i := SimCore.k1Pair.jntDofadr (i + 24)
  actId i := i + 22
  rootQposAdr := 29
  rootDofAdr := 28

/-- The game, loaded. -/
def pairPlant : Plant ℚ Unit (ℕ → ℚ) where
  lib := smallMujoco
  model := SimCore.k1Pair
  cfg := pairGame
  scene :=
    ⟨pairMap, [pairCopy], SimCore.spawnKey SimCore.k1Pair.toMjModel pairGame,
      SimCore.readyTarget SimCore.k1Pair pairMap pairGame⟩

/-- The data of the game, loaded. -/
def pairLoaded : MjInstance ℚ Unit (ℕ → ℚ) :=
  SimCore.resetMjData smallMujoco SimCore.k1Pair pairGame pairPlant.scene
    (smallMujoco.makeData SimCore.k1Pair)

/-- The game loads. -/
theorem pairPlant_loads :
    SimCore.loadModel smallMujoco SimCore.k1Pair pairGame = .ok (pairPlant.scene, pairLoaded) := by
  have hroot : ModelMap.freeRoot SimCore.k1Pair.toMjModel = some 0 := by decide +kernel
  have hjnt (i : Fin jointCount) :
      SimCore.k1Pair.name2id .joint (jointNames.get i) = some (i.val + 1) := by
    rw [SimCore.k1Pair_joint]
    revert i
    decide +kernel
  have hact (i : Fin jointCount) :
      SimCore.k1Pair.name2id .actuator (jointNames.get i) = some i.val := by
    rw [SimCore.k1Pair_actuator]
    revert i
    decide +kernel
  have hcopyJnt (i : Fin jointCount) :
      SimCore.k1Pair.name2id .joint (SimCore.extraPrefix 1 ++ jointNames.get i)
        = some (i.val + 24) := by
    rw [SimCore.k1Pair_joint]
    revert i
    decide +kernel
  have hcopyAct (i : Fin jointCount) :
      SimCore.k1Pair.name2id .actuator (SimCore.extraPrefix 1 ++ jointNames.get i)
        = some (i.val + 22) := by
    rw [SimCore.k1Pair_actuator]
    revert i
    decide +kernel
  have hcopyRoot : SimCore.k1Pair.name2id .joint (SimCore.extraPrefix 1 ++ "root") = some 23 := by
    rw [SimCore.k1Pair_joint]
    decide +kernel
  have hmap : ModelMap.build SimCore.k1Pair.toMjModel = .ok pairMap :=
    ModelMap.build_eq_ok hjnt hact hroot
  have hcopies : SimCore.copyMaps SimCore.k1Pair.toMjModel 1 = .ok [pairCopy] := by
    have hcopy : SimCore.copyMap SimCore.k1Pair.toMjModel 1 = .ok pairCopy :=
      SimCore.copyMap_eq_ok hcopyJnt hcopyAct hcopyRoot
    rw [SimCore.copyMaps, hcopy]
    rfl
  exact SimCore.loadModel_eq_ok smallMujoco_documented hmap hcopies

/-- Two passes, a packet and a reset: the game is as it was loaded, the main robot turned by half a
turn. -/
theorem reset_restoresPair :
    ((pairPlant.machine 1).run ⟨pairLoaded, { cfg := {} }⟩
        ([.pass fun _ => 1, .pass fun _ => 0, .packet (SupervisorLogic.packetOf 7 .pickUp), .shove]
          ++ [.reset])).mj = pairLoaded
      ∧ SimCore.Placed pairGame pairPlant.scene
        (SimCore.resetToKey smallMujoco SimCore.k1Pair pairPlant.scene.resetKey
          (smallMujoco.makeData SimCore.k1Pair)).data pairLoaded.data
      ∧ pairLoaded.data.freeQuat 0 = ⟨0, 0, 0, 1⟩ := by
  have hrestores := reset_restoresLoaded (P := pairPlant) smallMujoco_documented pairPlant_loads
    { cfg := {} } 1
    [.pass fun _ => 1, .pass fun _ => 0, .packet (SupervisorLogic.packetOf 7 .pickUp), .shove]
  exact ⟨hrestores.1, hrestores.2 circular_rat.normSq_eq_one SimCore.k1Pair_attached,
    by decide +kernel⟩

end Plant

end K1Sim
