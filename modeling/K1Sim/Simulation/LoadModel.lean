import K1Sim.Shared.Libc
import K1Sim.Shared.MujocoLibrary
import K1Sim.Simulation.PhysicsLoop
import Mathlib.Data.Fin.VecNotation

/-!
# Simulation/LoadModel — loading a scene, placing its robots and resetting it

`loadModel` and `reset` both put the data into a keyframe and then place the robots.  The data they
leave is one and the same (`resetMjData_eq_of_loadModel`).
-/

namespace K1Sim

open Foundations

/-- A spawn of a game: position and yaw. -/
structure Spawn (K : Type*) where
  x : K
  y : K
  yaw : K

/-- A standing pose: position and yaw. -/
structure SpawnPose (K : Type*) where
  x : K
  y : K
  z : K
  yaw : K

namespace SimCore

/-- `SimCore::Config`, as far as loading and resetting read it. -/
structure Config (K : Type*) where
  initialKeyframe : String := "ready"
  robots : ℤ := 1
  spawns : List (Spawn K) := []
  readyPoseFallback : JointArray K

/-- The part of a `ModelMap` that a copy of the robot has. -/
structure CopyMap where
  qposAdr : Fin jointCount → ℕ
  dofAdr : Fin jointCount → ℕ
  actId : Fin jointCount → ℕ
  rootQposAdr : ℕ
  rootDofAdr : ℕ

/-- What `load_model` works out beside the data. -/
structure Scene (K : Type*) where
  map : ModelMap
  copies : List CopyMap
  resetKey : Option ℕ
  readyTarget : JointArray K

variable {K : Type*}

/-- `extra_prefix`: the conversion `sub%02d_`. -/
def extraPrefix (k : ℕ) : String :=
  let digits := toString k
  "sub" ++ (String.ofList (List.replicate (2 - digits.length) '0') ++ digits) ++ "_"

/-- The index map of the `k`-th copy of the robot. -/
def copyMap (m : MjModel K) (k : ℕ) : Except String CopyMap :=
  let name (i : Fin jointCount) : String := extraPrefix k ++ jointNames.get i
  let missing (i : Fin jointCount) : Bool :=
    (m.name2id .joint (name i)).isNone || (m.name2id .actuator (name i)).isNone
  match (List.finRange jointCount).find? missing with
  | some i => .error ("multi-robot scene is missing joint/actuator '" ++ name i ++ "'")
  | none =>
    let jnt (i : Fin jointCount) : ℕ := (m.name2id .joint (name i)).getD 0
    match m.name2id .joint (extraPrefix k ++ "root") with
    | none => .error ("multi-robot scene is missing free joint '" ++ extraPrefix k ++ "root" ++ "'")
    | some root =>
      .ok
        { qposAdr := fun i => m.jntQposadr (jnt i)
          dofAdr := fun i => m.jntDofadr (jnt i)
          actId := fun i => (m.name2id .actuator (name i)).getD 0
          rootQposAdr := m.jntQposadr root
          rootDofAdr := m.jntDofadr root }

/-- A model that names all joints and actuators of a copy has a map of it. -/
theorem copyMap_eq_ok {m : MjModel K} {k root : ℕ} {jnt act : Fin jointCount → ℕ}
    (hjnt : ∀ i, m.name2id .joint (extraPrefix k ++ jointNames.get i) = some (jnt i))
    (hact : ∀ i, m.name2id .actuator (extraPrefix k ++ jointNames.get i) = some (act i))
    (hroot : m.name2id .joint (extraPrefix k ++ "root") = some root) :
    copyMap m k = .ok
      { qposAdr := fun i => m.jntQposadr (jnt i)
        dofAdr := fun i => m.jntDofadr (jnt i)
        actId := act
        rootQposAdr := m.jntQposadr root
        rootDofAdr := m.jntDofadr root } := by
  simp only [copyMap, hjnt, hact, hroot, Option.isNone_some, Bool.or_self, Option.getD_some]
  rfl

/-- The index maps of the copies `1` to `n`. -/
def copyMaps (m : MjModel K) : ℕ → Except String (List CopyMap)
  | 0 => .ok []
  | n + 1 => do
    let maps ← copyMaps m n
    let map ← copyMap m (n + 1)
    return maps ++ [map]

/-- The keyframe to spawn in: the one asked for, or else "ready". -/
def spawnKey (m : MjModel K) (cfg : Config K) : Option ℕ :=
  match m.name2id .key cfg.initialKeyframe with
  | some key => some key
  | none => if cfg.initialKeyframe ≠ "ready" then m.name2id .key "ready" else none

/-- `ready_target_`: the joints of the "ready" keyframe, or the configured pose. -/
def readyTarget (m : SceneModel K) (map : ModelMap) (cfg : Config K) : JointArray K :=
  match m.name2id .key "ready" with
  | some key => fun i => m.keyQpos (key * m.nq + map.qposAdr i)
  | none => cfg.readyPoseFallback

/-! ## Placing the robots -/

section Placing

variable [Field K]

/-- `STAND_Z`. -/
def standZ : K := 555 / 1000

/-- `extra_spawn`: the slots of the copies, from `1` on. -/
def extraSpawn (k : ℕ) : Vec3 K :=
  let col := (k - 1) % 5
  let row := (k - 1) / 5
  ⟨-3 + 3 / 2 * col, (if row % 2 = 0 then 1 else -1) * (6 / 5 + 6 / 5 * (row / 2 : ℕ)), standZ⟩

/-- `spawn_pose`: of the game, or of the default grid. -/
def spawnPose (cfg : Config K) (k : ℕ) : SpawnPose K :=
  if cfg.spawns ≠ [] then
    let s := cfg.spawns.getD k ⟨0, 0, 0⟩
    ⟨s.x, s.y, standZ, s.yaw⟩
  else
    let pos : Vec3 K := extraSpawn k
    ⟨pos.x, pos.y, pos.z, 0⟩

variable [Libc K]

/-- The quaternion of a yaw. -/
def yawQuat (yaw : K) : Quat K := ⟨Libc.cos (yaw / 2), 0, 0, Libc.sin (yaw / 2)⟩

/-- The main robot moved to its spawn and turned by its yaw, at the height and tilt it has. -/
def placeMain (cfg : Config K) (map : ModelMap) (d : MjData K) : MjData K :=
  let pose := spawnPose cfg 0
  let root := map.rootQposAdr
  let c := Libc.cos (pose.yaw / 2)
  let s := Libc.sin (pose.yaw / 2)
  let q := d.freeQuat root
  { d with
    qpos := writeAll (fun i : Fin 6 => root + ![0, 1, 3, 4, 5, 6] i)
      ![pose.x, pose.y, c * q.w - s * q.z, c * q.x - s * q.y, c * q.y + s * q.x, c * q.z + s * q.w]
      (List.finRange 6) d.qpos }

omit [Libc K] in
/-- `place_ball_on_centre_mark`. -/
def placeBallOnCentreMark (m : MjModel K) (d : MjData K) : MjData K :=
  match m.name2id .joint "ball_free", m.name2id .geom "ball" with
  | some joint, some geom =>
    { d with qpos := Function.update d.qpos (m.jntQposadr joint) (-m.geomPos (3 * geom)) }
  | _, _ => d

/-- A copy of the robot at its slot, in the ready pose and at rest. -/
def placeCopy (cfg : Config K) (ready : JointArray K) (d : MjData K) (entry : CopyMap × ℕ) :
    MjData K :=
  let em := entry.1
  let pose := spawnPose cfg (entry.2 + 1)
  let q : Quat K := yawQuat pose.yaw
  { d with
    qpos := writeAll em.qposAdr ready (List.finRange jointCount)
      (writeAll (fun i : Fin 7 => em.rootQposAdr + i)
        ![pose.x, pose.y, pose.z, q.w, q.x, q.y, q.z] (List.finRange 7) d.qpos)
    qvel := writeAll em.dofAdr (fun _ => 0) (List.finRange jointCount)
      (writeAll (fun i : Fin 6 => em.rootDofAdr + i) (fun _ => 0) (List.finRange 6) d.qvel) }

/-- `place_robots`. -/
def placeRobots (m : MjModel K) (cfg : Config K) (scene : Scene K) (d : MjData K) : MjData K :=
  let d := if cfg.spawns ≠ [] then placeBallOnCentreMark m (placeMain cfg scene.map d) else d
  scene.copies.zipIdx.foldl (placeCopy cfg scene.readyTarget) d

/-! ## Load and reset -/

variable [LT K] [DecidableLT K] {ρ δ : Type*} (lib : MujocoLibrary K ρ δ)

/-- What a reset does to the data before the robots are placed. -/
def resetToKey (m : SceneModel K) (key : Option ℕ) (s : MjInstance K ρ δ) : MjInstance K ρ δ :=
  match key with
  | some key => lib.resetDataKeyframe m s key
  | none => lib.resetData m s

/-- `SimCore::reset`, of the whole `mjData`. -/
def resetMjData (m : SceneModel K) (cfg : Config K) (scene : Scene K) (s : MjInstance K ρ δ) :
    MjInstance K ρ δ :=
  let s := resetToKey lib m scene.resetKey s
  lib.forward m { s with data := placeRobots m.toMjModel cfg scene s.data }

/-- `load_model`, once the model is read: the scene and the data. -/
def loadModel (m : SceneModel K) (cfg : Config K) : Except String (Scene K × MjInstance K ρ δ) :=
  match ModelMap.build m.toMjModel, copyMaps m.toMjModel (cfg.robots.toNat - 1) with
  | .error what, _ => .error what
  | _, .error what => .error what
  | .ok map, .ok copies =>
    let scene : Scene K :=
      { map := map
        copies := copies
        resetKey := spawnKey m.toMjModel cfg
        readyTarget := readyTarget m map cfg }
    let s := lib.makeData m
    let s := match scene.resetKey with
      | some key => lib.resetDataKeyframe m s key
      | none => s
    .ok (scene, lib.forward m { s with data := placeRobots m.toMjModel cfg scene s.data })

variable {lib} {m : SceneModel K} {cfg : Config K} {scene : Scene K} {loaded : MjInstance K ρ δ}

/-- The parts of a loaded scene. -/
theorem of_loadModel (hload : loadModel lib m cfg = .ok (scene, loaded)) :
    ModelMap.build m.toMjModel = .ok scene.map
      ∧ copyMaps m.toMjModel (cfg.robots.toNat - 1) = .ok scene.copies
      ∧ scene.resetKey = spawnKey m.toMjModel cfg
      ∧ scene.readyTarget = readyTarget m scene.map cfg := by
  rw [loadModel] at hload
  split at hload
  case h_1 => exact nomatch hload
  case h_2 => exact nomatch hload
  case h_3 map copies hmap hcopies =>
    obtain ⟨rfl, -⟩ := Prod.mk.inj (Except.ok.inj hload)
    exact ⟨hmap, hcopies, rfl, rfl⟩

/-- **Reset and load leave the same data**, whatever the data before the reset. -/
theorem resetMjData_eq_of_loadModel (hlib : lib.Documented)
    (hload : loadModel lib m cfg = .ok (scene, loaded)) (s : MjInstance K ρ δ) :
    resetMjData lib m cfg scene s = loaded := by
  have hstart : resetToKey lib m scene.resetKey s
      = match scene.resetKey with
        | some key => lib.resetDataKeyframe m (lib.makeData m) key
        | none => lib.makeData m := by
    rcases scene.resetKey with - | key
    case none => exact hlib.resetData m s
    case some => exact hlib.resetDataKeyframe m s _ key
  rw [resetMjData, hstart]
  rw [loadModel] at hload
  split at hload
  case h_1 => exact nomatch hload
  case h_2 => exact nomatch hload
  case h_3 map copies hmap hcopies =>
    obtain ⟨rfl, rfl⟩ := Prod.mk.inj (Except.ok.inj hload)
    rfl

/-- A model whose map and copies are found loads, into the data that a reset would leave. -/
theorem loadModel_eq_ok (hlib : lib.Documented) {map : ModelMap} {copies : List CopyMap}
    (hmap : ModelMap.build m.toMjModel = .ok map)
    (hcopies : copyMaps m.toMjModel (cfg.robots.toNat - 1) = .ok copies) :
    let scene : Scene K := ⟨map, copies, spawnKey m.toMjModel cfg, readyTarget m map cfg⟩
    loadModel lib m cfg = .ok (scene, resetMjData lib m cfg scene (lib.makeData m)) := by
  intro scene
  have hload : loadModel lib m cfg = .ok (scene,
      let s := match scene.resetKey with
        | some key => lib.resetDataKeyframe m (lib.makeData m) key
        | none => lib.makeData m
      lib.forward m { s with data := placeRobots m.toMjModel cfg scene s.data }) := by
    rw [loadModel, hmap, hcopies]
  rw [hload, resetMjData_eq_of_loadModel hlib hload]

end Placing

end SimCore

end K1Sim
