import K1Sim.System.ResetRestores

/-!
# System/MainRobot — which free joint the modules take for the robot's

`ModelMap` searches the joints for the free one that carries most, the camera reads the base at the
start of `qpos`, the shove key kicks joint `0`.  `agreeOnRoot_iff` says for which models the three
mean one joint.
-/

namespace K1Sim

open Foundations

/-- The first joint is free, and no free joint carries more. -/
def MjModel.FirstHeaviest {K : Type*} [LE K] (m : MjModel K) : Prop :=
  m.jntType 0 = .free ∧ ∀ j < m.njnt, m.jntType j = .free →
    m.bodySubtreemass (m.jntBodyid j) ≤ m.bodySubtreemass (m.jntBodyid 0)

namespace ModelMap

variable {K : Type*} [LinearOrder K] {m : MjModel K} {root : ℕ}

/-- **The root is the first joint exactly when that one is free and carries most.** -/
theorem root_eq_zero_iff (hroot : IsRoot m m.njnt root) : root = 0 ↔ m.FirstHeaviest := by
  constructor
  · rintro rfl
    exact ⟨hroot.free, hroot.heaviest⟩
  · rintro ⟨hfree, hheaviest⟩
    by_contra hne
    have hlighter := hroot.first 0 (Nat.pos_of_ne_zero hne) hfree
    exact absurd (hheaviest root hroot.lt hroot.free) (not_le_of_gt hlighter)

end ModelMap

namespace Plant

variable {K ρ δ : Type*} [Field K] [Libc K] [LinearOrder K]

/-- **The modules agree on the robot's root**: it is the one that the map was built for, the one
whose positions start `qpos`, where the camera reads the base, and the one that the shove key kicks;
and the camera's head pose is the snapshot's, in every state. -/
structure AgreeOnRoot (P : Plant K ρ δ) : Prop where
  root : ∃ root, ModelMap.freeRoot P.model.toMjModel = some root
    ∧ P.scene.map.rootQposAdr = P.model.jntQposadr root ∧ P.model.jntQposadr root = 0
    ∧ Viewer.kickedJoint P.model.toMjModel = some root
  head : ∀ headBodyId s, headInFootprint (P.readHead headBodyId 0 s)
    = headInFootprint (P.readHead headBodyId P.scene.map.rootQposAdr s)

/-- **The modules agree on the root exactly in the models whose first joint is free and carries
most**, the positions of the first joint being the first. -/
theorem agreeOnRoot_iff {P : Plant K ρ δ} {loaded : MjInstance K ρ δ}
    (hload : SimCore.loadModel P.lib P.model P.cfg = .ok (P.scene, loaded))
    (hfirst : P.model.jntQposadr 0 = 0) : P.AgreeOnRoot ↔ P.model.toMjModel.FirstHeaviest := by
  obtain ⟨hmap, -⟩ := SimCore.of_loadModel hload
  obtain ⟨root, hfree, hadr, -⟩ := ModelMap.exists_freeRoot hmap
  have hroot := ModelMap.isRoot_of_freeRoot hfree
  rw [← ModelMap.root_eq_zero_iff hroot]
  constructor
  · rintro ⟨⟨root', hfree', -, -, hkicked⟩, -⟩
    obtain rfl := Option.some.inj (hfree.symm.trans hfree')
    rw [Viewer.kickedJoint] at hkicked
    split_ifs at hkicked
    exact (Option.some.inj hkicked).symm
  · rintro rfl
    refine ⟨⟨0, hfree, hadr, hfirst, if_pos ⟨hroot.lt, hroot.free⟩⟩, fun headBodyId s => ?_⟩
    rw [hadr, hfirst]

/-! ## A field that declares its ball first -/

/-- The joints of a scene with the ball before the robot. -/
def ballFirstJoints : List String := "ball_free" :: "root" :: jointNames.toList

/-- A K1 in a scene that declares its ball first. -/
def ballFirst : SceneModel ℚ where
  optTimestep := 1
  nbody := 3
  njnt := 2 + jointCount
  ngeom := 1
  bodyJntnum b := if b = 0 then 0 else 1
  bodyJntadr b := b - 1
  bodySubtreemass b := if b = 1 then 1 / 5 else 20
  jntType j := if j < 2 then .free else .hinge
  jntBodyid j := if j = 0 then 1 else 2
  jntQposadr j := if j < 2 then 7 * j else 12 + j
  jntDofadr j := if j < 2 then 6 * j else 10 + j
  geomBodyid _ := 1
  geomPos _ := 0
  geomSize _ := 1 / 10
  actuatorForcelimited _ := false
  actuatorForcerange _ := 0
  sensorAdr _ := 0
  name2id
    | .joint, name => ballFirstJoints.idxOf? name
    | .actuator, name => jointNamed name
    | .geom, name => ["ball"].idxOf? name
    | _, _ => none
  name2id_inj := by
    intro t s s' i h h'
    cases t with
    | joint | actuator | geom => exact idxOf?_inj h h'
    | _ => exact absurd h (by simp)
  nq := 36
  keyQpos _ := 0

theorem ballFirst_joint (name : String) :
    ballFirst.name2id .joint name = ballFirstJoints.idxOf? name := rfl

/-- The map of its robot. -/
def ballFirstMap : ModelMap where
  qposAdr i := ballFirst.jntQposadr (i + 2)
  dofAdr i := ballFirst.jntDofadr (i + 2)
  actId i := i
  rootQposAdr := 7
  rootDofAdr := 6
  rootBodyId := 2
  imuSiteId := none
  sensQuat := none
  sensGyro := none
  sensAcc := none
  sensLinvel := none

theorem ballFirst_root : ModelMap.freeRoot ballFirst.toMjModel = some 1 := by decide +kernel

theorem ballFirst_map : ModelMap.build ballFirst.toMjModel = .ok ballFirstMap := by
  have hjnt (i : Fin jointCount) :
      ballFirst.name2id .joint (jointNames.get i) = some (i.val + 2) := by
    rw [ballFirst_joint]
    revert i
    decide +kernel
  exact ModelMap.build_eq_ok hjnt jointNamed_get ballFirst_root

/-- The scene, loaded with one robot. -/
def ballFirstPlant : Plant ℚ Unit (ℕ → ℚ) where
  lib := smallMujoco
  model := ballFirst
  cfg := { readyPoseFallback := fun _ => 0 }
  scene :=
    ⟨ballFirstMap, [], SimCore.spawnKey ballFirst.toMjModel { readyPoseFallback := fun _ => 0 },
      SimCore.readyTarget ballFirst ballFirstMap { readyPoseFallback := fun _ => 0 }⟩

/-- The scene loads, and the camera and the shove key take the ball for the robot. -/
theorem ballFirst_not_agreeOnRoot :
    (∃ loaded, SimCore.loadModel ballFirstPlant.lib ballFirstPlant.model ballFirstPlant.cfg
      = .ok (ballFirstPlant.scene, loaded)) ∧ ¬ ballFirstPlant.AgreeOnRoot := by
  refine ⟨⟨_, SimCore.loadModel_eq_ok smallMujoco_documented ballFirst_map rfl⟩, ?_⟩
  rintro ⟨⟨root, hfree, -, hzero, -⟩, -⟩
  obtain rfl := Option.some.inj (ballFirst_root.symm.trans hfree)
  exact absurd hzero (by decide)

/-- In the pair the first joint is the main robot's. -/
theorem pairPlant_agreeOnRoot : pairPlant.AgreeOnRoot := by
  refine (agreeOnRoot_iff pairPlant_loads rfl).mpr ⟨rfl, ?_⟩
  intro j _ _
  exact le_rfl

end Plant

end K1Sim
