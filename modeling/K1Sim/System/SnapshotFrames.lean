import K1Sim.Simulation.Snapshot
import K1Sim.Supervisor.Frame
import K1Sim.System.ResetRestores

/-!
# System/SnapshotFrames — the frames that a snapshot mixes

A snapshot takes the velocities of the state that a step leaves and the matrix of the orientation
that it started from.  The step turns the base about its own angular velocity, so the two agree on
that velocity, and the angular velocity in the snapshot is the one in the world all the same
(`snapshots_framesTrue`).  The IMU lags a step behind the base.
-/

namespace K1Sim

open Foundations

/-! ## The orientation of the root stays a rotation -/

section Placement

variable {K : Type*} [Field K] [Libc K] {m : MjModel K} {d d' : MjData K} {root bodyId : ℕ}
  {x y z yaw : K}

/-- **A placement of a body leaves a free joint's orientation alone, or makes it a unit.** -/
theorem placeFreeBody_freeQuat (hwf : m.WellFormed) (hlaws : Libc.Circular K)
    (hroot : root < m.njnt) (hfree : m.jntType root = .free)
    (h : placeFreeBody m d bodyId x y z yaw = some d') :
    d'.freeQuat (m.jntQposadr root) = d.freeQuat (m.jntQposadr root)
      ∨ (d'.freeQuat (m.jntQposadr root)).normSq = 1 := by
  obtain ⟨hbody, -⟩ := placeFreeBody_eq_some h
  by_cases hsame : m.bodyJntadr bodyId = root
  · right
    rw [← hsame, (placeFreeBody_pose h).2.1, normSq_yawToQuat hlaws]
  · left
    have hkept (a : ℕ) (ha : a < 7) :
        d'.qpos (m.jntQposadr root + a) = d.qpos (m.jntQposadr root + a) := by
      refine (placeFreeBody_frame h).1 _ fun hp => hsame ?_
      exact hwf.qpos_apart _ _ _ (hwf.bodyJntadr_lt bodyId hbody.1 hbody.2.1) hroot
        (hp.stretch hbody) ⟨a, by rwa [hfree], rfl⟩
    rw [MjData.freeQuat, MjData.freeQuat, hkept 3 (by decide), hkept 4 (by decide),
      hkept 5 (by decide), hkept 6 (by decide)]

end Placement

namespace Plant

variable {K ρ δ : Type*} [Field K]

/-- The orientation of the root. -/
def rootQuat (P : Plant K ρ δ) (d : MjData K) : Quat K := d.freeQuat P.scene.map.rootQposAdr

/-- The angular velocity of the root, in its own frame. -/
def rootRate (P : Plant K ρ δ) (d : MjData K) : Vec3 K := d.freeRate P.scene.map.rootDofAdr

/-- What MuJoCo documents of the plant's root and IMU. -/
structure RootDocumented (P : Plant K ρ δ) (arrays : DerivedArrays K δ) : Prop where
  library : P.lib.Documented
  root : FreeJointDocumented P.lib arrays P.model P.scene.map.rootBodyId P.scene.map.rootQposAdr
    P.scene.map.rootDofAdr
  imu : ImuAligned P.lib P.model P.scene.map

variable {P : Plant K ρ δ} {arrays : DerivedArrays K δ}

section Step

variable (hdoc : P.RootDocumented arrays) {s : MjInstance K ρ δ}
  (hunit : (P.rootQuat s.data).normSq = 1) (ctrl : ℕ → K)

include hdoc hunit

/-- What a pass does to the orientation and the velocity of the root. -/
theorem exists_turn : ∃ r : Quat K, r.normSq = 1
    ∧ mjuRotVecQuat (P.rootRate (P.pass ctrl s).data) r = P.rootRate (P.pass ctrl s).data
    ∧ P.rootQuat (P.pass ctrl s).data = mjuMulQuat (P.rootQuat s.data) r :=
  hdoc.root.turn _ hunit

theorem normSq_rootQuat_pass : (P.rootQuat (P.pass ctrl s).data).normSq = 1 := by
  obtain ⟨r, hr, -, hquat⟩ := exists_turn hdoc hunit ctrl
  rw [hquat, normSq_mulQuat, hr, hunit, mul_one]

/-- The orientation derived is the one that the step starts from. -/
theorem derived_quat :
    (P.lib.bodyPose (P.pass ctrl s).derived P.scene.map.rootBodyId).quat = P.rootQuat s.data := by
  rw [pass, hdoc.library.step_pose]
  exact hdoc.root.orientation _ hunit

/-- The matrix derived is that of the orientation that the step starts from. -/
theorem rootMat_eq (i j : Fin 3) : SimCore.rootMat arrays P.scene.map (P.pass ctrl s) (3 * i + j)
    = (P.rootQuat s.data).toMatrix i j := by
  rw [← derived_quat hdoc hunit ctrl]
  exact hdoc.root.xmat _ i j

/-- **The matrix of the old orientation takes the new angular velocity to the world.** -/
theorem angVel_pass : (SimCore.readBase arrays P.scene.map (P.pass ctrl s)).angVel
    = mjuRotVecQuat (P.rootRate (P.pass ctrl s).data) (P.rootQuat (P.pass ctrl s).data) := by
  obtain ⟨r, hr, haxis, hquat⟩ := exists_turn hdoc hunit ctrl
  have hmat : (SimCore.readBase arrays P.scene.map (P.pass ctrl s)).angVel
      = mjuRotVecQuat (P.rootRate (P.pass ctrl s).data) (P.rootQuat s.data) :=
    mulMatVec3_eq (rootMat_eq hdoc hunit ctrl) _
  rw [hmat, hquat, mjuRotVecQuat_mulQuat hunit hr, haxis]

theorem imuQuat_pass :
    SimCore.imuQuat P.lib P.scene.map (P.pass ctrl s) = P.rootQuat s.data := by
  rw [SimCore.imuQuat]
  split
  case h_1 adr hadr => exact (hdoc.imu.framequat adr hadr _).trans (derived_quat hdoc hunit ctrl)
  case h_2 => exact derived_quat hdoc hunit ctrl

/-- Without a gyro, the world velocity turned back is what a gyro shows. -/
theorem imuGyro_pass : SimCore.imuGyro arrays P.scene.map (P.pass ctrl s) = P.rootRate s.data := by
  rw [SimCore.imuGyro]
  split
  case h_1 adr hadr => exact hdoc.imu.gyro adr hadr _
  case h_2 =>
    have hcvel : vec3At (arrays.cvel (P.pass ctrl s).derived) (6 * P.scene.map.rootBodyId)
        = mjuRotVecQuat (P.rootRate s.data) (P.rootQuat s.data) := by
      rw [← derived_quat hdoc hunit ctrl]
      exact hdoc.root.cvel _
    rw [mulMatTVec3_eq (rootMat_eq hdoc hunit ctrl), hcvel, mjuRotVecQuat_conj hunit]

end Step

/-! ## A run of the simulator -/

variable [Libc K]

/-- **A snapshot is true of the frames**, between the data that the step starts from and the data
that it leaves. -/
structure FramesTrue (P : Plant K ρ δ) (before after : MjData K) (r : Reading K) : Prop where
  unit : r.base.quat.normSq = 1
  /-- The angular velocity is the one of the state, in the world, -/
  angVel : r.base.angVel = mjuRotVecQuat (P.rootRate after) r.base.quat
  /-- and in the twist of `rt/odom` the one of the state, with the error of the estimate on top. -/
  published : ∀ (update : SimStateUpdate K) (est : OdometryModel.Estimate K),
    update.toReading = r → (rosOdometer update est).angular
      = ⟨(P.rootRate after).x, (P.rootRate after).y,
        (P.rootRate after).z + est.velocity 2 - r.base.angVel.z⟩
  /-- The IMU reads the state that the step starts from, -/
  imuQuat : r.imu.quat = P.rootQuat before
  gyro : r.imu.gyro = P.rootRate before
  /-- a turn about the angular velocity behind the base. -/
  lag : ∃ turn : Quat K, turn.normSq = 1
    ∧ mjuRotVecQuat (P.rootRate after) turn = P.rootRate after
    ∧ r.base.quat = mjuMulQuat r.imu.quat turn

variable {P : Plant K ρ δ} {arrays : DerivedArrays K δ} [LinearOrder K]

/-- **A snapshot after a step from a rotation is true of the frames.** -/
theorem framesTrue_pass [Arcsine K] (hdoc : P.RootDocumented arrays) {s : MjInstance K ρ δ}
    (hunit : (P.rootQuat s.data).normSq = 1) (ctrl : ℕ → K) (optGravity : Vec3 K)
    (headBodyId : Option ℕ) (controller : Option ControllerReport) (measuredRtf : K) :
    P.FramesTrue s.data (P.pass ctrl s).data (SimCore.readState P.lib arrays optGravity
      P.scene.map headBodyId controller measuredRtf (P.pass ctrl s)) := by
  have hafter := normSq_rootQuat_pass hdoc hunit ctrl
  have hangVel := angVel_pass hdoc hunit ctrl
  have himu := imuQuat_pass hdoc hunit ctrl
  refine ⟨hafter, hangVel, fun update est hread => ?_, himu, imuGyro_pass hdoc hunit ctrl, ?_⟩
  · have hbody : worldToBody update.base.quat update.base.angVel
        = P.rootRate (P.pass ctrl s).data := by
      have hbase : update.base = SimCore.readBase arrays P.scene.map (P.pass ctrl s) :=
        congrArg Reading.base hread
      rw [worldToBody_eq, hbase, hangVel]
      exact mjuRotVecQuat_conj hafter _
    rw [← hbody, ← hread]
    rfl
  · obtain ⟨r, hr, haxis, hquat⟩ := exists_turn hdoc hunit ctrl
    refine ⟨r, hr, haxis, ?_⟩
    change P.rootQuat (P.pass ctrl s).data = mjuMulQuat (SimCore.imuQuat P.lib P.scene.map _) r
    rw [himu, hquat]

/-- Every snapshot that a pass of the physics loop can make is true of the frames. -/
def SnapshotsTrue [Arcsine K] (P : Plant K ρ δ) (arrays : DerivedArrays K δ)
    (s : SimData K ρ δ)
    (e : SimAccess K ρ) : Prop :=
  ∀ ctrl, e = .pass ctrl → ∀ optGravity headBodyId controller measuredRtf,
    P.FramesTrue s.mj.data (P.pass ctrl s.mj).data (SimCore.readState P.lib arrays optGravity
      P.scene.map headBodyId controller measuredRtf (P.pass ctrl s.mj))

section Run

variable (hdoc : P.RootDocumented arrays) (hlaws : Libc.Circular K)
  (hattached : SimCore.RobotsAttached P.model.toMjModel) (hwf : P.model.toMjModel.WellFormed)
  {loaded : MjInstance K ρ δ}
  (hload : SimCore.loadModel P.lib P.model P.cfg = .ok (P.scene, loaded))
  (hkey : (P.rootQuat (SimCore.resetToKey P.lib P.model P.scene.resetKey
    (P.lib.makeData P.model)).data).normSq = 1)

include hdoc hlaws hattached hload hkey

/-- Placing the robots keeps the norm that the keyframe has. -/
theorem normSq_rootQuat_loaded : (P.rootQuat loaded.data).normSq = 1 := by
  obtain ⟨hmap, hcopies, -, -⟩ := SimCore.of_loadModel hload
  have hplaced : SimCore.Placed P.cfg P.scene _ _ := SimCore.placeRobots_placed hattached
    hlaws.normSq_eq_one hmap hcopies
    (SimCore.resetToKey P.lib P.model P.scene.resetKey (P.lib.makeData P.model)).data
  rw [← SimCore.resetMjData_eq_of_loadModel hdoc.library hload (P.lib.makeData P.model), rootQuat,
    MjData.freeQuat, SimCore.resetMjData, hdoc.library.forward_qpos]
  exact hplaced.norm.trans hkey

include hwf

/-- **The orientation of the root stays a rotation**, whatever the modules do to the data. -/
theorem normSq_rootQuat_next (s : SimData K ρ δ) (e : SimAccess K ρ)
    (hunit : (P.rootQuat s.mj.data).normSq = 1) : (P.rootQuat (P.next s e).mj.data).normSq = 1 := by
  cases e with
  | pass ctrl => exact normSq_rootQuat_pass hdoc hunit ctrl
  | reset =>
    change (P.rootQuat (SimCore.resetMjData _ _ _ _ _).data).normSq = 1
    rw [SimCore.resetMjData_eq_of_loadModel hdoc.library hload]
    exact normSq_rootQuat_loaded hdoc hlaws hattached hload hkey
  | packet pkt =>
    obtain ⟨root, hfree, hadr, -⟩ := ModelMap.exists_freeRoot (SimCore.of_loadModel hload).1
    have hroot := ModelMap.isRoot_of_freeRoot hfree
    refine SupervisorLogic.process_data_induction
      (P := fun d => (P.rootQuat d).normSq = 1) ?_ hunit
    rintro b x y z yaw d d' - hplace hd
    have hquat := placeFreeBody_freeQuat hwf hlaws hroot.lt hroot.free hplace
    rw [← hadr] at hquat
    exact hquat.elim (fun hsame => (congrArg Quat.normSq hsame).trans hd) id
  | shove =>
    have hqpos := Viewer.shove_qpos P.model.toMjModel s.mj.data
    change (MjData.freeQuat (Viewer.shove _ _) _).normSq = 1
    rw [MjData.freeQuat, hqpos]
    exact hunit
  | drag rest => exact hunit
  | frame => exact hunit

/-- **Every snapshot of every run is true of the frames**, whatever the controllers, the supervisor,
the viewer and the resets do in between. -/
theorem snapshots_framesTrue [Arcsine K] (logic : SupervisorLogic K) (headBodyId : ℕ)
    (es : List (SimAccess K ρ)) :
    (P.machine headBodyId).Always (P.SnapshotsTrue arrays) ⟨loaded, logic⟩ es := by
  refine (P.machine headBodyId).always_of_invariant ?_
    (normSq_rootQuat_next hdoc hlaws hattached hwf hload hkey) es _
    (normSq_rootQuat_loaded hdoc hlaws hattached hload hkey)
  rintro s _ hunit ctrl rfl optGravity head controller measuredRtf
  exact framesTrue_pass hdoc hunit ctrl optGravity head controller measuredRtf

end Run

/-! ## A turning robot -/

/-- The turn about a vector that is taken for the turn by it. -/
def cayley (v : Vec3 ℚ) : Quat ℚ :=
  let n := v.x * v.x + v.y * v.y + v.z * v.z
  ⟨(1 - n) / (1 + n), 2 * v.x / (1 + n), 2 * v.y / (1 + n), 2 * v.z / (1 + n)⟩

theorem normSq_cayley (v : Vec3 ℚ) : (cayley v).normSq = 1 := by
  have hpos : 0 < 1 + (v.x * v.x + v.y * v.y + v.z * v.z) := by
    linarith [mul_self_nonneg v.x, mul_self_nonneg v.y, mul_self_nonneg v.z]
  rw [Quat.normSq, cayley]
  field_simp
  ring

theorem mjuRotVecQuat_cayley (v : Vec3 ℚ) : mjuRotVecQuat v (cayley v) = v := by
  simp only [mjuRotVecQuat, cayley, Vec3.cross]
  exact Vec3.mk.injEq .. |>.mpr ⟨by ring, by ring, by ring⟩

/-- The pose of a body, which is that of the first free joint. -/
def firstPose (qpos : ℕ → ℚ) : BodyPose ℚ := ⟨vec3At qpos 0, quatAt qpos 3⟩

/-- A library in which a step turns the first free joint by its angular velocity. -/
def turningMujoco : MujocoLibrary ℚ Unit (MjData ℚ) :=
  let zero : MjData ℚ := ⟨0, fun _ => 0, fun _ => 0, fun _ => 0, fun _ => 0⟩
  { makeData _ := ⟨zero, (), zero⟩
    resetData _ _ := ⟨zero, (), zero⟩
    resetDataKeyframe m _ key :=
      ⟨{ zero with qpos := fun i => m.keyQpos (key * m.nq + i) }, (), zero⟩
    forward _ s := { s with derived := s.data }
    step m s :=
      let q := mjuMulQuat (s.data.freeQuat 0) (cayley (s.data.freeRate 0))
      { s with
        data := { s.data with
          time := s.data.time + m.optTimestep
          qpos := writeAll (fun i : Fin 4 => 3 + i.val) ![q.w, q.x, q.y, q.z] (List.finRange 4)
            s.data.qpos }
        derived := s.data }
    bodyPose d _ := firstPose d.qpos
    kinematics _ qpos _ := firstPose qpos }

/-- The arrays that it derives. -/
def turningArrays : DerivedArrays ℚ (MjData ℚ) where
  xmat d k :=
    (d.freeQuat 0).toMatrix ⟨k % 9 / 3, Nat.div_lt_of_lt_mul (Nat.mod_lt k (by decide))⟩
      ⟨k % 3, Nat.mod_lt k (by decide)⟩
  cvel d k :=
    let v := mjuRotVecQuat (d.freeRate 0) (d.freeQuat 0)
    if k % 6 = 0 then v.x else if k % 6 = 1 then v.y else v.z
  qacc _ _ := 0
  actuatorForce _ _ := 0

theorem turningMujoco_documented : turningMujoco.Documented :=
  ⟨fun _ _ => rfl, fun _ _ _ _ => rfl, fun _ _ => rfl, fun _ _ => rfl, fun _ _ _ => rfl,
    fun _ _ _ => rfl⟩

theorem turningMujoco_freeJoint (m : SceneModel ℚ) (b : ℕ) :
    FreeJointDocumented turningMujoco turningArrays m b 0 0 where
  orientation _ _ := rfl
  xmat s i j := by
    have hi := i.isLt
    have hj := j.isLt
    have hrow : (9 * b + (3 * i.val + j.val)) % 9 / 3 = i.val := by omega
    have hcolumn : (9 * b + (3 * i.val + j.val)) % 3 = j.val := by omega
    exact congrArg₂ (s.data.freeQuat 0).toMatrix (Fin.ext hrow) (Fin.ext hcolumn)
  cvel s := by
    have hx : 6 * b % 6 = 0 := by omega
    have hy : (6 * b + 1) % 6 = 1 := by omega
    have hz : (6 * b + 2) % 6 = 2 := by omega
    simp [vec3At, turningArrays, hx, hy, hz]
    rfl
  turn s _ := ⟨cayley (s.data.freeRate 0), normSq_cayley _, mjuRotVecQuat_cayley _, rfl⟩

theorem k1Pair_wellFormed : SimCore.k1Pair.toMjModel.WellFormed := by
  refine ⟨SimCore.k1Pair_attached.qpos_apart, SimCore.k1Pair_attached.dof_apart, ?_, ?_⟩
  · intro b hb hone
    simp only [SimCore.k1Pair] at hb hone ⊢
    split_ifs <;> decide
  · intro b hb hone
    simp only [SimCore.k1Pair] at hb hone ⊢
    split_ifs at * <;> omega

/-- The game of one robot a side, in this library. -/
def turningPlant : Plant ℚ Unit (MjData ℚ) := { pairPlant with lib := turningMujoco }

/-- The data of the game, loaded. -/
def turningLoaded : MjInstance ℚ Unit (MjData ℚ) :=
  SimCore.resetMjData turningMujoco SimCore.k1Pair pairGame pairPlant.scene
    (turningMujoco.makeData SimCore.k1Pair)

theorem turningPlant_loads : SimCore.loadModel turningMujoco SimCore.k1Pair pairGame
    = .ok (pairPlant.scene, turningLoaded) := by
  obtain ⟨hmap, hcopies, -, -⟩ := SimCore.of_loadModel pairPlant_loads
  exact SimCore.loadModel_eq_ok turningMujoco_documented hmap hcopies

theorem turningPlant_documented : turningPlant.RootDocumented turningArrays where
  library := turningMujoco_documented
  root := turningMujoco_freeJoint _ _
  imu := ⟨fun adr h => absurd h (Option.not_mem_none adr),
    fun adr h => absurd h (Option.not_mem_none adr)⟩

/-- A robot shoved, which turns from one snapshot to the next, and put back. -/
theorem snapshots_framesTrue_shoved :
    (turningPlant.machine 1).Always (turningPlant.SnapshotsTrue turningArrays)
      ⟨turningLoaded, { cfg := {} }⟩
      [.pass fun _ => 0, .shove, .pass fun _ => 0, .pass fun _ => 0,
        .packet (SupervisorLogic.packetOf 7 .pickUp), .reset, .pass fun _ => 1] :=
  snapshots_framesTrue turningPlant_documented circular_rat SimCore.k1Pair_attached
    k1Pair_wellFormed turningPlant_loads (by decide +kernel) _ _ _

end Plant

end K1Sim
