import K1Sim.Foundations.Clamp
import K1Sim.Foundations.Writes
import K1Sim.Shared.Mujoco
import Mathlib.Data.Fintype.Fin
import Mathlib.Data.List.FinRange
import Mathlib.Order.Defs.LinearOrder

/-!
# Shared/ModelMap — the K1's joints in a loaded model, and the PD servo over them

`ModelMap.build` resolves the frozen joint order of `JointIndexK1` against a model; a `LoadedModel`
carries the proof that it succeeded, which is what `SimCore::load_model` insists on before the
physics thread starts.  `PdController.apply` writes one control per joint.
-/

namespace K1Sim

open Foundations

/-- `JOINT_COUNT`. -/
abbrev jointCount : ℕ := 22

/-- One entry per joint, in `JointIndexK1` order. -/
abbrev JointArray (K : Type*) := Fin jointCount → K

namespace JointIndexK1

/-- `HeadYaw`. -/
abbrev headYaw : Fin jointCount := 0

/-- `HeadPitch`. -/
abbrev headPitch : Fin jointCount := 1

/-- `LeftHipPitch`, the first leg joint. -/
abbrev leftHipPitch : Fin jointCount := 10

end JointIndexK1

/-- A joint of the head: what a head target may overwrite. -/
abbrev IsHeadJoint (i : Fin jointCount) : Prop :=
  i = JointIndexK1.headYaw ∨ i = JointIndexK1.headPitch

/-- `JOINT_NAMES`: the joint and actuator names of the K1, in `JointIndexK1` order. -/
def jointNames : Vector String jointCount :=
  #v["AAHead_yaw", "Head_pitch", "ALeft_Shoulder_Pitch", "Left_Shoulder_Roll",
    "Left_Elbow_Pitch", "Left_Elbow_Yaw", "ARight_Shoulder_Pitch", "Right_Shoulder_Roll",
    "Right_Elbow_Pitch", "Right_Elbow_Yaw", "Left_Hip_Pitch", "Left_Hip_Roll",
    "Left_Hip_Yaw", "Left_Knee_Pitch", "Left_Ankle_Pitch", "Left_Ankle_Roll",
    "Right_Hip_Pitch", "Right_Hip_Roll", "Right_Hip_Yaw", "Right_Knee_Pitch",
    "Right_Ankle_Pitch", "Right_Ankle_Roll"]

theorem jointNames_injective : Function.Injective jointNames.get := by
  intro i j
  revert i j
  decide +kernel

/-! ## The map -/

/-- `ModelMap`: where each joint, the root free joint and the IMU sensors live. -/
structure ModelMap where
  qposAdr : Fin jointCount → ℕ
  dofAdr : Fin jointCount → ℕ
  actId : Fin jointCount → ℕ
  rootQposAdr : ℕ
  rootDofAdr : ℕ
  rootBodyId : ℕ
  imuSiteId : Option ℕ
  sensQuat : Option ℕ
  sensGyro : Option ℕ
  sensAcc : Option ℕ
  sensLinvel : Option ℕ

namespace ModelMap

variable {K : Type*}

/-- The body of the loop for the root. -/
def pickRoot [LT K] [DecidableLT K] (m : MjModel K) (root : Option ℕ) (j : ℕ) : Option ℕ :=
  if m.jntType j = .free then
    match root with
    | none => some j
    | some r =>
      if m.bodySubtreemass (m.jntBodyid r) < m.bodySubtreemass (m.jntBodyid j) then some j
      else some r
  else root

/-- The root: the free joint whose body carries the greatest subtree mass, the first among
equals. -/
def freeRoot [LT K] [DecidableLT K] (m : MjModel K) : Option ℕ :=
  (List.range m.njnt).foldl (pickRoot m) none

/-- Of the first `n` joints, `root` is a free one, none of the free ones is heavier, and those
before it are lighter. -/
structure IsRoot [LinearOrder K] (m : MjModel K) (n root : ℕ) : Prop where
  lt : root < n
  free : m.jntType root = .free
  heaviest : ∀ j < n, m.jntType j = .free →
    m.bodySubtreemass (m.jntBodyid j) ≤ m.bodySubtreemass (m.jntBodyid root)
  first : ∀ j < root, m.jntType j = .free →
    m.bodySubtreemass (m.jntBodyid j) < m.bodySubtreemass (m.jntBodyid root)

/-- One more joint, which is not free. -/
theorem IsRoot.succ_of_not_free [LinearOrder K] {m : MjModel K} {n root : ℕ} (h : IsRoot m n root)
    (hn : m.jntType n ≠ .free) : IsRoot m (n + 1) root := by
  refine ⟨Nat.lt_succ_of_lt h.lt, h.free, fun j hj hfree => ?_, h.first⟩
  refine h.heaviest j (lt_of_le_of_ne (Nat.le_of_lt_succ hj) fun heq => ?_) hfree
  exact hn (heq ▸ hfree)

/-- One more joint, which is not heavier. -/
theorem IsRoot.succ_of_le [LinearOrder K] {m : MjModel K} {n root : ℕ} (h : IsRoot m n root)
    (hn : m.bodySubtreemass (m.jntBodyid n) ≤ m.bodySubtreemass (m.jntBodyid root)) :
    IsRoot m (n + 1) root := by
  refine ⟨Nat.lt_succ_of_lt h.lt, h.free, fun j hj hfree => ?_, h.first⟩
  rcases Nat.lt_succ_iff_lt_or_eq.mp hj with hlt | rfl
  · exact h.heaviest j hlt hfree
  · exact hn

/-- One more free joint, heavier than the free ones so far. -/
theorem IsRoot.of_heavier [LinearOrder K] {m : MjModel K} {n : ℕ} (hn : m.jntType n = .free)
    (hheavier : ∀ j < n, m.jntType j = .free →
      m.bodySubtreemass (m.jntBodyid j) < m.bodySubtreemass (m.jntBodyid n)) :
    IsRoot m (n + 1) n := by
  refine ⟨Nat.lt_succ_self n, hn, fun j hj hfree => ?_, hheavier⟩
  rcases Nat.lt_succ_iff_lt_or_eq.mp hj with hlt | rfl
  · exact (hheavier j hlt hfree).le
  · exact le_rfl

/-- The loop over the first `n` joints finds their root, unless none of them is free. -/
theorem foldl_pickRoot [LinearOrder K] (m : MjModel K) (n : ℕ) :
    ((List.range n).foldl (pickRoot m) none = none ∧ ∀ j < n, m.jntType j ≠ .free)
      ∨ ∃ r, (List.range n).foldl (pickRoot m) none = some r ∧ IsRoot m n r := by
  induction n with
  | zero => exact .inl ⟨rfl, fun j hj => absurd hj (Nat.not_lt_zero j)⟩
  | succ n ih =>
    rw [List.range_succ, List.foldl_append, List.foldl_cons, List.foldl_nil]
    by_cases hn : m.jntType n = .free
    case neg =>
      have hkeep (root : Option ℕ) : pickRoot m root n = root := if_neg hn
      rw [hkeep]
      refine ih.imp (fun ⟨hnone, hall⟩ => ⟨hnone, fun j hj => ?_⟩) fun ⟨r, hr, hroot⟩ =>
        ⟨r, hr, hroot.succ_of_not_free hn⟩
      rcases Nat.lt_succ_iff_lt_or_eq.mp hj with hlt | rfl
      · exact hall j hlt
      · exact hn
    rcases ih with ⟨hnone, hall⟩ | ⟨r, hr, hroot⟩
    · refine .inr ⟨n, ?_, IsRoot.of_heavier hn fun j hj hfree => absurd hfree (hall j hj)⟩
      rw [hnone]
      exact if_pos hn
    · have hchoose : pickRoot m (some r) n
          = if m.bodySubtreemass (m.jntBodyid r) < m.bodySubtreemass (m.jntBodyid n) then some n
            else some r := if_pos hn
      rw [hr, hchoose]
      split_ifs with hheavier
      · exact .inr ⟨n, rfl, IsRoot.of_heavier hn fun j hj hfree =>
          (hroot.heaviest j hj hfree).trans_lt hheavier⟩
      · exact .inr ⟨r, rfl, hroot.succ_of_le (le_of_not_gt hheavier)⟩

/-- **The root is the first of the heaviest free joints.** -/
theorem isRoot_of_freeRoot [LinearOrder K] {m : MjModel K} {root : ℕ}
    (h : freeRoot m = some root) : IsRoot m m.njnt root := by
  obtain ⟨hnone, -⟩ | ⟨r, hr, hroot⟩ := foldl_pickRoot m m.njnt
  · exact absurd (h.symm.trans hnone) nofun
  · obtain rfl := Option.some.inj (h.symm.trans hr)
    exact hroot

/-- `ModelMap::build`. -/
def build [LT K] [DecidableLT K] (m : MjModel K) : Except String ModelMap :=
  let missing (i : Fin jointCount) : Bool :=
    (m.name2id .joint (jointNames.get i)).isNone || (m.name2id .actuator (jointNames.get i)).isNone
  match (List.finRange jointCount).find? missing with
  | some i => .error ("model is missing joint/actuator '" ++ jointNames.get i ++ "'")
  | none =>
    let jnt (i : Fin jointCount) : ℕ := (m.name2id .joint (jointNames.get i)).getD 0
    let sensorAdr (name : String) : Option ℕ := (m.name2id .sensor name).map m.sensorAdr
    match freeRoot m with
    | none => .error "model has no free root joint"
    | some root =>
      .ok
        { qposAdr := fun i => m.jntQposadr (jnt i)
          dofAdr := fun i => m.jntDofadr (jnt i)
          actId := fun i => (m.name2id .actuator (jointNames.get i)).getD 0
          rootQposAdr := m.jntQposadr root
          rootDofAdr := m.jntDofadr root
          rootBodyId := m.jntBodyid root
          imuSiteId := m.name2id .site "imu"
          sensQuat := sensorAdr "orientation"
          sensGyro := sensorAdr "angular-velocity"
          sensAcc := sensorAdr "acceleration"
          sensLinvel := sensorAdr "linear-velocity" }

/-- A model that names every joint and actuator, and has a root, has a map. -/
theorem build_eq_ok [LT K] [DecidableLT K] {m : MjModel K} {jnt act : Fin jointCount → ℕ}
    {root : ℕ} (hjnt : ∀ i, m.name2id .joint (jointNames.get i) = some (jnt i))
    (hact : ∀ i, m.name2id .actuator (jointNames.get i) = some (act i))
    (hroot : freeRoot m = some root) :
    build m = .ok
      { qposAdr := fun i => m.jntQposadr (jnt i)
        dofAdr := fun i => m.jntDofadr (jnt i)
        actId := act
        rootQposAdr := m.jntQposadr root
        rootDofAdr := m.jntDofadr root
        rootBodyId := m.jntBodyid root
        imuSiteId := m.name2id .site "imu"
        sensQuat := (m.name2id .sensor "orientation").map m.sensorAdr
        sensGyro := (m.name2id .sensor "angular-velocity").map m.sensorAdr
        sensAcc := (m.name2id .sensor "acceleration").map m.sensorAdr
        sensLinvel := (m.name2id .sensor "linear-velocity").map m.sensorAdr } := by
  simp only [build, hjnt, hact, hroot, Option.isNone_some, Bool.or_self, Option.getD_some]
  rfl

/-- Each joint's actuator is the one that carries the joint's name. -/
theorem name2id_actId [LT K] [DecidableLT K] {m : MjModel K} {map : ModelMap}
    (h : build m = .ok map) (i : Fin jointCount) :
    m.name2id .actuator (jointNames.get i) = some (map.actId i) := by
  simp only [build] at h
  split at h
  · exact absurd h (by simp)
  · rename_i hfound
    have hpresent := List.find?_eq_none.mp hfound i (List.mem_finRange i)
    split at h
    · exact absurd h (by simp)
    · obtain rfl := Except.ok.inj h
      obtain ⟨act, hact⟩ : ∃ act, m.name2id .actuator (jointNames.get i) = some act :=
        Option.ne_none_iff_exists'.mp (not_or.mp (by simpa using hpresent)).2
      simp [hact]

/-- The root of a map is the free root of the model. -/
theorem exists_freeRoot [LT K] [DecidableLT K] {m : MjModel K} {map : ModelMap}
    (h : build m = .ok map) :
    ∃ root, freeRoot m = some root ∧ map.rootQposAdr = m.jntQposadr root
      ∧ map.rootDofAdr = m.jntDofadr root := by
  simp only [build] at h
  split at h
  · exact absurd h (by simp)
  · split at h
    case h_1 => exact absurd h (by simp)
    case h_2 root hroot =>
      obtain rfl := Except.ok.inj h
      exact ⟨root, hroot, rfl, rfl⟩

/-- **Distinct joints have distinct actuators.** -/
theorem actId_injective [LT K] [DecidableLT K] {m : MjModel K} {map : ModelMap}
    (h : build m = .ok map) : Function.Injective map.actId := by
  intro i j hij
  have hi := name2id_actId h i
  have hj := name2id_actId h j
  rw [← hij] at hj
  exact jointNames_injective (m.name2id_inj hi hj)

end ModelMap

/-- A model the simulator runs: one whose joints are all there, with its map. -/
structure LoadedModel (K : Type*) [LT K] [DecidableLT K] where
  model : MjModel K
  map : ModelMap
  built : ModelMap.build model = .ok map

/-- Where a name stands in the joint order. -/
def jointNamed (name : String) : Option ℕ := jointNames.toList.idxOf? name

/-- Names at one place of a list are the same. -/
theorem idxOf?_inj {names : List String} {s s' : String} {i : ℕ} (h : names.idxOf? s = some i)
    (h' : names.idxOf? s' = some i) : s = s' := by
  obtain ⟨_, hs, -⟩ := List.idxOf?_eq_some_iff.mp h
  obtain ⟨_, hs', -⟩ := List.idxOf?_eq_some_iff.mp h'
  exact hs.symm.trans hs'

theorem jointNamed_inj {s s' : String} {i : ℕ} (h : jointNamed s = some i)
    (h' : jointNamed s' = some i) : s = s' :=
  idxOf?_inj h h'

theorem jointNamed_get : ∀ i, jointNamed (jointNames.get i) = some i.val := by
  decide +kernel

/-- The K1 alone: its free root at joint `0`, then its hinges and its actuators in joint order,
with no force limit and no sensor. -/
def k1Scene (timestep : ℚ) : MjModel ℚ where
  optTimestep := timestep
  nbody := 2
  njnt := 1 + jointCount
  ngeom := 0
  bodyJntnum b := if b = 1 then 1 else 0
  bodyJntadr _ := 0
  bodySubtreemass _ := 20
  jntType j := if j = 0 then .free else .hinge
  jntBodyid _ := 1
  jntQposadr j := if j = 0 then 0 else 6 + j
  jntDofadr j := if j = 0 then 0 else 5 + j
  geomBodyid _ := 0
  geomPos _ := 0
  geomSize _ := 0
  actuatorForcelimited _ := false
  actuatorForcerange _ := 0
  sensorAdr _ := 0
  name2id
    | .joint, name => (jointNamed name).map Nat.succ
    | .actuator, name => jointNamed name
    | .body, name => if name = "Trunk" then some 1 else none
    | _, _ => none
  name2id_inj := by
    intro t s s' i h h'
    cases t with
    | joint =>
      obtain ⟨a, ha, rfl⟩ := Option.map_eq_some_iff.mp h
      obtain ⟨b, hb, hab⟩ := Option.map_eq_some_iff.mp h'
      exact jointNamed_inj ha (Nat.succ.inj hab ▸ hb)
    | actuator => exact jointNamed_inj h h'
    | body =>
      have htrunk {name : String} (h : (if name = "Trunk" then some 1 else none) = some i) :
          name = "Trunk" := by
        by_contra hname
        rw [if_neg hname] at h
        exact nomatch h
      rw [htrunk h, htrunk h']
    | _ => exact absurd h (by simp)

/-- The map of the bare K1. -/
def k1Map : ModelMap where
  qposAdr i := 7 + i
  dofAdr i := 6 + i
  actId i := i
  rootQposAdr := 0
  rootDofAdr := 0
  rootBodyId := 1
  imuSiteId := none
  sensQuat := none
  sensGyro := none
  sensAcc := none
  sensLinvel := none

/-- The bare K1 loads. -/
def k1Plant (timestep : ℚ) : LoadedModel ℚ where
  model := k1Scene timestep
  map := k1Map
  built := by
    have hjoint (i : Fin jointCount) :
        (k1Scene timestep).name2id .joint (jointNames.get i) = some (i.val + 1) :=
      congrArg (Option.map Nat.succ) (jointNamed_get i)
    have hroot : ModelMap.freeRoot (k1Scene timestep) = some 0 := by
      change ModelMap.freeRoot (k1Scene 0) = some 0
      decide +kernel
    rw [ModelMap.build_eq_ok hjoint (fun i => jointNamed_get i) hroot]
    congr 2
    · funext i
      change 6 + (i.val + 1) = 7 + i.val
      omega
    · funext i
      change 5 + (i.val + 1) = 6 + i.val
      omega

/-- The bare K1 upright at rest, its base at half a metre. -/
def k1Upright : MjData ℚ where
  time := 0
  qpos i := if i = 2 then 1 / 2 else if i = 3 then 1 else 0
  qvel _ := 0
  ctrl _ := 0
  sensordata _ := 0

/-! ## The PD servo -/

/-- `PdController`: gains in `JointIndexK1` order. -/
structure PdController (K : Type*) where
  kp : JointArray K
  kd : JointArray K

section Servo

variable {K : Type*} [Field K] [LinearOrder K]

/-- The torque limited to the actuator's force range, where it is force-limited. -/
def MjModel.limitForce (m : MjModel K) (act : ℕ) (tau : K) : K :=
  if m.actuatorForcelimited act then
    clamp tau (m.actuatorForcerange (2 * act)) (m.actuatorForcerange (2 * act + 1))
  else tau

/-- The torque lies in the actuator's force range, where it is force-limited. -/
def MjModel.InForceRange (m : MjModel K) (act : ℕ) (tau : K) : Prop :=
  m.actuatorForcelimited act = true →
    m.actuatorForcerange (2 * act) ≤ tau ∧ tau ≤ m.actuatorForcerange (2 * act + 1)

omit [Field K] in
/-- **A limited torque lies in the force range**, unless the range is empty. -/
theorem MjModel.inForceRange_limitForce {m : MjModel K} {act : ℕ} {tau₀ : K}
    (hrange : m.InForceRange act tau₀) (tau : K) : m.InForceRange act (m.limitForce act tau) := by
  intro hlimited
  obtain ⟨hlo, hhi⟩ := hrange hlimited
  rw [limitForce, if_pos hlimited]
  exact ⟨le_clamp (hlo.trans hhi), clamp_le (hlo.trans hhi)⟩

/-- The torque `PdController::apply` computes for a joint. -/
def PdController.torque (pd : PdController K) (m : MjModel K) (d : MjData K) (map : ModelMap)
    (qRef dqRef tauFf : JointArray K) (i : Fin jointCount) : K :=
  let q := d.qpos (map.qposAdr i)
  let dq := d.qvel (map.dofAdr i)
  m.limitForce (map.actId i) (pd.kp i * (qRef i - q) + pd.kd i * (dqRef i - dq) + tauFf i)

/-- `PdController::apply`: one control per joint. -/
def PdController.apply (pd : PdController K) (m : MjModel K) (d : MjData K) (map : ModelMap)
    (qRef : JointArray K) (dqRef tauFf : JointArray K := fun _ => 0) : MjData K :=
  { d with
    ctrl := writeAll map.actId (pd.torque m d map qRef dqRef tauFf) (List.finRange jointCount)
      d.ctrl }

/-- **The servo writes every joint's own torque.** -/
theorem PdController.apply_ctrl (pd : PdController K) (lm : LoadedModel K) (d : MjData K)
    (qRef dqRef tauFf : JointArray K) (i : Fin jointCount) :
    (pd.apply lm.model d lm.map qRef dqRef tauFf).ctrl (lm.map.actId i)
      = pd.torque lm.model d lm.map qRef dqRef tauFf i :=
  writeAll_of_mem _ _ _ _ ((List.nodup_finRange _).map (ModelMap.actId_injective lm.built))
    (List.mem_finRange i)

end Servo

end K1Sim
