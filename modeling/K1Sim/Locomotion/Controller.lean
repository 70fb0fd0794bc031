import K1Sim.Locomotion.LocoMath
import K1Sim.Shared.BoosterApi

/-!
# Locomotion/Controller — the DAMPING / PREPARE / CUSTOM controller of one robot

`LocomotionController` is a configuration, the state machine that only `step` touches, and the
mailbox that the setters write.  `step` is written in the three parts between which a setter may
run: the snapshot of the mailbox, the mode request it may carry (which on entry to CUSTOM clears
the mailbox's motors), and the controls it writes.
-/

namespace K1Sim

open Foundations

namespace LocomotionController

/-- `State`: the state machine's states. -/
inductive State where
  | damping | prepare | custom
  deriving DecidableEq, Repr

/-- The mode `mode()` reports in a state. -/
def State.mode : State → RobotMode
  | .damping => .damping
  | .prepare => .prepare
  | .custom => .custom

/-- `CommandSnapshot`: the mailbox, and the copies `step` takes of it.  `modeSeq` is the 64-bit
count of mode requests. -/
structure CommandSnapshot (K : Type*) [Zero K] where
  headPitch : K := 0
  headYaw : K := 0
  modeSeq : UInt64 := 0
  requestedMode : ℤ := RobotMode.damping.toInt
  lowCmdType : ℤ := 1
  lowCmdMotors : List (MotorCmdData K) := []

/-- What the constructor parses. -/
structure Config (K : Type*) where
  prepareBlendTime : K
  fallingTilt : K
  fallenTilt : K
  fallingGyro : K
  fallenHeight : K
  readyPose : JointArray K
  pd : PdController K

/-- The state machine: touched from `step` only. -/
structure Fsm (K : Type*) [Zero K] where
  state : State := .damping
  prepareStartPose : JointArray K := fun _ => 0
  prepareStartTime : K := 0
  customParallelWarned : Bool := false
  customEntryPose : JointArray K := fun _ => 0
  customLowCmdSeen : Bool := false
  /-- The entry step's snapshot predates the mailbox clear. -/
  customEntryStep : Bool := false
  lastModeSeq : UInt64 := 0
  mode : RobotMode := .damping
  fallState : FallState := .isReady

end LocomotionController

open LocomotionController

/-- `LocomotionController`.  The lazily built `map_` is the `LoadedModel` that `step` is given. -/
structure LocomotionController (K : Type*) [Zero K] where
  cfg : Config K
  fsm : Fsm K := {}
  mailbox : CommandSnapshot K := {}

namespace LocomotionController

/-! ## The setters, each one critical section -/

section Setters

variable {K : Type*} [Zero K]

/-- `set_head_command`. -/
def setHeadCommand (c : LocomotionController K) (pitch yaw : K) : LocomotionController K :=
  { c with mailbox.headPitch := pitch, mailbox.headYaw := yaw }

/-- `request_mode_change`. -/
def requestModeChange (c : LocomotionController K) (mode : ℤ) : LocomotionController K :=
  { c with mailbox.requestedMode := mode, mailbox.modeSeq := c.mailbox.modeSeq + 1 }

/-- `set_low_cmd`. -/
def setLowCmd (c : LocomotionController K) (cmdType : ℤ) (motors : List (MotorCmdData K)) :
    LocomotionController K :=
  { c with mailbox.lowCmdType := cmdType, mailbox.lowCmdMotors := motors }

/-- `snapshot_command`. -/
def snapshotCommand (c : LocomotionController K) : CommandSnapshot K := c.mailbox

end Setters

/-! ## Construction -/

section Construction

variable {K : Type*} [Field K]

/-- The nodes of `config/locomotion.yaml` that the constructor reads. -/
structure LocomotionYaml (K : Type*) where
  prepareBlendTime : Option K := none
  fallingTilt : Option K := none
  fallenTilt : Option K := none
  fallingGyro : Option K := none
  fallenHeight : Option K := none
  initialMode : Option String := none

/-- The nodes of `config/gains.yaml` that the constructor reads. -/
structure GainsYaml (K : Type*) where
  readyPose : Option (List K) := none
  kp : Option (List K) := none
  kd : Option (List K) := none

/-- `load_array`: at most `jointCount` values, the rest zero. -/
def loadArray (node : Option (List K)) : JointArray K := fun i => ((node.getD [])[i.val]?).getD 0

/-- The values parsed, with their defaults. -/
def Config.ofYaml (locomotion : LocomotionYaml K) (gains : GainsYaml K) : Config K where
  prepareBlendTime := locomotion.prepareBlendTime.getD 1
  fallingTilt := locomotion.fallingTilt.getD (35 / 100)
  fallenTilt := locomotion.fallenTilt.getD 1
  fallingGyro := locomotion.fallingGyro.getD 1
  fallenHeight := locomotion.fallenHeight.getD (35 / 100)
  readyPose := loadArray gains.readyPose
  pd := ⟨loadArray gains.kp, loadArray gains.kd⟩

/-- The constructor: a boot into PREPARE is a request like any other, waiting for the first
`step`. -/
def ofYaml (locomotion : LocomotionYaml K) (gains : GainsYaml K) :
    Except String (LocomotionController K) :=
  let c : LocomotionController K := { cfg := Config.ofYaml locomotion gains }
  let initialMode := locomotion.initialMode.getD "prepare"
  if initialMode = "prepare" then .ok (c.requestModeChange RobotMode.prepare.toInt)
  else if initialMode = "damping" then .ok c
  else
    .error ("config/locomotion.yaml: unknown initial_mode '" ++ initialMode
      ++ "' (expected 'prepare' or 'damping')")

/-- Nothing has stepped a controller just constructed. -/
theorem ofYaml_fsm {locomotion : LocomotionYaml K} {gains : GainsYaml K}
    {c : LocomotionController K} (h : ofYaml locomotion gains = .ok c) : c.fsm = {} := by
  simp only [ofYaml] at h
  split at h
  · obtain rfl := Except.ok.inj h
    rfl
  · split at h
    · obtain rfl := Except.ok.inj h
      rfl
    · exact absurd h (by simp)

end Construction

/-! ## The mode request of a snapshot -/

section Step

variable {K : Type*} [Field K] [LinearOrder K]

/-- `current_q`. -/
def currentQ (lm : LoadedModel K) (d : MjData K) : JointArray K :=
  fun i => d.qpos (lm.map.qposAdr i)

/-- The state a wire value asks for: WALKING and SOCCER are held in PREPARE, and a value that is
none of the five is ignored. -/
def effectiveState (requestedMode : ℤ) : Option State :=
  match RobotMode.ofInt? requestedMode with
  | some .damping => some .damping
  | some .prepare | some .walking | some .soccer => some .prepare
  | some .custom => some .custom
  | some .unknown | none => none

/-- `handle_mode_request`. -/
def handleModeRequest (lm : LoadedModel K) (c : LocomotionController K) (requestedMode : ℤ)
    (d : MjData K) : LocomotionController K :=
  match effectiveState requestedMode with
  | none => c
  | some .damping => { c with fsm.mode := .damping, fsm.state := .damping }
  | some .prepare =>
    { c with
      fsm.mode := .prepare
      fsm.state := .prepare
      fsm.prepareStartPose := currentQ lm d
      fsm.prepareStartTime := d.time }
  | some .custom =>
    { c with
      fsm.mode := .custom
      fsm.state := .custom
      fsm.customParallelWarned := false
      fsm.customEntryPose := currentQ lm d
      fsm.customLowCmdSeen := false
      fsm.customEntryStep := true
      mailbox.lowCmdMotors := [] }

/-- The second part of `step`: a snapshot whose sequence number has advanced carries a request. -/
def consumeModeRequest (lm : LoadedModel K) (c : LocomotionController K) (snap : CommandSnapshot K)
    (d : MjData K) : LocomotionController K :=
  if snap.modeSeq = c.fsm.lastModeSeq then c
  else
    handleModeRequest lm { c with fsm.lastModeSeq := snap.modeSeq } snap.requestedMode d

/-- The state that the request of a snapshot enters, if it carries a recognised one. -/
def enteredState (c : LocomotionController K) (snap : CommandSnapshot K) : Option State :=
  if snap.modeSeq = c.fsm.lastModeSeq then none else effectiveState snap.requestedMode

/-! ## The controls of a step -/

/-- `step_damping`. -/
def stepDamping (lm : LoadedModel K) (d : MjData K) : MjData K :=
  { d with ctrl := writeAll lm.map.actId (fun _ => 0) (List.finRange jointCount) d.ctrl }

/-- `kHeadPitchMin`. -/
def kHeadPitchMin : K := -(3 / 10)

/-- `kHeadPitchMax`. -/
def kHeadPitchMax : K := 1

/-- `kHeadYawLimit`. -/
def kHeadYawLimit : K := 785 / 1000

/-- `apply_head_target`. -/
def applyHeadTarget (qRef : JointArray K) (pitch yaw : K) : JointArray K :=
  Function.update
    (Function.update qRef JointIndexK1.headPitch (clamp pitch kHeadPitchMin kHeadPitchMax))
    JointIndexK1.headYaw (clamp yaw (-kHeadYawLimit) kHeadYawLimit)

/-- The reference `step_prepare` tracks.  Where `frac` is not a number, neither is the reference of
the body: a zero stands in for `frac`, and `TorqueUndefined` says which torques mean nothing. -/
def prepareReference (c : LocomotionController K) (snap : CommandSnapshot K) (time : K) :
    JointArray K :=
  let frac := (frac? (time - c.fsm.prepareStartTime) c.cfg.prepareBlendTime).getD 0
  let s := smoothstep frac
  let qRef := fun i => lerp (c.fsm.prepareStartPose i) (c.cfg.readyPose i) s
  applyHeadTarget qRef snap.headPitch snap.headYaw

/-- `step_prepare`. -/
def stepPrepare (lm : LoadedModel K) (c : LocomotionController K) (snap : CommandSnapshot K)
    (d : MjData K) : MjData K :=
  c.cfg.pd.apply lm.model d lm.map (prepareReference c snap d.time)

/-- The torque `step_custom` computes for a joint from its motor command. -/
def lowCmdTorque (lm : LoadedModel K) (d : MjData K) (mc : MotorCmdData K) (i : Fin jointCount) :
    K :=
  let q := d.qpos (lm.map.qposAdr i)
  let dq := d.qvel (lm.map.dofAdr i)
  lm.model.limitForce (lm.map.actId i) (mc.kp * (mc.q - q) + mc.kd * (mc.dq - dq) + mc.tau)

/-- The loop of `step_custom`: joints beyond an undersized command are left alone. -/
def trackLowCmd (lm : LoadedModel K) (d : MjData K) (motors : List (MotorCmdData K)) : MjData K :=
  { d with
    ctrl := writeAll (fun p => lm.map.actId p.1) (fun p => lowCmdTorque lm d p.2 p.1)
      ((List.finRange jointCount).zip motors) d.ctrl }

/-- The hold of the pose CUSTOM was entered in. -/
def holdEntryPose (lm : LoadedModel K) (c : LocomotionController K) (d : MjData K) : MjData K :=
  c.cfg.pd.apply lm.model d lm.map c.fsm.customEntryPose

/-- `step_custom`. -/
def stepCustom (lm : LoadedModel K) (c : LocomotionController K) (snap : CommandSnapshot K)
    (d : MjData K) : LocomotionController K × MjData K :=
  if c.fsm.customEntryStep then ({ c with fsm.customEntryStep := false }, holdEntryPose lm c d)
  else if !c.fsm.customLowCmdSeen && snap.lowCmdMotors.isEmpty then (c, holdEntryPose lm c d)
  else
    let c : LocomotionController K := { c with fsm.customLowCmdSeen := true }
    -- PARALLEL: the last controls are left in place
    if snap.lowCmdType = 0 then ({ c with fsm.customParallelWarned := true }, d)
    else (c, trackLowCmd lm d snap.lowCmdMotors)

/-- The angular rate `update_fall_detection` reads, zero without the sensor. -/
def gyroMagnitude [Libc K] (lm : LoadedModel K) (d : MjData K) : K :=
  match lm.map.sensGyro with
  | none => 0
  | some g =>
    Libc.sqrt
      (d.sensordata g * d.sensordata g + d.sensordata (g + 1) * d.sensordata (g + 1)
        + d.sensordata (g + 2) * d.sensordata (g + 2))

/-- The fall state `update_fall_detection` computes. -/
def computedFallState [Libc K] (lm : LoadedModel K) (cfg : Config K) (d : MjData K) : FallState :=
  let tilt := baseTilt d lm.map
  let baseZ := d.qpos (lm.map.rootQposAdr + 2)
  if cfg.fallenTilt < tilt ∨ baseZ < cfg.fallenHeight then .hasFallen
  else if cfg.fallingTilt < tilt ∧ cfg.fallingGyro < gyroMagnitude lm d then .isFalling
  else .isReady

/-- `update_fall_detection`. -/
def updateFallDetection [Libc K] (lm : LoadedModel K) (c : LocomotionController K) (d : MjData K) :
    LocomotionController K :=
  { c with fsm.fallState := computedFallState lm c.cfg d }

/-- The third part of `step`. -/
def actuate [Libc K] (lm : LoadedModel K) (c : LocomotionController K) (snap : CommandSnapshot K)
    (d : MjData K) : LocomotionController K × MjData K :=
  let c := updateFallDetection lm c d
  match c.fsm.state with
  | .damping => (c, stepDamping lm d)
  | .prepare => (c, stepPrepare lm c snap d)
  | .custom => stepCustom lm c snap d

/-- `step`, with no setter running meanwhile. -/
def step [Libc K] (lm : LoadedModel K) (c : LocomotionController K) (d : MjData K) :
    LocomotionController K × MjData K :=
  let snap := c.snapshotCommand
  actuate lm (consumeModeRequest lm c snap d) snap d

end Step

/-! ## What each part leaves alone -/

section Facts

variable {K : Type*} [Field K] [LinearOrder K] (lm : LoadedModel K) (c : LocomotionController K)
  (snap : CommandSnapshot K) (d : MjData K)

/-- **What a mode request leaves alone**: the configuration, the sequence numbers, and everything
in the mailbox but its motors. -/
theorem handleModeRequest_frame (requestedMode : ℤ) :
    ∃ state mode startPose startTime warned entryPose seen entry motors,
      handleModeRequest lm c requestedMode d
        = { c with
            fsm :=
              { c.fsm with
                state := state
                mode := mode
                prepareStartPose := startPose
                prepareStartTime := startTime
                customParallelWarned := warned
                customEntryPose := entryPose
                customLowCmdSeen := seen
                customEntryStep := entry }
            mailbox.lowCmdMotors := motors } := by
  rw [handleModeRequest]
  split <;> exact ⟨_, _, _, _, _, _, _, _, _, rfl⟩

/-- **A request moves the state exactly when it is recognised.** -/
theorem handleModeRequest_state (requestedMode : ℤ) :
    (handleModeRequest lm c requestedMode d).fsm.state
      = (effectiveState requestedMode).getD c.fsm.state := by
  rw [handleModeRequest]
  split <;> simp [*]

/-- The mode reported and the state move together. -/
theorem handleModeRequest_mode (requestedMode : ℤ) (h : c.fsm.mode = c.fsm.state.mode) :
    (handleModeRequest lm c requestedMode d).fsm.mode
      = (handleModeRequest lm c requestedMode d).fsm.state.mode := by
  rw [handleModeRequest]
  split <;> first | exact h | rfl

/-- **What consuming a snapshot's request leaves alone**, and the sequence number it records. -/
theorem consumeModeRequest_frame :
    (consumeModeRequest lm c snap d).cfg = c.cfg
      ∧ (consumeModeRequest lm c snap d).fsm.lastModeSeq = snap.modeSeq
      ∧ ∃ motors, (consumeModeRequest lm c snap d).mailbox
        = { c.mailbox with lowCmdMotors := motors } := by
  rw [consumeModeRequest]
  split
  · next h => exact ⟨rfl, h.symm, _, rfl⟩
  · obtain ⟨_, _, _, _, _, _, _, _, _, heq⟩ :=
      handleModeRequest_frame lm { c with fsm.lastModeSeq := snap.modeSeq } d snap.requestedMode
    rw [heq]
    exact ⟨rfl, rfl, _, rfl⟩

theorem consumeModeRequest_state :
    (consumeModeRequest lm c snap d).fsm.state
      = if snap.modeSeq = c.fsm.lastModeSeq then c.fsm.state
        else (effectiveState snap.requestedMode).getD c.fsm.state := by
  rw [consumeModeRequest]
  split
  · rfl
  · rw [handleModeRequest_state]

theorem consumeModeRequest_mode (h : c.fsm.mode = c.fsm.state.mode) :
    (consumeModeRequest lm c snap d).fsm.mode
      = (consumeModeRequest lm c snap d).fsm.state.mode := by
  rw [consumeModeRequest]
  split
  · exact h
  · exact handleModeRequest_mode lm _ d _ h

theorem consumeModeRequest_of_none (h : enteredState c snap = none) :
    consumeModeRequest lm c snap d = { c with fsm.lastModeSeq := snap.modeSeq } := by
  rw [consumeModeRequest]
  rw [enteredState] at h
  split at h
  · next hseq => rw [if_pos hseq, hseq]
  · next hseq => rw [if_neg hseq, handleModeRequest, h]

theorem consumeModeRequest_of_damping (h : enteredState c snap = some .damping) :
    consumeModeRequest lm c snap d
      = { c with
          fsm.lastModeSeq := snap.modeSeq, fsm.mode := .damping, fsm.state := .damping } := by
  rw [enteredState] at h
  split at h
  · exact absurd h (by simp)
  · next hseq => rw [consumeModeRequest, if_neg hseq, handleModeRequest, h]

theorem consumeModeRequest_of_prepare (h : enteredState c snap = some .prepare) :
    consumeModeRequest lm c snap d
      = { c with
          fsm.lastModeSeq := snap.modeSeq
          fsm.mode := .prepare
          fsm.state := .prepare
          fsm.prepareStartPose := currentQ lm d
          fsm.prepareStartTime := d.time } := by
  rw [enteredState] at h
  split at h
  · exact absurd h (by simp)
  · next hseq => rw [consumeModeRequest, if_neg hseq, handleModeRequest, h]

theorem consumeModeRequest_of_custom (h : enteredState c snap = some .custom) :
    consumeModeRequest lm c snap d
      = { c with
          fsm.lastModeSeq := snap.modeSeq
          fsm.mode := .custom
          fsm.state := .custom
          fsm.customParallelWarned := false
          fsm.customEntryPose := currentQ lm d
          fsm.customLowCmdSeen := false
          fsm.customEntryStep := true
          mailbox.lowCmdMotors := [] } := by
  rw [enteredState] at h
  split at h
  · exact absurd h (by simp)
  · next hseq => rw [consumeModeRequest, if_neg hseq, handleModeRequest, h]

/-- **Only entry to CUSTOM touches a CUSTOM session and the mailbox.** -/
theorem consumeModeRequest_of_ne_custom (h : enteredState c snap ≠ some .custom) :
    (consumeModeRequest lm c snap d).fsm.customLowCmdSeen = c.fsm.customLowCmdSeen
      ∧ (consumeModeRequest lm c snap d).fsm.customEntryStep = c.fsm.customEntryStep
      ∧ (consumeModeRequest lm c snap d).fsm.customEntryPose = c.fsm.customEntryPose
      ∧ (consumeModeRequest lm c snap d).mailbox = c.mailbox := by
  rcases hent : enteredState c snap with - | - | - | -
  case none => simp [consumeModeRequest_of_none lm c snap d hent]
  case some.damping => simp [consumeModeRequest_of_damping lm c snap d hent]
  case some.prepare => simp [consumeModeRequest_of_prepare lm c snap d hent]
  case some.custom => exact absurd hent h

/-- **What the last part of a step may change**: the fall state and the flags of a CUSTOM session
in the controller, the controls in the data. -/
theorem actuate_frame [Libc K] :
    ∃ warned seen entry ctrl,
      actuate lm c snap d
        = ({ c with
              fsm :=
                { c.fsm with
                  customParallelWarned := warned
                  customLowCmdSeen := seen
                  customEntryStep := entry
                  fallState := computedFallState lm c.cfg d } },
            { d with ctrl := ctrl }) := by
  simp only [actuate]
  split
  · exact ⟨_, _, _, _, rfl⟩
  · exact ⟨_, _, _, _, rfl⟩
  · simp only [stepCustom]
    split
    · exact ⟨_, _, _, _, rfl⟩
    · split
      · exact ⟨_, _, _, _, rfl⟩
      · split <;> exact ⟨_, _, _, _, rfl⟩

theorem actuate_keeps [Libc K] :
    (actuate lm c snap d).1.cfg = c.cfg ∧ (actuate lm c snap d).1.mailbox = c.mailbox := by
  obtain ⟨_, _, _, _, hact⟩ := actuate_frame lm c snap d
  rw [hact]
  exact ⟨rfl, rfl⟩

/-! ## The controls of the joints -/

/-- The controls of the actuated joints, in joint order. -/
def jointCtrl (d : MjData K) : JointArray K := fun i => d.ctrl (lm.map.actId i)

omit [Field K] in
theorem actIds_nodup : ((List.finRange jointCount).map lm.map.actId).Nodup :=
  (List.nodup_finRange _).map (ModelMap.actId_injective lm.built)

theorem jointCtrl_stepDamping : jointCtrl lm (stepDamping lm d) = fun _ => 0 := by
  ext i
  exact writeAll_of_mem _ _ _ _ (actIds_nodup lm) (List.mem_finRange i)

theorem jointCtrl_apply (pd : PdController K) (qRef : JointArray K) :
    jointCtrl lm (pd.apply lm.model d lm.map qRef)
      = pd.torque lm.model d lm.map qRef (fun _ => 0) (fun _ => 0) := by
  ext i
  exact pd.apply_ctrl lm d qRef _ _ i

/-- **A LowCmd drives the joints it has motors for** and leaves the others at their last
control. -/
theorem jointCtrl_trackLowCmd (motors : List (MotorCmdData K)) (i : Fin jointCount) :
    jointCtrl lm (trackLowCmd lm d motors) i
      = match motors[i.val]? with
        | some mc => lowCmdTorque lm d mc i
        | none => jointCtrl lm d i := by
  have hi : (List.finRange jointCount)[i.val]? = some i := by
    simp
  rcases hm : motors[i.val]? with - | mc
  case some =>
    exact writeAll_zip_of_getElem? lm.map.actId (fun p => lowCmdTorque lm d p.2 p.1) d.ctrl
      (actIds_nodup lm) hi hm
  case none =>
    exact writeAll_zip_of_getElem?_none lm.map.actId (fun p => lowCmdTorque lm d p.2 p.1) d.ctrl
      (actIds_nodup lm) hi hm

end Facts

end LocomotionController

end K1Sim
