import K1Sim.Locomotion.World

/-!
# Locomotion/ControlLaw — what a step does to the joints

A `Law` says what a step makes of the 22 joint controls.  `law` reads it off the state machine and
the snapshot, and `actuate_ctrl` says that the source's `step` obeys it; `actuate_flags`
says what becomes of the two flags of a CUSTOM session.  Statements about the controls that a step
writes are statements about laws.
-/

namespace K1Sim

open Foundations

namespace LocomotionController

/-- What a step makes of the joint controls. -/
inductive Law (K : Type*) where
  /-- Every joint limp. -/
  | limp
  /-- Every joint servoed by the controller's own gains to a reference. -/
  | hold (qRef : JointArray K)
  /-- The joints that have a motor command servoed to it, the others left at their last control. -/
  | servo (motors : List (MotorCmdData K))

variable {K : Type*} [Field K] [LinearOrder K]

/-- The controls a law writes, over the last ones. -/
def Law.ctrl (lm : LoadedModel K) (pd : PdController K) (d : MjData K) :
    Law K → JointArray K → JointArray K
  | .limp, _ => fun _ => 0
  | .hold qRef, _ => pd.torque lm.model d lm.map qRef (fun _ => 0) (fun _ => 0)
  | .servo motors, last => fun i =>
    match motors[i.val]? with
    | some mc => lowCmdTorque lm d mc i
    | none => last i

/-- No LowCmd of the session has arrived, and the snapshot has none. -/
def AwaitsLowCmd (c : LocomotionController K) (snap : CommandSnapshot K) : Prop :=
  c.fsm.customLowCmdSeen = false ∧ snap.lowCmdMotors = []

instance (c : LocomotionController K) (snap : CommandSnapshot K) :
    Decidable (AwaitsLowCmd c snap) :=
  inferInstanceAs (Decidable (_ ∧ _))

/-- The law of a CUSTOM session; a PARALLEL command servoes no joint. -/
def customLaw (c : LocomotionController K) (snap : CommandSnapshot K) : Law K :=
  if c.fsm.customEntryStep = true ∨ AwaitsLowCmd c snap then .hold c.fsm.customEntryPose
  else .servo (if snap.lowCmdType = 0 then [] else snap.lowCmdMotors)

/-- The law of a step that works from a snapshot at a time. -/
def law (c : LocomotionController K) (snap : CommandSnapshot K) (time : K) : Law K :=
  match c.fsm.state with
  | .damping => .limp
  | .prepare => .hold (prepareReference c snap time)
  | .custom => customLaw c snap

section Facts

variable (lm : LoadedModel K) (c : LocomotionController K) (snap : CommandSnapshot K) (d : MjData K)

/-! ## The branches of a CUSTOM step -/

theorem stepCustom_of_entry (h : c.fsm.customEntryStep = true) :
    stepCustom lm c snap d = ({ c with fsm.customEntryStep := false }, holdEntryPose lm c d) :=
  if_pos h

theorem stepCustom_of_awaits (hentry : c.fsm.customEntryStep = false) (h : AwaitsLowCmd c snap) :
    stepCustom lm c snap d = (c, holdEntryPose lm c d) := by
  simp [stepCustom, hentry, h.1, h.2]

theorem stepCustom_of_parallel (hentry : c.fsm.customEntryStep = false)
    (h : ¬ AwaitsLowCmd c snap) (htype : snap.lowCmdType = 0) :
    stepCustom lm c snap d
      = ({ c with fsm.customLowCmdSeen := true, fsm.customParallelWarned := true }, d) := by
  have hsome : ¬ ((!c.fsm.customLowCmdSeen && snap.lowCmdMotors.isEmpty) = true) := by
    simpa [AwaitsLowCmd] using h
  rw [stepCustom, if_neg (Bool.eq_false_iff.mp hentry), if_neg hsome]
  exact if_pos htype

theorem stepCustom_of_serial (hentry : c.fsm.customEntryStep = false)
    (h : ¬ AwaitsLowCmd c snap) (htype : snap.lowCmdType ≠ 0) :
    stepCustom lm c snap d
      = ({ c with fsm.customLowCmdSeen := true }, trackLowCmd lm d snap.lowCmdMotors) := by
  have hsome : ¬ ((!c.fsm.customLowCmdSeen && snap.lowCmdMotors.isEmpty) = true) := by
    simpa [AwaitsLowCmd] using h
  rw [stepCustom, if_neg (Bool.eq_false_iff.mp hentry), if_neg hsome]
  exact if_neg htype

theorem actuate_of_damping [Libc K] (h : c.fsm.state = .damping) :
    actuate lm c snap d = (updateFallDetection lm c d, stepDamping lm d) := by
  simp [actuate, updateFallDetection, h]

theorem actuate_of_prepare [Libc K] (h : c.fsm.state = .prepare) :
    actuate lm c snap d = (updateFallDetection lm c d, stepPrepare lm c snap d) := by
  simp [actuate, updateFallDetection, h, stepPrepare, prepareReference]

theorem actuate_of_custom [Libc K] (h : c.fsm.state = .custom) :
    actuate lm c snap d = stepCustom lm (updateFallDetection lm c d) snap d := by
  simp [actuate, updateFallDetection, h]

/-! ## The source obeys the law -/

theorem jointCtrl_holdEntryPose (last : JointArray K) :
    jointCtrl lm (holdEntryPose lm c d)
      = (Law.hold c.fsm.customEntryPose).ctrl lm c.cfg.pd d last :=
  jointCtrl_apply lm d c.cfg.pd c.fsm.customEntryPose

theorem jointCtrl_stepCustom :
    jointCtrl lm (stepCustom lm c snap d).2
      = (customLaw c snap).ctrl lm c.cfg.pd d (jointCtrl lm d) := by
  rcases hentry : c.fsm.customEntryStep with - | -
  case true =>
    rw [stepCustom_of_entry lm c snap d hentry, customLaw, if_pos (.inl hentry)]
    exact jointCtrl_holdEntryPose lm c d _
  case false =>
    by_cases hawaits : AwaitsLowCmd c snap
    · rw [stepCustom_of_awaits lm c snap d hentry hawaits, customLaw, if_pos (.inr hawaits)]
      exact jointCtrl_holdEntryPose lm c d _
    · have hopen : ¬ (c.fsm.customEntryStep = true ∨ AwaitsLowCmd c snap) := by
        simp [hentry, hawaits]
      rw [customLaw, if_neg hopen]
      by_cases htype : snap.lowCmdType = 0
      · rw [stepCustom_of_parallel lm c snap d hentry hawaits htype, if_pos htype]
        rfl
      · rw [stepCustom_of_serial lm c snap d hentry hawaits htype, if_neg htype]
        ext i
        exact jointCtrl_trackLowCmd lm d snap.lowCmdMotors i

/-- **A step writes the controls of its law.** -/
theorem actuate_ctrl [Libc K] :
    jointCtrl lm (actuate lm c snap d).2
      = (law c snap d.time).ctrl lm c.cfg.pd d (jointCtrl lm d) := by
  rw [law]
  rcases hstate : c.fsm.state with - | - | -
  case damping =>
    rw [actuate_of_damping lm c snap d hstate]
    exact jointCtrl_stepDamping lm d
  case prepare =>
    rw [actuate_of_prepare lm c snap d hstate]
    exact jointCtrl_apply lm d c.cfg.pd (prepareReference c snap d.time)
  case custom =>
    rw [actuate_of_custom lm c snap d hstate, jointCtrl_stepCustom]
    rfl

theorem stepCustom_flags :
    (stepCustom lm c snap d).1.fsm.customLowCmdSeen
        = (if c.fsm.customEntryStep = false ∧ ¬ AwaitsLowCmd c snap then true
          else c.fsm.customLowCmdSeen)
      ∧ (stepCustom lm c snap d).1.fsm.customEntryStep = false := by
  rcases hentry : c.fsm.customEntryStep with - | -
  case true => simp [stepCustom_of_entry lm c snap d hentry]
  case false =>
    by_cases hawaits : AwaitsLowCmd c snap
    · simp [stepCustom_of_awaits lm c snap d hentry hawaits, hawaits, hentry]
    · by_cases htype : snap.lowCmdType = 0
      · simp [stepCustom_of_parallel lm c snap d hentry hawaits htype, hawaits, hentry]
      · simp [stepCustom_of_serial lm c snap d hentry hawaits htype, hawaits, hentry]

/-- **The flags of a session**: the entry step is the first step in CUSTOM, and a LowCmd is seen by
the first later one whose snapshot has one. -/
theorem actuate_flags [Libc K] :
    (actuate lm c snap d).1.fsm.customLowCmdSeen
        = (if c.fsm.state = .custom ∧ c.fsm.customEntryStep = false ∧ ¬ AwaitsLowCmd c snap
          then true else c.fsm.customLowCmdSeen)
      ∧ (actuate lm c snap d).1.fsm.customEntryStep
        = (if c.fsm.state = .custom then false else c.fsm.customEntryStep) := by
  rcases hstate : c.fsm.state with - | - | -
  case damping => simp [actuate_of_damping lm c snap d hstate, updateFallDetection]
  case prepare => simp [actuate_of_prepare lm c snap d hstate, updateFallDetection]
  case custom =>
    obtain ⟨hseen, hentry⟩ := stepCustom_flags lm (updateFallDetection lm c d) snap d
    rw [actuate_of_custom lm c snap d hstate, hseen, hentry]
    simp only [true_and, if_true, and_true]
    rfl

/-! ## A session that has seen no LowCmd -/

omit [LinearOrder K] in
theorem awaitsLowCmd_of_unseen (hunseen : c.fsm.customLowCmdSeen = false)
    (hsnap : c.fsm.customEntryStep = true ∨ snap.lowCmdMotors = []) :
    c.fsm.customEntryStep = true ∨ AwaitsLowCmd c snap :=
  hsnap.imp_right fun hempty => ⟨hunseen, hempty⟩

/-- Its step holds the entry pose, if it is the entry step or has no LowCmd in its snapshot. -/
theorem law_of_unseen (hstate : c.fsm.state = .custom) (hunseen : c.fsm.customLowCmdSeen = false)
    (hsnap : c.fsm.customEntryStep = true ∨ snap.lowCmdMotors = []) (time : K) :
    law c snap time = .hold c.fsm.customEntryPose := by
  rw [law, hstate]
  exact if_pos (awaitsLowCmd_of_unseen c snap hunseen hsnap)

/-- Such a step leaves it so. -/
theorem actuate_unseen [Libc K] (hunseen : c.fsm.customLowCmdSeen = false)
    (hsnap : c.fsm.customEntryStep = true ∨ snap.lowCmdMotors = []) :
    (actuate lm c snap d).1.fsm.customLowCmdSeen = false := by
  rw [(actuate_flags lm c snap d).1, if_neg, hunseen]
  rintro ⟨-, hentry, hopen⟩
  rcases awaitsLowCmd_of_unseen c snap hunseen hsnap with htrue | hawaits
  · exact absurd (htrue.symm.trans hentry) (by simp)
  · exact hopen hawaits

/-- **What a step shows of the joints is what its law writes.** -/
theorem ctrl_of_out [Libc K] {w : World K} {e : Event K} {s : Sample K}
    (hout : (world lm).out w e = some s) :
    ∃ snap, w.phase = .consumed snap
      ∧ s.ctrl
        = (law w.ctl snap w.data.time).ctrl lm w.ctl.cfg.pd w.data (jointCtrl lm w.data) := by
  obtain ⟨-, ⟨snap, hphase⟩, rfl⟩ := (out_eq_some_iff lm).mp hout
  obtain ⟨c, d, ph⟩ := w
  obtain rfl : ph = .consumed snap := hphase
  exact ⟨snap, rfl, actuate_ctrl lm c snap d⟩

end Facts

end LocomotionController

end K1Sim
