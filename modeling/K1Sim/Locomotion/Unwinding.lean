import K1Sim.Locomotion.ControlLaw

/-!
# Locomotion/Unwinding — two runs that differ in their LowCmds

The unwinding relations for runs that differ in the LowCmds sent and in the controls written before
the mailbox is cleared on entry to CUSTOM.  Up to the clear the runs agree on everything but the
LowCmd (`SameButLowCmd`); from the clear on also on the LowCmd, as far as a session can look at it
(`SameSinceClear`).  Each relation is kept by every part of a step, every call and every physics
step or reset that shows the two runs the same joints.
-/

namespace K1Sim

open Foundations

namespace LocomotionController

variable {K : Type*} [Field K] [LinearOrder K]

/-! ## What two runs may see alike -/

section Alike

variable (lm : LoadedModel K)

/-- The joint positions and velocities of an observation. -/
def Observation.joints (obs : Observation K) : JointArray K × JointArray K :=
  (fun i => obs.qpos (lm.map.qposAdr i), fun i => obs.qvel (lm.map.dofAdr i))

/-- Data that agree on the clock, the joint positions and the joint velocities. -/
structure SameJoints (d d' : MjData K) : Prop where
  time : d.time = d'.time
  q : ∀ i, d.qpos (lm.map.qposAdr i) = d'.qpos (lm.map.qposAdr i)
  dq : ∀ i, d.qvel (lm.map.dofAdr i) = d'.qvel (lm.map.dofAdr i)

/-- What an event shows of itself to a controller with its eyes on the joints. -/
inductive Glimpse (K : Type*) where
  | call (c : Call K)
  | tick
  | mjStep (joints : JointArray K × JointArray K)
  | reset (joints : JointArray K × JointArray K) (ctrl : Option (JointArray K))

/-- Before the clear: neither a LowCmd nor the controls a reset writes are looked at. -/
def beforeClear : Event K → Option (Glimpse K)
  | .call (.setLowCmd _ _) => none
  | .call c => some (.call c)
  | .tick => some .tick
  | .mjStep obs => some (.mjStep (obs.joints lm))
  | .reset obs _ => some (.reset (obs.joints lm) none)

/-- An event that may show a given glimpse before the clear. -/
def Glimpse.IsOf : Glimpse K → Event K → Prop
  | .call c, e => e = .call c
  | .tick, e => e = .tick
  | .mjStep joints, e => ∃ obs, e = .mjStep obs ∧ obs.joints lm = joints
  | .reset joints _, e => ∃ obs ctrl, e = .reset obs ctrl ∧ obs.joints lm = joints

/-- From the clear on. -/
def sinceClear : Event K → Glimpse K
  | .call c => .call c
  | .tick => .tick
  | .mjStep obs => .mjStep (obs.joints lm)
  | .reset obs ctrl => .reset (obs.joints lm) (some fun i => ctrl (lm.map.actId i))

variable {lm}

theorem SameJoints.advance {d d' : MjData K} (h : SameJoints lm d d') {obs obs' : Observation K}
    (hobs : obs.joints lm = obs'.joints lm) (timestep : K) :
    SameJoints lm (advance timestep d obs) (advance timestep d' obs') where
  time := by rw [LocomotionController.advance, LocomotionController.advance, h.time]
  q := congrFun (congrArg Prod.fst hobs)
  dq := congrFun (congrArg Prod.snd hobs)

theorem SameJoints.rewind {obs obs' : Observation K} (hobs : obs.joints lm = obs'.joints lm)
    (ctrl ctrl' : ℕ → K) : SameJoints lm (rewind obs ctrl) (rewind obs' ctrl') where
  time := rfl
  q := congrFun (congrArg Prod.fst hobs)
  dq := congrFun (congrArg Prod.snd hobs)

omit [Field K] in
theorem SameJoints.currentQ {d d' : MjData K} (h : SameJoints lm d d') :
    currentQ lm d = currentQ lm d' := funext h.q

/-- **A law looks at nothing but the joints.** -/
theorem Law.ctrl_congr {d d' : MjData K} (h : SameJoints lm d d') (pd : PdController K)
    (law : Law K) (last : JointArray K) : law.ctrl lm pd d last = law.ctrl lm pd d' last := by
  rcases law with - | qRef | motors
  case limp => rfl
  case hold =>
    ext i
    simp only [Law.ctrl, PdController.torque, h.q i, h.dq i]
  case servo =>
    ext i
    simp only [Law.ctrl, lowCmdTorque, h.q i, h.dq i]

end Alike

/-! ## Before the clear -/

/-- Mailboxes, or snapshots, that agree on everything but the LowCmd. -/
structure SameOrders (m m' : CommandSnapshot K) : Prop where
  headPitch : m.headPitch = m'.headPitch
  headYaw : m.headYaw = m'.headYaw
  modeSeq : m.modeSeq = m'.modeSeq
  requestedMode : m.requestedMode = m'.requestedMode

/-- State machines that agree on everything but what a CUSTOM session has seen and the fall
state. -/
structure SameFsm (f f' : Fsm K) : Prop where
  mode : f.mode = f'.mode
  state : f.state = f'.state
  prepareStartPose : f.prepareStartPose = f'.prepareStartPose
  prepareStartTime : f.prepareStartTime = f'.prepareStartTime
  customEntryPose : f.customEntryPose = f'.customEntryPose
  customEntryStep : f.customEntryStep = f'.customEntryStep
  lastModeSeq : f.lastModeSeq = f'.lastModeSeq

/-- Steps at the same point, whose snapshots are related. -/
inductive Phase.Alike (taken used : CommandSnapshot K → CommandSnapshot K → Prop) :
    Phase K → Phase K → Prop
  | idle : Alike taken used .idle .idle
  | snapped {s s'} (h : taken s s') : Alike taken used (.snapped s) (.snapped s')
  | consumed {s s'} (h : used s s') : Alike taken used (.consumed s) (.consumed s')

omit [LinearOrder K] in
theorem Phase.Alike.imp {taken used taken' used' : CommandSnapshot K → CommandSnapshot K → Prop}
    {p p' : Phase K} (h : Phase.Alike taken used p p') (ht : ∀ s s', taken s s' → taken' s s')
    (hu : ∀ s s', used s s' → used' s s') : Phase.Alike taken' used' p p' := by
  rcases h with - | h | h
  · exact .idle
  · exact .snapped (ht _ _ h)
  · exact .consumed (hu _ _ h)

omit [LinearOrder K] in
theorem Phase.Alike.of_idle {taken used : CommandSnapshot K → CommandSnapshot K → Prop}
    {p : Phase K} (h : Phase.Alike taken used .idle p) : p = .idle := by
  rcases h with - | - | -
  rfl

omit [LinearOrder K] in
theorem Phase.Alike.of_snapped {taken used : CommandSnapshot K → CommandSnapshot K → Prop}
    {s s' : CommandSnapshot K} (h : Phase.Alike taken used (.snapped s) (.snapped s')) :
    taken s s' := by
  rcases h with - | h | -
  exact h

omit [LinearOrder K] in
theorem Phase.Alike.exists_snapped {taken used : CommandSnapshot K → CommandSnapshot K → Prop}
    {s : CommandSnapshot K} {p : Phase K} (h : Phase.Alike taken used (.snapped s) p) :
    ∃ s', p = .snapped s' := by
  rcases h with - | @⟨-, s', -⟩ | -
  exact ⟨s', rfl⟩

omit [LinearOrder K] in
theorem Phase.Alike.of_consumed {taken used : CommandSnapshot K → CommandSnapshot K → Prop}
    {s s' : CommandSnapshot K} (h : Phase.Alike taken used (.consumed s) (.consumed s')) :
    used s s' := by
  rcases h with - | - | h
  exact h

variable (lm : LoadedModel K)

/-- Runs that agree on everything but the LowCmd and the controls. -/
structure SameButLowCmd (w w' : World K) : Prop where
  cfg : w.ctl.cfg = w'.ctl.cfg
  fsm : SameFsm w.ctl.fsm w'.ctl.fsm
  mailbox : SameOrders w.ctl.mailbox w'.ctl.mailbox
  phase : Phase.Alike SameOrders SameOrders w.phase w'.phase
  data : SameJoints lm w.data w'.data

variable {lm}

omit [LinearOrder K] in
theorem SameOrders.enteredState {c c' : LocomotionController K} (hfsm : SameFsm c.fsm c'.fsm)
    {s s' : CommandSnapshot K} (h : SameOrders s s') :
    enteredState c s = enteredState c' s' := by
  rw [LocomotionController.enteredState, LocomotionController.enteredState, h.modeSeq,
    h.requestedMode, hfsm.lastModeSeq]

theorem SameFsm.consume {c c' : LocomotionController K} (hfsm : SameFsm c.fsm c'.fsm)
    {s s' : CommandSnapshot K} (hs : SameOrders s s') {d d' : MjData K} (hd : SameJoints lm d d') :
    SameFsm (consumeModeRequest lm c s d).fsm (consumeModeRequest lm c' s' d').fsm := by
  have hent' := (hs.enteredState hfsm).symm
  obtain ⟨hmode, hstate, hpose, htime, hentry, hstep, -⟩ := hfsm
  rcases hent : LocomotionController.enteredState c s with - | - | - | -
  case none =>
    rw [consumeModeRequest_of_none lm c s d hent, consumeModeRequest_of_none lm c' s' d'
      (hent'.trans hent)]
    exact ⟨hmode, hstate, hpose, htime, hentry, hstep, hs.modeSeq⟩
  case some.damping =>
    rw [consumeModeRequest_of_damping lm c s d hent, consumeModeRequest_of_damping lm c' s' d'
      (hent'.trans hent)]
    exact ⟨rfl, rfl, hpose, htime, hentry, hstep, hs.modeSeq⟩
  case some.prepare =>
    rw [consumeModeRequest_of_prepare lm c s d hent, consumeModeRequest_of_prepare lm c' s' d'
      (hent'.trans hent)]
    exact ⟨rfl, rfl, hd.currentQ, hd.time, hentry, hstep, hs.modeSeq⟩
  case some.custom =>
    rw [consumeModeRequest_of_custom lm c s d hent, consumeModeRequest_of_custom lm c' s' d'
      (hent'.trans hent)]
    exact ⟨rfl, rfl, hpose, htime, hd.currentQ, rfl, hs.modeSeq⟩

theorem SameOrders.consume {c c' : LocomotionController K} (h : SameOrders c.mailbox c'.mailbox)
    (s s' : CommandSnapshot K) (d d' : MjData K) :
    SameOrders (consumeModeRequest lm c s d).mailbox (consumeModeRequest lm c' s' d').mailbox := by
  obtain ⟨-, -, _, hm⟩ := consumeModeRequest_frame lm c s d
  obtain ⟨-, -, _, hm'⟩ := consumeModeRequest_frame lm c' s' d'
  rw [hm, hm']
  exact ⟨h.headPitch, h.headYaw, h.modeSeq, h.requestedMode⟩

/-- Steps that wait for a LowCmd together see their first one together. -/
theorem SameFsm.seen_actuate [Libc K] {c c' : LocomotionController K} (h : SameFsm c.fsm c'.fsm)
    (hseen : c.fsm.customLowCmdSeen = c'.fsm.customLowCmdSeen) {s s' : CommandSnapshot K}
    (hawaits : c.fsm.state = .custom → c.fsm.customEntryStep = false →
      (AwaitsLowCmd c s ↔ AwaitsLowCmd c' s')) (d d' : MjData K) :
    (actuate lm c s d).1.fsm.customLowCmdSeen = (actuate lm c' s' d').1.fsm.customLowCmdSeen := by
  have hsees : (c.fsm.state = .custom ∧ c.fsm.customEntryStep = false ∧ ¬ AwaitsLowCmd c s)
      ↔ (c'.fsm.state = .custom ∧ c'.fsm.customEntryStep = false ∧ ¬ AwaitsLowCmd c' s') := by
    rw [← h.state, ← h.customEntryStep]
    exact and_congr_right fun hstate => and_congr_right fun hentry =>
      not_congr (hawaits hstate hentry)
  rw [(actuate_flags lm c s d).1, (actuate_flags lm c' s' d').1, hseen]
  exact if_congr hsees rfl rfl

theorem SameFsm.actuate [Libc K] {c c' : LocomotionController K} (h : SameFsm c.fsm c'.fsm)
    (s s' : CommandSnapshot K) (d d' : MjData K) :
    SameFsm (actuate lm c s d).1.fsm (actuate lm c' s' d').1.fsm := by
  have hentry := (actuate_flags lm c s d).2
  have hentry' := (actuate_flags lm c' s' d').2
  obtain ⟨_, _, _, _, hact⟩ := actuate_frame lm c s d
  obtain ⟨_, _, _, _, hact'⟩ := actuate_frame lm c' s' d'
  obtain ⟨hmode, hstate, hpose, htime, hentryPose, hstep, hseq⟩ := h
  refine ⟨?_, ?_, ?_, ?_, ?_, ?entryStep, ?_⟩
  case entryStep => rw [hentry, hentry', hstate, hstep]
  all_goals rw [hact, hact']; assumption

theorem SameJoints.actuate [Libc K] {d d' : MjData K} (h : SameJoints lm d d')
    (c c' : LocomotionController K) (s s' : CommandSnapshot K) :
    SameJoints lm (actuate lm c s d).2 (actuate lm c' s' d').2 := by
  obtain ⟨_, _, _, _, hact⟩ := actuate_frame lm c s d
  obtain ⟨_, _, _, _, hact'⟩ := actuate_frame lm c' s' d'
  rw [hact, hact']
  exact ⟨h.time, h.q, h.dq⟩

theorem SameButLowCmd.tick [Libc K] {w w' : World K} (h : SameButLowCmd lm w w') :
    SameButLowCmd lm (w.tick lm) (w'.tick lm) := by
  obtain ⟨hcfg, hfsm, hmailbox, hphase, hdata⟩ := h
  obtain ⟨c, d, ph⟩ := w
  obtain ⟨c', d', ph'⟩ := w'
  rcases hphase with - | @⟨s, s', hs⟩ | @⟨s, s', hs⟩
  · exact ⟨hcfg, hfsm, hmailbox, .snapped hmailbox, hdata⟩
  · have hcfg' : (consumeModeRequest lm c s d).cfg = (consumeModeRequest lm c' s' d').cfg := by
      rw [(consumeModeRequest_frame lm c s d).1, (consumeModeRequest_frame lm c' s' d').1]
      exact hcfg
    exact ⟨hcfg', hfsm.consume hs hdata, hmailbox.consume s s' d d', .consumed hs, hdata⟩
  · have hcfg' : (LocomotionController.actuate lm c s d).1.cfg
        = (LocomotionController.actuate lm c' s' d').1.cfg := by
      rw [(actuate_keeps lm c s d).1, (actuate_keeps lm c' s' d').1]
      exact hcfg
    have hmailbox' : SameOrders (LocomotionController.actuate lm c s d).1.mailbox
        (LocomotionController.actuate lm c' s' d').1.mailbox := by
      rw [(actuate_keeps lm c s d).2, (actuate_keeps lm c' s' d').2]
      exact hmailbox
    exact ⟨hcfg', hfsm.actuate s s' d d', hmailbox', .idle, hdata.actuate c c' s s'⟩

omit [Field K] in
theorem of_beforeClear {e : Event K} {v : Glimpse K} (h : beforeClear lm e = some v) :
    v.IsOf lm e := by
  rcases e with (_ | _ | _) | - | obs | ⟨obs, ctrl⟩
  case call.setLowCmd => exact absurd h nofun
  all_goals obtain rfl := Option.some.inj h
  case call.setHeadCommand => rfl
  case call.requestModeChange => rfl
  case tick => rfl
  case mjStep => exact ⟨obs, rfl, rfl⟩
  case reset => exact ⟨obs, ctrl, rfl, rfl⟩

omit [Field K] in
theorem of_beforeClear_none {e : Event K} (h : beforeClear lm e = none) :
    ∃ cmdType motors, e = .call (.setLowCmd cmdType motors) := by
  rcases e with (_ | _ | _) | _ | _ | _ <;> first | exact ⟨_, _, rfl⟩ | exact absurd h nofun

omit [LinearOrder K] in
theorem SameOrders.withLowCmd_left {m m' : CommandSnapshot K} (h : SameOrders m m') (cmdType : ℤ)
    (motors : List (MotorCmdData K)) :
    SameOrders { m with lowCmdType := cmdType, lowCmdMotors := motors } m' :=
  ⟨h.headPitch, h.headYaw, h.modeSeq, h.requestedMode⟩

omit [LinearOrder K] in
theorem SameOrders.withLowCmd_right {m m' : CommandSnapshot K} (h : SameOrders m m') (cmdType : ℤ)
    (motors : List (MotorCmdData K)) :
    SameOrders m { m' with lowCmdType := cmdType, lowCmdMotors := motors } :=
  ⟨h.headPitch, h.headYaw, h.modeSeq, h.requestedMode⟩

omit [LinearOrder K] in
theorem SameOrders.applyCall {c c' : LocomotionController K} (h : SameOrders c.mailbox c'.mailbox)
    (call : Call K) : SameOrders (applyCall c call).mailbox (applyCall c' call).mailbox := by
  obtain ⟨hpitch, hyaw, hseq, hmode⟩ := h
  rcases call with _ | _ | _
  case setHeadCommand => exact ⟨rfl, rfl, hseq, hmode⟩
  case requestModeChange => exact ⟨hpitch, hyaw, congrArg (· + 1) hseq, rfl⟩
  case setLowCmd => exact ⟨hpitch, hyaw, hseq, hmode⟩

/-- Nothing but the mailboxes has changed. -/
theorem SameButLowCmd.withMailbox {w w' : World K} (h : SameButLowCmd lm w w')
    {m m' : CommandSnapshot K} (hm : SameOrders m m') :
    SameButLowCmd lm { w with ctl.mailbox := m } { w' with ctl.mailbox := m' } :=
  ⟨h.cfg, h.fsm, hm, h.phase, h.data⟩

variable [Libc K]

theorem SameButLowCmd.call {w w' : World K} (h : SameButLowCmd lm w w') (call : Call K) :
    SameButLowCmd lm ((world lm).next w (.call call)) ((world lm).next w' (.call call)) := by
  rw [next_call, next_call]
  exact h.withMailbox (h.mailbox.applyCall call)

theorem SameButLowCmd.mjStep {w w' : World K} (h : SameButLowCmd lm w w')
    {obs obs' : Observation K} (hobs : obs.joints lm = obs'.joints lm) :
    SameButLowCmd lm ((world lm).next w (.mjStep obs)) ((world lm).next w' (.mjStep obs')) := by
  obtain ⟨hcfg, hfsm, hmailbox, hphase, hdata⟩ := h
  obtain ⟨c, d, ph⟩ := w
  obtain ⟨c', d', ph'⟩ := w'
  rcases hphase with - | hs | hs
  · exact ⟨hcfg, hfsm, hmailbox, .idle, hdata.advance hobs _⟩
  · exact ⟨hcfg, hfsm, hmailbox, .snapped hs, hdata⟩
  · exact ⟨hcfg, hfsm, hmailbox, .consumed hs, hdata⟩

theorem SameButLowCmd.reset {w w' : World K} (h : SameButLowCmd lm w w')
    {obs obs' : Observation K} (hobs : obs.joints lm = obs'.joints lm) (ctrl ctrl' : ℕ → K) :
    SameButLowCmd lm ((world lm).next w (.reset obs ctrl))
      ((world lm).next w' (.reset obs' ctrl')) := by
  obtain ⟨hcfg, hfsm, hmailbox, hphase, hdata⟩ := h
  obtain ⟨c, d, ph⟩ := w
  obtain ⟨c', d', ph'⟩ := w'
  rcases hphase with - | hs | hs
  · exact ⟨hcfg, hfsm, hmailbox, .idle, .rewind hobs ctrl ctrl'⟩
  · exact ⟨hcfg, hfsm, hmailbox, .snapped hs, hdata⟩
  · exact ⟨hcfg, hfsm, hmailbox, .consumed hs, hdata⟩

/-- Events that show the same glimpse keep the agreement. -/
theorem SameButLowCmd.next {w w' : World K} (h : SameButLowCmd lm w w') {e f : Event K}
    {v : Glimpse K} (he : v.IsOf lm e) (hf : v.IsOf lm f) :
    SameButLowCmd lm ((world lm).next w e) ((world lm).next w' f) := by
  rcases v with call | - | joints | ⟨joints, ctrl⟩
  case call =>
    obtain rfl := he
    obtain rfl := hf
    exact h.call call
  case tick =>
    obtain rfl := he
    obtain rfl := hf
    exact h.tick
  case mjStep =>
    obtain ⟨obs, rfl, hobs⟩ := he
    obtain ⟨obs', rfl, hobs'⟩ := hf
    exact h.mjStep (hobs.trans hobs'.symm)
  case reset =>
    obtain ⟨obs, ctrl, rfl, hobs⟩ := he
    obtain ⟨obs', ctrl', rfl, hobs'⟩ := hf
    exact h.reset (hobs.trans hobs'.symm) ctrl ctrl'

/-- **Up to the clear, runs alike but for the LowCmds agree on everything but the LowCmd.** -/
theorem SameButLowCmd.run {w w' : World K} (h : SameButLowCmd lm w w') {es es' : List (Event K)}
    (halike : es.filterMap (beforeClear lm) = es'.filterMap (beforeClear lm)) :
    SameButLowCmd lm ((world lm).run w es) ((world lm).run w' es') := by
  refine (world lm).run_rel_of_view_eq (beforeClear lm) ?hidden ?hidden' ?shown es es' w w' halike h
  case hidden =>
    intro s t e he hst
    obtain ⟨cmdType, motors, rfl⟩ := of_beforeClear_none he
    exact hst.withMailbox (hst.mailbox.withLowCmd_left cmdType motors)
  case hidden' =>
    intro s t e he hst
    obtain ⟨cmdType, motors, rfl⟩ := of_beforeClear_none he
    exact hst.withMailbox (hst.mailbox.withLowCmd_right cmdType motors)
  case shown =>
    intro s t e f v he hf hst
    exact hst.next (of_beforeClear he) (of_beforeClear hf)

/-! ## Since the clear -/

/-- LowCmds that a session cannot tell apart: before it has seen one, it does not look at the type
of an empty command. -/
structure SameLowCmd (seen : Bool) (m m' : CommandSnapshot K) : Prop where
  motors : m.lowCmdMotors = m'.lowCmdMotors
  cmdType : m.lowCmdType = m'.lowCmdType ∨ (m.lowCmdMotors = [] ∧ seen = false)

/-- Snapshots that two runs have taken since the clear. -/
structure SameSnap (c c' : LocomotionController K) (s s' : CommandSnapshot K) : Prop where
  lowCmd : SameLowCmd c.fsm.customLowCmdSeen s s'
  mailbox : s.lowCmdMotors = [] ∨ c.mailbox.lowCmdType = c'.mailbox.lowCmdType

variable (lm) in
/-- Runs that agree on everything that a session may look at; what was left over from before the
clear is out of its reach as long as the entry step is to come. -/
structure SameSinceClear (w w' : World K) : Prop where
  base : SameButLowCmd lm w w'
  seen : w.ctl.fsm.customLowCmdSeen = w'.ctl.fsm.customLowCmdSeen
  mailbox : SameLowCmd w.ctl.fsm.customLowCmdSeen w.ctl.mailbox w'.ctl.mailbox
  snap : Phase.Alike (SameSnap w.ctl w'.ctl)
    (fun s s' => w.ctl.fsm.customEntryStep = true ∨ SameSnap w.ctl w'.ctl s s') w.phase w'.phase
  ctrl : w.ctl.fsm.customEntryStep = true ∨ jointCtrl lm w.data = jointCtrl lm w'.data

/-- **The clear starts agreement.** -/
theorem SameButLowCmd.clear {c c' : LocomotionController K} {d d' : MjData K}
    {s s' : CommandSnapshot K}
    (h : SameButLowCmd lm ⟨c, d, .snapped s⟩ ⟨c', d', .snapped s'⟩)
    (hent : LocomotionController.enteredState c s = some .custom) :
    SameSinceClear lm (World.tick lm ⟨c, d, .snapped s⟩) (World.tick lm ⟨c', d', .snapped s'⟩) := by
  have hbase := h.tick
  have hs : SameOrders s s' := h.phase.of_snapped
  have hent' : LocomotionController.enteredState c' s' = some .custom :=
    (hs.enteredState h.fsm).symm.trans hent
  simp only [World.tick] at hbase ⊢
  rw [consumeModeRequest_of_custom lm c s d hent, consumeModeRequest_of_custom lm c' s' d' hent']
    at hbase ⊢
  exact ⟨hbase, rfl, ⟨rfl, .inr ⟨rfl, rfl⟩⟩, .consumed (.inl rfl), .inl rfl⟩

omit [Libc K] in
theorem prepareReference_congr {c c' : LocomotionController K} (hcfg : c.cfg = c'.cfg)
    (hfsm : SameFsm c.fsm c'.fsm) {s s' : CommandSnapshot K} (hs : SameOrders s s') (time : K) :
    prepareReference c s time = prepareReference c' s' time := by
  simp only [prepareReference, hcfg, hfsm.prepareStartTime, hfsm.prepareStartPose, hs.headPitch,
    hs.headYaw]

omit [LinearOrder K] [Libc K] in
theorem SameLowCmd.awaits_iff {c c' : LocomotionController K} {s s' : CommandSnapshot K}
    (hseen : c.fsm.customLowCmdSeen = c'.fsm.customLowCmdSeen)
    (h : SameLowCmd c.fsm.customLowCmdSeen s s') : AwaitsLowCmd c s ↔ AwaitsLowCmd c' s' := by
  rw [AwaitsLowCmd, AwaitsLowCmd, hseen, h.motors]

/-- The motors that a session servoes to. -/
def servoed (m : CommandSnapshot K) : List (MotorCmdData K) :=
  if m.lowCmdType = 0 then [] else m.lowCmdMotors

omit [LinearOrder K] [Libc K] in
/-- A session that no longer waits tells the types of its snapshots apart, and they are the
same. -/
theorem SameLowCmd.servoed_eq {c : LocomotionController K} {s s' : CommandSnapshot K}
    (h : SameLowCmd c.fsm.customLowCmdSeen s s') (hopen : ¬ AwaitsLowCmd c s) :
    servoed s = servoed s' := by
  have htype : s.lowCmdType = s'.lowCmdType :=
    h.cmdType.resolve_right fun hnone => hopen ⟨hnone.2, hnone.1⟩
  rw [servoed, servoed, htype, h.motors]

omit [LinearOrder K] [Libc K] in
/-- **Past the entry step, snapshots make the same law that are waited on alike and servo to the
same motors.** -/
theorem SameFsm.customLaw_eq {c c' : LocomotionController K} (hfsm : SameFsm c.fsm c'.fsm)
    {s s' : CommandSnapshot K}
    (hawaits : c.fsm.customEntryStep = false → (AwaitsLowCmd c s ↔ AwaitsLowCmd c' s'))
    (hservoed : c.fsm.customEntryStep = false → ¬ AwaitsLowCmd c s → servoed s = servoed s') :
    customLaw c s = customLaw c' s' := by
  rw [customLaw, customLaw, ← hfsm.customEntryStep, ← hfsm.customEntryPose]
  by_cases hentry : c.fsm.customEntryStep = true
  · rw [if_pos (.inl hentry), if_pos (.inl hentry)]
  · have hpast : c.fsm.customEntryStep = false := Bool.eq_false_iff.mpr hentry
    by_cases hwait : AwaitsLowCmd c s
    · rw [if_pos (.inr hwait), if_pos (.inr ((hawaits hpast).mp hwait))]
    · have hwait' : ¬ AwaitsLowCmd c' s' := hwait ∘ (hawaits hpast).mpr
      rw [if_neg (not_or.mpr ⟨hentry, hwait⟩), if_neg (not_or.mpr ⟨hentry, hwait'⟩)]
      exact congrArg Law.servo (hservoed hpast hwait)

omit [Libc K] in
/-- **A step of either run obeys the same law.** -/
theorem SameSinceClear.law_eq {c c' : LocomotionController K} {d d' : MjData K}
    {s s' : CommandSnapshot K}
    (h : SameSinceClear lm ⟨c, d, .consumed s⟩ ⟨c', d', .consumed s'⟩) :
    law c s d.time = law c' s' d'.time := by
  obtain ⟨⟨hcfg, hfsm, -, hphase, hdata⟩, hseen, -, hsnap, -⟩ := h
  have horders : SameOrders s s' := hphase.of_consumed
  rw [law, law, hfsm.state]
  rcases c'.fsm.state with - | - | -
  case damping => rfl
  case prepare =>
    have htime : d.time = d'.time := hdata.time
    exact congrArg Law.hold (htime ▸ prepareReference_congr hcfg hfsm horders d.time)
  case custom =>
    have hlow (hpast : c.fsm.customEntryStep = false) : SameLowCmd c.fsm.customLowCmdSeen s s' :=
      (hsnap.of_consumed.resolve_left (by simp [hpast])).lowCmd
    exact hfsm.customLaw_eq (fun hpast => (hlow hpast).awaits_iff hseen)
      fun hpast => (hlow hpast).servoed_eq

/-- **A step of either run writes the same controls.** -/
theorem SameSinceClear.ctrl_eq {c c' : LocomotionController K} {d d' : MjData K}
    {s s' : CommandSnapshot K}
    (h : SameSinceClear lm ⟨c, d, .consumed s⟩ ⟨c', d', .consumed s'⟩) :
    jointCtrl lm (LocomotionController.actuate lm c s d).2
      = jointCtrl lm (LocomotionController.actuate lm c' s' d').2 := by
  have hcfg : c.cfg = c'.cfg := h.base.cfg
  have hdata : SameJoints lm d d' := h.base.data
  rw [actuate_ctrl, actuate_ctrl, ← h.law_eq, ← hcfg, Law.ctrl_congr hdata]
  rcases h.ctrl with hentry | hctrl
  · -- the step writes every joint, whatever was there
    have hentry : c.fsm.customEntryStep = true := hentry
    rw [law]
    rcases c.fsm.state with - | - | -
    case damping => rfl
    case prepare => rfl
    case custom =>
      change (customLaw c s).ctrl lm c.cfg.pd d' _ = (customLaw c s).ctrl lm c.cfg.pd d' _
      rw [customLaw, if_pos (.inl hentry)]
      rfl
  · rw [show jointCtrl lm d = jointCtrl lm d' from hctrl]

theorem SameSinceClear.snapshot {c c' : LocomotionController K} {d d' : MjData K}
    (h : SameSinceClear lm ⟨c, d, .idle⟩ ⟨c', d', .idle⟩) :
    SameSinceClear lm (World.tick lm ⟨c, d, .idle⟩) (World.tick lm ⟨c', d', .idle⟩) where
  base := h.base.tick
  seen := h.seen
  mailbox := h.mailbox
  snap := .snapped ⟨h.mailbox, h.mailbox.cmdType.symm.imp And.left id⟩
  ctrl := h.ctrl

theorem SameSinceClear.consume {c c' : LocomotionController K} {d d' : MjData K}
    {s s' : CommandSnapshot K}
    (h : SameSinceClear lm ⟨c, d, .snapped s⟩ ⟨c', d', .snapped s'⟩) :
    SameSinceClear lm (World.tick lm ⟨c, d, .snapped s⟩) (World.tick lm ⟨c', d', .snapped s'⟩) := by
  by_cases hent : LocomotionController.enteredState c s = some .custom
  · exact h.base.clear hent
  have hs : SameSnap c c' s s' := h.snap.of_snapped
  have horders : SameOrders s s' := h.base.phase.of_snapped
  have hent' : LocomotionController.enteredState c' s' ≠ some .custom :=
    (horders.enteredState h.base.fsm) ▸ hent
  have hbase := h.base.tick
  obtain ⟨hseen, hstep, -, hmail⟩ := consumeModeRequest_of_ne_custom lm c s d hent
  obtain ⟨hseen', -, -, hmail'⟩ := consumeModeRequest_of_ne_custom lm c' s' d' hent'
  simp only [World.tick] at hbase ⊢
  refine ⟨hbase, ?_, ?_, .consumed (.inr ⟨?_, ?_⟩), ?_⟩
  · rw [hseen, hseen']
    exact h.seen
  · rw [hseen, hmail, hmail']
    exact h.mailbox
  · rw [hseen]
    exact hs.lowCmd
  · rw [hmail, hmail']
    exact hs.mailbox
  · rw [hstep]
    exact h.ctrl

theorem SameSinceClear.actuate {c c' : LocomotionController K} {d d' : MjData K}
    {s s' : CommandSnapshot K}
    (h : SameSinceClear lm ⟨c, d, .consumed s⟩ ⟨c', d', .consumed s'⟩) :
    SameSinceClear lm (World.tick lm ⟨c, d, .consumed s⟩)
      (World.tick lm ⟨c', d', .consumed s'⟩) := by
  have hbase := h.base.tick
  have hctrl := h.ctrl_eq
  have hused : c.fsm.customEntryStep = true ∨ SameSnap c c' s s' := h.snap.of_consumed
  have hseen : c.fsm.customLowCmdSeen = c'.fsm.customLowCmdSeen := h.seen
  have hfsm : SameFsm c.fsm c'.fsm := h.base.fsm
  have hmailbox : SameLowCmd c.fsm.customLowCmdSeen c.mailbox c'.mailbox := h.mailbox
  obtain ⟨hflag, -⟩ := actuate_flags lm c s d
  have hmail := (actuate_keeps lm c s d).2
  have hmail' := (actuate_keeps lm c' s' d').2
  -- past the entry step, both snapshots are of the session
  have hsnap (hfalse : c.fsm.customEntryStep = false) : SameSnap c c' s s' :=
    hused.resolve_left (by simp [hfalse])
  have hseen' : (LocomotionController.actuate lm c s d).1.fsm.customLowCmdSeen
      = (LocomotionController.actuate lm c' s' d').1.fsm.customLowCmdSeen :=
    hfsm.seen_actuate hseen (fun _ hfalse => (hsnap hfalse).lowCmd.awaits_iff hseen) d d'
  simp only [World.tick] at hbase ⊢
  refine ⟨hbase, hseen', ?_, .idle, .inr hctrl⟩
  · rw [hflag, hmail, hmail']
    split_ifs with hsees
    · obtain ⟨-, hfalse, hnot⟩ := hsees
      refine ⟨hmailbox.motors, .inl (hmailbox.cmdType.elim id fun hnone => ?_)⟩
      exact (hsnap hfalse).mailbox.resolve_left fun hempty => hnot ⟨hnone.2, hempty⟩
    · exact hmailbox

theorem SameSinceClear.tick {w w' : World K} (h : SameSinceClear lm w w') :
    SameSinceClear lm (w.tick lm) (w'.tick lm) := by
  obtain ⟨c, d, _ | s | s⟩ := w <;> obtain ⟨c', d', _ | s' | s'⟩ := w'
  case idle.idle => exact h.snapshot
  case snapped.snapped => exact h.consume
  case consumed.consumed => exact h.actuate
  all_goals exact nomatch h.snap

theorem SameSinceClear.call {w w' : World K} (h : SameSinceClear lm w w') (call : Call K) :
    SameSinceClear lm ((world lm).next w (.call call)) ((world lm).next w' (.call call)) := by
  have hbase := h.base.call call
  obtain ⟨c, d, ph⟩ := w
  obtain ⟨c', d', ph'⟩ := w'
  -- a call of `set_low_cmd` brings the mailboxes together, the others leave their LowCmds alone
  have hkeep {s s' : CommandSnapshot K} (hs : SameSnap c c' s s') :
      SameSnap (applyCall c call) (applyCall c' call) s s' := by
    rcases call with _ | _ | _
    case setLowCmd => exact ⟨hs.lowCmd, .inr rfl⟩
    all_goals exact ⟨hs.lowCmd, hs.mailbox⟩
  have hflags : (applyCall c call).fsm = c.fsm := by cases call <;> rfl
  have hflags' : (applyCall c' call).fsm = c'.fsm := by cases call <;> rfl
  have hmailbox : SameLowCmd c.fsm.customLowCmdSeen (applyCall c call).mailbox
      (applyCall c' call).mailbox := by
    rcases call with _ | _ | _
    case setLowCmd => exact ⟨rfl, .inl rfl⟩
    all_goals exact ⟨h.mailbox.motors, h.mailbox.cmdType⟩
  refine ⟨hbase, ?_, ?_, ?_, ?_⟩
  · simp only [world, hflags, hflags']
    exact h.seen
  · simp only [world, hflags]
    exact hmailbox
  · simp only [world, hflags]
    exact h.snap.imp (fun _ _ => hkeep) fun _ _ => Or.imp_right hkeep
  · simp only [world, hflags]
    exact h.ctrl

theorem SameSinceClear.mjStep {w w' : World K} (h : SameSinceClear lm w w')
    {obs obs' : Observation K} (hobs : obs.joints lm = obs'.joints lm) :
    SameSinceClear lm ((world lm).next w (.mjStep obs)) ((world lm).next w' (.mjStep obs')) := by
  have hbase := h.base.mjStep hobs
  obtain ⟨c, d, ph⟩ := w
  obtain ⟨c', d', ph'⟩ := w'
  obtain ⟨-, hseen, hmailbox, hsnap, hctrl⟩ := h
  rcases hsnap with - | hs | hs
  · exact ⟨hbase, hseen, hmailbox, .idle, hctrl⟩
  · exact ⟨hbase, hseen, hmailbox, .snapped hs, hctrl⟩
  · exact ⟨hbase, hseen, hmailbox, .consumed hs, hctrl⟩

theorem SameSinceClear.reset {w w' : World K} (h : SameSinceClear lm w w')
    {obs obs' : Observation K} (hobs : obs.joints lm = obs'.joints lm) {ctrl ctrl' : ℕ → K}
    (hsame : (fun i => ctrl (lm.map.actId i)) = fun i => ctrl' (lm.map.actId i)) :
    SameSinceClear lm ((world lm).next w (.reset obs ctrl))
      ((world lm).next w' (.reset obs' ctrl')) := by
  have hbase := h.base.reset hobs ctrl ctrl'
  obtain ⟨c, d, ph⟩ := w
  obtain ⟨c', d', ph'⟩ := w'
  obtain ⟨-, hseen, hmailbox, hsnap, hctrl⟩ := h
  rcases hsnap with - | hs | hs
  · exact ⟨hbase, hseen, hmailbox, .idle, .inr hsame⟩
  · exact ⟨hbase, hseen, hmailbox, .snapped hs, hctrl⟩
  · exact ⟨hbase, hseen, hmailbox, .consumed hs, hctrl⟩

/-- **Since the clear, like events keep the agreement.** -/
theorem SameSinceClear.next {w w' : World K} (h : SameSinceClear lm w w') {e f : Event K}
    (hef : sinceClear lm e = sinceClear lm f) :
    SameSinceClear lm ((world lm).next w e) ((world lm).next w' f) := by
  rcases e with call | - | obs | ⟨obs, ctrl⟩ <;> rcases f with call' | - | obs' | ⟨obs', ctrl'⟩
  case call.call =>
    obtain rfl := Glimpse.call.inj hef
    exact h.call call
  case tick.tick => exact h.tick
  case mjStep.mjStep => exact h.mjStep (Glimpse.mjStep.inj hef)
  case reset.reset =>
    obtain ⟨hobs, hsame⟩ := Glimpse.reset.inj hef
    exact h.reset hobs (Option.some.inj hsame)
  all_goals exact nomatch hef

/-- **Since the clear, like events show the same controls.** -/
theorem SameSinceClear.out {w w' : World K} (h : SameSinceClear lm w w') {e f : Event K}
    (hef : sinceClear lm e = sinceClear lm f) :
    ((world lm).out w e).map Sample.ctrl = ((world lm).out w' f).map Sample.ctrl := by
  obtain ⟨c, d, ph⟩ := w
  obtain ⟨c', d', ph'⟩ := w'
  rcases e with _ | - | _ | _ <;> rcases f with _ | - | _ | _
  case tick.tick =>
    have hphase := h.snap
    rcases hphase with - | - | -
    · rfl
    · rfl
    · exact congrArg some h.ctrl_eq
  all_goals first | rfl | exact nomatch hef

end LocomotionController

end K1Sim
