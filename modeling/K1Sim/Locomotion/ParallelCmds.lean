import K1Sim.Locomotion.Unwinding

/-!
# Locomotion/ParallelCmds — LowCmds of the unsupported type

A PARALLEL LowCmd goes through the same mailbox slot as a SERIAL one and counts as the first of its
session.  Inserting PARALLEL commands into a run changes nothing as long as, at every step of a
session, the one in the snapshot displaced a command of the same effect (`parallel_ignored`).
-/

namespace K1Sim

open Foundations

namespace LocomotionController

variable {K : Type*} [Field K] [LinearOrder K]

/-! ## Commands of the same effect -/

/-- The same LowCmd, or a PARALLEL one in its place. -/
def MaybeDisplaced (m m' : CommandSnapshot K) : Prop :=
  (m.lowCmdType = m'.lowCmdType ∧ m.lowCmdMotors = m'.lowCmdMotors) ∨ m'.lowCmdType = 0

/-- What a displaced command would have done: nothing for a PARALLEL or an empty one, once a LowCmd
of the session has been seen; before that, hold the entry pose on when it is empty, and let go of it
when it is not. -/
def SameEffect (seen : Bool) (m m' : CommandSnapshot K) : Prop :=
  (m.lowCmdType = m'.lowCmdType ∧ m.lowCmdMotors = m'.lowCmdMotors)
    ∨ if seen then m.lowCmdType = 0 ∨ m.lowCmdMotors = []
      else (m.lowCmdMotors = [] ∧ m'.lowCmdMotors = [])
        ∨ (m.lowCmdType = 0 ∧ m.lowCmdMotors ≠ [] ∧ m'.lowCmdMotors ≠ [])

/-- At a step of a CUSTOM session past its entry step, what the second run has in its snapshot has
the effect of what the first has. -/
def HarmlessStep (p : World K × World K) : Event K ⊕ Event K → Prop
  | .inl .tick =>
    ∀ snap snap', p.1.phase = .consumed snap → p.2.phase = .consumed snap' →
      p.1.ctl.fsm.state = .custom → p.1.ctl.fsm.customEntryStep = false →
        SameEffect p.1.ctl.fsm.customLowCmdSeen snap snap'
  | _ => True

/-- A PARALLEL command. -/
def IsParallel (e : Event K) : Prop := ∃ motors, e = .call (.setLowCmd 0 motors)

omit [LinearOrder K] in
theorem SameEffect.awaits_iff {c c' : LocomotionController K} {s s' : CommandSnapshot K}
    (hseen : c.fsm.customLowCmdSeen = c'.fsm.customLowCmdSeen)
    (h : SameEffect c.fsm.customLowCmdSeen s s') : AwaitsLowCmd c s ↔ AwaitsLowCmd c' s' := by
  rw [AwaitsLowCmd, AwaitsLowCmd, ← hseen]
  refine and_congr_right fun hunseen => ?_
  rw [SameEffect, hunseen] at h
  rcases h with ⟨-, hmotors⟩ | ⟨hnil, hnil'⟩ | ⟨-, hne, hne'⟩
  · rw [hmotors]
  · exact iff_of_true hnil hnil'
  · exact iff_of_false hne hne'

omit [LinearOrder K] in
/-- A session that waits no longer servoes to the same motors. -/
theorem SameEffect.servoed_eq {c : LocomotionController K} {s s' : CommandSnapshot K}
    (h : SameEffect c.fsm.customLowCmdSeen s s') (hdisplaced : MaybeDisplaced s s')
    (hopen : ¬ AwaitsLowCmd c s) : servoed s = servoed s' := by
  rcases hdisplaced with ⟨htype, hmotors⟩ | hparallel
  · rw [servoed, servoed, htype, hmotors]
  · have hnothing : s.lowCmdType = 0 ∨ s.lowCmdMotors = [] ∨ servoed s = servoed s' := by
      rcases h with ⟨htype, hmotors⟩ | h
      · exact .inr (.inr (by rw [servoed, servoed, htype, hmotors]))
      · rcases hseen : c.fsm.customLowCmdSeen with - | -
        case true =>
          rw [hseen] at h
          exact h.imp_right .inl
        case false =>
          rw [hseen] at h
          exact .inl (h.resolve_left fun hnil => hopen ⟨hseen, hnil.1⟩).1
    have hright : servoed s' = [] := if_pos hparallel
    rcases hnothing with htype | hnil | hsame
    · rw [hright, servoed, if_pos htype]
    · rw [hright, servoed, hnil, ite_self]
    · exact hsame

/-! ## Runs -/

variable (lm : LoadedModel K)

/-- Runs that agree on everything but PARALLEL commands. -/
structure SameButParallel (w w' : World K) : Prop where
  base : SameButLowCmd lm w w'
  seen : w.ctl.fsm.customLowCmdSeen = w'.ctl.fsm.customLowCmdSeen
  mailbox : MaybeDisplaced w.ctl.mailbox w'.ctl.mailbox
  snap : Phase.Alike MaybeDisplaced MaybeDisplaced w.phase w'.phase
  qpos : w.data.qpos = w'.data.qpos
  sensordata : w.data.sensordata = w'.data.sensordata
  ctrl : jointCtrl lm w.data = jointCtrl lm w'.data

variable {lm}

/-- **A harmless step obeys the same law in both runs.** -/
theorem SameButParallel.law_eq {c c' : LocomotionController K} {d d' : MjData K}
    {s s' : CommandSnapshot K}
    (h : SameButParallel lm ⟨c, d, .consumed s⟩ ⟨c', d', .consumed s'⟩)
    (hharmless : HarmlessStep (⟨c, d, .consumed s⟩, ⟨c', d', .consumed s'⟩) (.inl .tick)) :
    law c s d.time = law c' s' d'.time := by
  obtain ⟨⟨hcfg, hfsm, -, hphase, hdata⟩, hseen, -, hsnap, -, -, -⟩ := h
  have horders : SameOrders s s' := hphase.of_consumed
  have hdisplaced : MaybeDisplaced s s' := hsnap.of_consumed
  rw [law, law, ← hfsm.state]
  rcases hstate : c.fsm.state with - | - | -
  case damping => rfl
  case prepare =>
    have htime : d.time = d'.time := hdata.time
    exact congrArg Law.hold (htime ▸ prepareReference_congr hcfg hfsm horders d.time)
  case custom =>
    have heffect := hharmless s s' rfl rfl hstate
    exact hfsm.customLaw_eq (fun hpast => (heffect hpast).awaits_iff hseen)
      fun hpast => (heffect hpast).servoed_eq hdisplaced

variable [Libc K]

theorem SameButParallel.consume {c c' : LocomotionController K} {d d' : MjData K}
    {s s' : CommandSnapshot K}
    (h : SameButParallel lm ⟨c, d, .snapped s⟩ ⟨c', d', .snapped s'⟩) :
    SameButParallel lm (World.tick lm ⟨c, d, .snapped s⟩)
      (World.tick lm ⟨c', d', .snapped s'⟩) := by
  have hbase := h.base.tick
  obtain ⟨⟨-, hfsm, -, hphase, -⟩, hseen, hmailbox, hsnap, hqpos, hsensors, hctrl⟩ := h
  have horders : SameOrders s s' := hphase.of_snapped
  have hent : enteredState c s = enteredState c' s' := horders.enteredState hfsm
  have hdisplaced : MaybeDisplaced s s' := hsnap.of_snapped
  simp only [World.tick] at hbase ⊢
  by_cases hcustom : enteredState c s = some .custom
  · rw [consumeModeRequest_of_custom lm c s d hcustom,
      consumeModeRequest_of_custom lm c' s' d' (hent ▸ hcustom)] at hbase ⊢
    -- the clear empties both slots and leaves their types
    have hcleared : MaybeDisplaced { c.mailbox with lowCmdMotors := [] }
        { c'.mailbox with lowCmdMotors := [] } :=
      Or.imp (fun hsame => ⟨hsame.1, rfl⟩) id hmailbox
    exact ⟨hbase, rfl, hcleared, .consumed hdisplaced, hqpos, hsensors, hctrl⟩
  · obtain ⟨hseen₁, -, -, hmail₁⟩ := consumeModeRequest_of_ne_custom lm c s d hcustom
    obtain ⟨hseen₂, -, -, hmail₂⟩ := consumeModeRequest_of_ne_custom lm c' s' d' (hent ▸ hcustom)
    refine ⟨hbase, ?_, ?_, .consumed hdisplaced, hqpos, hsensors, hctrl⟩
    · rw [hseen₁, hseen₂]
      exact hseen
    · rw [hmail₁, hmail₂]
      exact hmailbox

/-- The fall state is computed from the base and the sensors alone. -/
theorem computedFallState_congr (cfg : Config K) {d d' : MjData K} (hqpos : d.qpos = d'.qpos)
    (hsensors : d.sensordata = d'.sensordata) :
    computedFallState lm cfg d = computedFallState lm cfg d' := by
  obtain ⟨_, q, _, _, s⟩ := d
  obtain ⟨_, q', _, _, s'⟩ := d'
  obtain rfl : q = q' := hqpos
  obtain rfl : s = s' := hsensors
  rfl

/-- A harmless step writes the same controls in both runs. -/
theorem SameButParallel.ctrl_eq {c c' : LocomotionController K} {d d' : MjData K}
    {s s' : CommandSnapshot K}
    (h : SameButParallel lm ⟨c, d, .consumed s⟩ ⟨c', d', .consumed s'⟩)
    (hharmless : HarmlessStep (⟨c, d, .consumed s⟩, ⟨c', d', .consumed s'⟩) (.inl .tick)) :
    jointCtrl lm (LocomotionController.actuate lm c s d).2
      = jointCtrl lm (LocomotionController.actuate lm c' s' d').2 := by
  have hcfg : c.cfg = c'.cfg := h.base.cfg
  have hdata : SameJoints lm d d' := h.base.data
  have hctrl : jointCtrl lm d = jointCtrl lm d' := h.ctrl
  rw [actuate_ctrl, actuate_ctrl, h.law_eq hharmless, hcfg, Law.ctrl_congr hdata, hctrl]

/-- A step judges the base alike in both runs. -/
theorem SameButParallel.fallState_eq {c c' : LocomotionController K} {d d' : MjData K}
    {s s' : CommandSnapshot K}
    (h : SameButParallel lm ⟨c, d, .consumed s⟩ ⟨c', d', .consumed s'⟩) :
    (LocomotionController.actuate lm c s d).1.fsm.fallState
      = (LocomotionController.actuate lm c' s' d').1.fsm.fallState := by
  have hcfg : c.cfg = c'.cfg := h.base.cfg
  obtain ⟨_, _, _, _, hact⟩ := actuate_frame lm c s d
  obtain ⟨_, _, _, _, hact'⟩ := actuate_frame lm c' s' d'
  rw [hact, hact']
  change computedFallState lm c.cfg d = computedFallState lm c'.cfg d'
  rw [hcfg]
  exact computedFallState_congr c'.cfg h.qpos h.sensordata

/-- **A harmless step leaves the runs related.** -/
theorem SameButParallel.actuate {c c' : LocomotionController K} {d d' : MjData K}
    {s s' : CommandSnapshot K}
    (h : SameButParallel lm ⟨c, d, .consumed s⟩ ⟨c', d', .consumed s'⟩)
    (hharmless : HarmlessStep (⟨c, d, .consumed s⟩, ⟨c', d', .consumed s'⟩) (.inl .tick)) :
    SameButParallel lm (World.tick lm ⟨c, d, .consumed s⟩)
      (World.tick lm ⟨c', d', .consumed s'⟩) := by
  have hbase := h.base.tick
  have hctrl := h.ctrl_eq hharmless
  obtain ⟨⟨-, hfsm, -, -, -⟩, hseen, hmailbox, -, hqpos, hsensors, -⟩ := h
  have hseen' : (LocomotionController.actuate lm c s d).1.fsm.customLowCmdSeen
      = (LocomotionController.actuate lm c' s' d').1.fsm.customLowCmdSeen :=
    hfsm.seen_actuate hseen
      (fun hstate hentry => (hharmless s s' rfl rfl hstate hentry).awaits_iff hseen) d d'
  obtain ⟨_, _, _, _, hact⟩ := actuate_frame lm c s d
  obtain ⟨_, _, _, _, hact'⟩ := actuate_frame lm c' s' d'
  refine ⟨hbase, hseen', ?mailbox, .idle, ?qpos, ?sensordata, hctrl⟩
  case mailbox =>
    simp only [World.tick]
    rw [(actuate_keeps lm c s d).2, (actuate_keeps lm c' s' d').2]
    exact hmailbox
  case qpos =>
    simp only [World.tick, hact, hact']
    exact hqpos
  case sensordata =>
    simp only [World.tick, hact, hact']
    exact hsensors

/-- **A harmless step leaves the same behind in both runs.** -/
theorem SameButParallel.sample_eq {c c' : LocomotionController K} {d d' : MjData K}
    {s s' : CommandSnapshot K}
    (h : SameButParallel lm ⟨c, d, .consumed s⟩ ⟨c', d', .consumed s'⟩)
    (hharmless : HarmlessStep (⟨c, d, .consumed s⟩, ⟨c', d', .consumed s'⟩) (.inl .tick)) :
    (World.tick lm ⟨c, d, .consumed s⟩).sample lm
      = (World.tick lm ⟨c', d', .consumed s'⟩).sample lm := by
  have hmode : (LocomotionController.actuate lm c s d).1.fsm.mode
      = (LocomotionController.actuate lm c' s' d').1.fsm.mode := h.base.tick.fsm.mode
  simp only [World.sample, World.tick, h.ctrl_eq hharmless, hmode, h.fallState_eq]

theorem SameButParallel.call {w w' : World K} (h : SameButParallel lm w w') (call : Call K) :
    SameButParallel lm ((world lm).next w (.call call)) ((world lm).next w' (.call call)) := by
  have hbase := h.base.call call
  obtain ⟨-, hseen, hmailbox, hsnap, hqpos, hsensors, hctrl⟩ := h
  rcases call with _ | _ | ⟨cmdType, motors⟩
  case setLowCmd => exact ⟨hbase, hseen, .inl ⟨rfl, rfl⟩, hsnap, hqpos, hsensors, hctrl⟩
  all_goals exact ⟨hbase, hseen, hmailbox, hsnap, hqpos, hsensors, hctrl⟩

theorem SameButParallel.mjStep {w w' : World K} (h : SameButParallel lm w w')
    (obs : Observation K) :
    SameButParallel lm ((world lm).next w (.mjStep obs)) ((world lm).next w' (.mjStep obs)) := by
  have hbase := h.base.mjStep (rfl : obs.joints lm = obs.joints lm)
  obtain ⟨c, d, ph⟩ := w
  obtain ⟨c', d', ph'⟩ := w'
  obtain ⟨-, hseen, hmailbox, hsnap, hqpos, hsensors, hctrl⟩ := h
  rcases hsnap with - | hs | hs
  · exact ⟨hbase, hseen, hmailbox, .idle, rfl, rfl, hctrl⟩
  · exact ⟨hbase, hseen, hmailbox, .snapped hs, hqpos, hsensors, hctrl⟩
  · exact ⟨hbase, hseen, hmailbox, .consumed hs, hqpos, hsensors, hctrl⟩

theorem SameButParallel.reset {w w' : World K} (h : SameButParallel lm w w')
    (obs : Observation K) (ctrl : ℕ → K) :
    SameButParallel lm ((world lm).next w (.reset obs ctrl))
      ((world lm).next w' (.reset obs ctrl)) := by
  have hbase := h.base.reset (rfl : obs.joints lm = obs.joints lm) ctrl ctrl
  obtain ⟨c, d, ph⟩ := w
  obtain ⟨c', d', ph'⟩ := w'
  obtain ⟨-, hseen, hmailbox, hsnap, hqpos, hsensors, hctrl⟩ := h
  rcases hsnap with - | hs | hs
  · exact ⟨hbase, hseen, hmailbox, .idle, rfl, rfl, rfl⟩
  · exact ⟨hbase, hseen, hmailbox, .snapped hs, hqpos, hsensors, hctrl⟩
  · exact ⟨hbase, hseen, hmailbox, .consumed hs, hqpos, hsensors, hctrl⟩

/-- **Common events leave related runs related, and show the same.** -/
theorem SameButParallel.next {w w' : World K} (h : SameButParallel lm w w') (e : Event K)
    (hharmless : HarmlessStep (w, w') (.inl e)) :
    (world lm).out w e = (world lm).out w' e
      ∧ SameButParallel lm ((world lm).next w e) ((world lm).next w' e) := by
  rcases e with call | - | obs | ⟨obs, ctrl⟩
  case call => exact ⟨rfl, h.call call⟩
  case mjStep => exact ⟨rfl, h.mjStep obs⟩
  case reset => exact ⟨rfl, h.reset obs ctrl⟩
  case tick =>
    obtain ⟨c, d, _ | s | s⟩ := w <;> obtain ⟨c', d', _ | s' | s'⟩ := w'
    case idle.idle =>
      exact ⟨rfl, h.base.tick, h.seen, h.mailbox, .snapped h.mailbox, h.qpos, h.sensordata,
        h.ctrl⟩
    case snapped.snapped => exact ⟨rfl, h.consume⟩
    case consumed.consumed =>
      exact ⟨congrArg some (h.sample_eq hharmless), h.actuate hharmless⟩
    all_goals exact nomatch h.snap

/-- An inserted PARALLEL command takes the slot. -/
theorem SameButParallel.insert {w w' : World K} (h : SameButParallel lm w w') {e : Event K}
    (he : IsParallel e) :
    (world lm).out w' e = none ∧ SameButParallel lm w ((world lm).next w' e) := by
  obtain ⟨motors, rfl⟩ := he
  have hbase := h.base.withMailbox (h.base.mailbox.withLowCmd_right 0 motors)
  exact ⟨rfl, hbase, h.seen, .inr rfl, h.snap, h.qpos, h.sensordata, h.ctrl⟩

variable (lm)

/-- **PARALLEL LowCmds are ignored along every run in which each one that a step of a session works
from displaced a command of the same effect**: the run with them and the run without them write the
same controls and go through the same modes and fall states. -/
theorem parallel_ignored (c : LocomotionController K) (d : MjData K)
    {es : List (Event K ⊕ Event K)} (hparallel : ∀ e, .inr e ∈ es → IsParallel e)
    (hharmless : (world lm).paired.Always HarmlessStep
      ({ ctl := c, data := d }, { ctl := c, data := d }) es) :
    (world lm).trace { ctl := c, data := d } (Machine.base es)
      = (world lm).trace { ctl := c, data := d } (Machine.full es) := by
  have hstart : SameButParallel lm { ctl := c, data := d } { ctl := c, data := d } :=
    ⟨⟨rfl, ⟨rfl, rfl, rfl, rfl, rfl, rfl, rfl⟩, ⟨rfl, rfl, rfl, rfl⟩, .idle,
      ⟨rfl, fun _ => rfl, fun _ => rfl⟩⟩, rfl, .inl ⟨rfl, rfl⟩, .idle, rfl, rfl, rfl⟩
  exact (world lm).trace_eq_of_inserted (fun _ _ e h hQ => h.next e hQ)
    (fun _ _ _ he h => h.insert he) es _ _ hparallel hstart hharmless

/-- A controller with a unit of stiffness on every joint. -/
def stiffController : LocomotionController ℚ where
  cfg := Config.ofYaml {} { kp := some (List.replicate 22 1) }

/-- A motor command of no torque. -/
def idleMotor : MotorCmdData ℚ := ⟨0, 0, 0, 0, 0, 0, 0⟩

/-- The head turned away from the pose of `k1Upright`. -/
def turnedObs : Observation ℚ :=
  { uprightObs with qpos := Function.update k1Upright.qpos 7 (1 / 10) }

/-- PARALLEL commands cleared on entry to the session, or empty before it has seen a command. -/
theorem parallel_ignored_unseen :
    let es : List (Event ℚ ⊕ Event ℚ) :=
      [.inl (.call (.requestModeChange 3)), .inr (.call (.setLowCmd 0 [idleMotor])), .inl .tick,
        .inl .tick, .inl .tick, .inl (.mjStep turnedObs), .inr (.call (.setLowCmd 0 [])),
        .inl .tick, .inl .tick, .inl .tick]
    (world (k1Plant 1)).trace { ctl := stiffController, data := k1Upright } (Machine.base es)
      = (world (k1Plant 1)).trace { ctl := stiffController, data := k1Upright }
        (Machine.full es) := by
  refine parallel_ignored (k1Plant 1) stiffController k1Upright ?_ ?_
  · intro e he
    have he : e = .call (.setLowCmd 0 [idleMotor]) ∨ e = .call (.setLowCmd 0 []) := by
      simpa using he
    rcases he with rfl | rfl <;> exact ⟨_, rfl⟩
  · refine ⟨trivial, trivial, nofun, nofun, ?entry, trivial, trivial, nofun, nofun, ?held, trivial⟩
    case entry =>
      intro _ _ _ _ _ hentry
      exact absurd hentry (by decide)
    case held =>
      intro snap snap' hsnap hsnap' _ _
      obtain rfl := Phase.consumed.inj hsnap
      obtain rfl := Phase.consumed.inj hsnap'
      exact .inr (.inl ⟨rfl, rfl⟩)

/-- A PARALLEL command with a motor lets go of the entry pose: the turned head is not brought
back. -/
theorem parallel_not_ignored :
    let es : List (Event ℚ ⊕ Event ℚ) :=
      [.inl (.call (.requestModeChange 3)), .inl .tick, .inl .tick, .inl .tick,
        .inl (.mjStep turnedObs), .inr (.call (.setLowCmd 0 [idleMotor])), .inl .tick, .inl .tick,
        .inl .tick]
    (∀ e, .inr e ∈ es → IsParallel e)
      ∧ (world (k1Plant 1)).trace { ctl := stiffController, data := k1Upright } (Machine.base es)
        ≠ (world (k1Plant 1)).trace { ctl := stiffController, data := k1Upright }
          (Machine.full es) := by
  refine ⟨?_, fun hsame => ?_⟩
  · intro e he
    obtain rfl : e = .call (.setLowCmd 0 [idleMotor]) := by simpa using he
    exact ⟨_, rfl⟩
  · have hyaw := congrArg (List.map fun s => s.ctrl JointIndexK1.headYaw) hsame
    exact absurd hyaw (by decide +kernel)

end LocomotionController

end K1Sim
