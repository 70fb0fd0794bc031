import K1Sim.Foundations.Machine
import K1Sim.Locomotion.Controller

/-!
# Locomotion/World — the controller among its callers

The physics thread runs `step` in three parts (`Phase`), the setters run on other threads, and a
setter may fall between any two parts.  `mj_step` and `SimCore::reset` take the simulation mutex
that the physics thread holds throughout `step`, so they wait while one is under way.  A word of
`Event`s is one interleaving; its trace is what each `step` left behind.
-/

namespace K1Sim

open Foundations

namespace LocomotionController

/-- How far the physics thread is in a `step`, with the snapshot it works from. -/
inductive Phase (K : Type*) [Zero K] where
  | idle
  | snapped (snap : CommandSnapshot K)
  | consumed (snap : CommandSnapshot K)

/-- A call of one of the controller's setters. -/
inductive Call (K : Type*) where
  | setHeadCommand (pitch yaw : K)
  | requestModeChange (mode : ℤ)
  | setLowCmd (cmdType : ℤ) (motors : List (MotorCmdData K))

/-- What a physics step or a reset leaves for the controller to see. -/
structure Observation (K : Type*) where
  qpos : ℕ → K
  qvel : ℕ → K
  sensordata : ℕ → K

/-- The bare K1 upright, as a keyframe leaves it. -/
def uprightObs : Observation ℚ := ⟨k1Upright.qpos, k1Upright.qvel, k1Upright.sensordata⟩

/-- One move of one thread. -/
inductive Event (K : Type*) where
  | call (c : Call K)
  /-- The physics thread does the next part of `step`. -/
  | tick
  | mjStep (obs : Observation K)
  /-- `SimCore::reset` to a keyframe of time zero. -/
  | reset (obs : Observation K) (ctrl : ℕ → K)

/-- The controller, the simulation data, and the `step` under way. -/
structure World (K : Type*) [Zero K] where
  ctl : LocomotionController K
  data : MjData K
  phase : Phase K := .idle

/-- What one `step` leaves behind. -/
structure Sample (K : Type*) where
  ctrl : JointArray K
  mode : RobotMode
  fallState : FallState

/-- The effect of a call. -/
def applyCall {K : Type*} [Zero K] (c : LocomotionController K) : Call K → LocomotionController K
  | .setHeadCommand pitch yaw => c.setHeadCommand pitch yaw
  | .requestModeChange mode => c.requestModeChange mode
  | .setLowCmd cmdType motors => c.setLowCmd cmdType motors

/-- The data after a physics step: the model's timestep later, with new readings. -/
def advance {K : Type*} [Add K] (timestep : K) (d : MjData K) (obs : Observation K) : MjData K :=
  { time := d.time + timestep, qpos := obs.qpos, qvel := obs.qvel, ctrl := d.ctrl,
    sensordata := obs.sensordata }

/-- The data after a reset. -/
def rewind {K : Type*} [Zero K] (obs : Observation K) (ctrl : ℕ → K) : MjData K :=
  { time := 0, qpos := obs.qpos, qvel := obs.qvel, ctrl := ctrl, sensordata := obs.sensordata }

section Machine

variable {K : Type*} [Field K] [LinearOrder K] [Libc K] (lm : LoadedModel K)

/-- The next part of `step`. -/
def World.tick (w : World K) : World K :=
  match w.phase with
  | .idle => { w with phase := .snapped w.ctl.snapshotCommand }
  | .snapped snap =>
    { w with ctl := consumeModeRequest lm w.ctl snap w.data, phase := .consumed snap }
  | .consumed snap =>
    let r := actuate lm w.ctl snap w.data
    { ctl := r.1, data := r.2, phase := .idle }

/-- What a `step` left behind. -/
def World.sample (w : World K) : Sample K where
  ctrl := jointCtrl lm w.data
  mode := w.ctl.fsm.mode
  fallState := w.ctl.fsm.fallState

/-- The interleavings of the controller's callers, the physics thread and the resets.  The last
part of a `step` shows what the `step` left behind. -/
def world : Machine (World K) (Event K) (Sample K) where
  next w
    | .call c => { w with ctl := applyCall w.ctl c }
    | .tick => w.tick lm
    | .mjStep obs =>
      match w.phase with
      | .idle => { w with data := advance lm.model.optTimestep w.data obs }
      | _ => w
    | .reset obs ctrl =>
      match w.phase with
      | .idle => { w with data := rewind obs ctrl }
      | _ => w
  out w
    | .tick =>
      match w.phase with
      | .consumed _ => some ((w.tick lm).sample lm)
      | _ => none
    | _ => none

/-- Only the last part of a `step` shows anything. -/
theorem out_eq_some_iff {w : World K} {e : Event K} {s : Sample K} :
    (world lm).out w e = some s ↔
      e = .tick ∧ (∃ snap, w.phase = .consumed snap) ∧ ((world lm).next w .tick).sample lm = s := by
  rcases w with ⟨c, d, _ | snap | snap⟩ <;> cases e <;> simp [world]

/-- A call is felt in the mailbox only. -/
theorem next_call (w : World K) (call : Call K) :
    (world lm).next w (.call call)
      = { w with ctl.mailbox := (applyCall w.ctl call).mailbox } := by
  cases call <;> rfl

/-- **What a move that is no call can do**, as far as the mode is concerned: nothing, or the thread
takes its snapshot of the mailbox, or it takes up the request in the snapshot that it has. -/
inductive Uncalled (w w' : World K) : Prop where
  | kept (hmailbox : w'.ctl.mailbox = w.ctl.mailbox)
      (hstate : w'.ctl.fsm.state = w.ctl.fsm.state) (hmode : w'.ctl.fsm.mode = w.ctl.fsm.mode)
      (hseq : w'.ctl.fsm.lastModeSeq = w.ctl.fsm.lastModeSeq)
      (hphase : ∀ snap, w'.phase = .snapped snap → w.phase = .snapped snap)
  | snapped (h : w' = { w with phase := .snapped w.ctl.snapshotCommand })
  | consumed (snap : CommandSnapshot K) (hphase : w.phase = .snapped snap)
      (h : w' = { w with
        ctl := consumeModeRequest lm w.ctl snap w.data, phase := .consumed snap })

theorem uncalled_next (w : World K) {e : Event K} (he : ∀ call, e ≠ .call call) :
    Uncalled lm w ((world lm).next w e) := by
  obtain ⟨c, d, ph⟩ := w
  rcases e with call | - | obs | ⟨obs, ctrl⟩
  case call => exact absurd rfl (he call)
  case mjStep => rcases ph <;> exact .kept rfl rfl rfl rfl fun _ h => h
  case reset => rcases ph <;> exact .kept rfl rfl rfl rfl fun _ h => h
  case tick =>
    rcases ph with - | snap | snap
    case idle => exact .snapped rfl
    case snapped => exact .consumed snap rfl rfl
    case consumed =>
      obtain ⟨_, _, _, _, hact⟩ := actuate_frame lm c snap d
      simp only [world, World.tick, hact]
      exact .kept rfl rfl rfl rfl fun _ h => by cases h

/-- Nothing reconfigures a controller. -/
theorem run_cfg (es : List (Event K)) (w : World K) :
    ((world lm).run w es).ctl.cfg = w.ctl.cfg := by
  refine (world lm).run_induction (P := fun v => v.ctl.cfg = w.ctl.cfg) (fun v e hv => ?_) es w rfl
  obtain ⟨c, d, ph⟩ := v
  rcases e with call | - | obs | ⟨obs, ctrl⟩
  case call =>
    rw [next_call]
    exact hv
  case mjStep => rcases ph <;> exact hv
  case reset => rcases ph <;> exact hv
  case tick =>
    rcases ph with - | snap | snap
    case idle => exact hv
    case snapped => exact (consumeModeRequest_frame lm c snap d).1.trans hv
    case consumed => exact (actuate_keeps lm c snap d).1.trans hv

/-- **The three parts, run with no call in between, are the source's `step`.** -/
theorem run_step (w : World K) (h : w.phase = .idle) :
    (world lm).run w [.tick, .tick, .tick]
      = { ctl := (step lm w.ctl w.data).1, data := (step lm w.ctl w.data).2, phase := .idle } := by
  simp only [Machine.run_cons, Machine.run_nil, world, World.tick, h, step]

end Machine

end LocomotionController

end K1Sim
