import K1Sim.Foundations.WorkerPool
import K1Sim.Locomotion.Controller

/-!
# Locomotion/Reactions — the reactor in front of the controller

`Locomotion` reacts to each command message with one call of a setter.  Its reactions are bound
without `Sync`, so they are tasks of the common pool and reach the controller's mutex in any order:
what the mailbox ends up with is what the last of them to get there wrote (`mailbox_of_quiet`).
-/

namespace K1Sim

open Foundations

/-- `Locomotion`: the controller, the once-only warnings and what has been logged. -/
structure LocomotionReactor (K : Type*) [Zero K] where
  controller : LocomotionController K
  walkWarned : Bool := false
  getupWarned : Bool := false
  liedownWarned : Bool := false
  kickWarned : Bool := false
  log : List String := []

namespace LocomotionReactor

variable {K : Type*} [Zero K]

/-- The entry that `warn_once` adds to the log. -/
def warnOnce (flag : Bool) (rpc : String) : List String :=
  if flag then []
  else [rpc ++ " RPC received, but locomotion policies live in NUbots_K1 now; "
    ++ "ignored (drive the robot with CUSTOM mode + rt/joint_ctrl)"]

/-- The reaction to a message. -/
def react (r : LocomotionReactor K) : CommandMessage K → LocomotionReactor K
  | .head cmd => { r with controller := r.controller.setHeadCommand cmd.pitch cmd.yaw }
  | .modeChange req =>
    { r with
      controller := r.controller.requestModeChange req.mode
      log := r.log ++ ["ChangeMode requested: mode " ++ toString req.mode] }
  | .lowCmd cmd => { r with controller := r.controller.setLowCmd cmd.cmdType cmd.motors }
  | .walk _ => { r with walkWarned := true, log := r.log ++ warnOnce r.walkWarned "Move" }
  | .getUp _ => { r with getupWarned := true, log := r.log ++ warnOnce r.getupWarned "GetUp" }
  | .lieDown _ =>
    { r with liedownWarned := true, log := r.log ++ warnOnce r.liedownWarned "LieDown" }
  | .visualKick _ =>
    { r with kickWarned := true, log := r.log ++ warnOnce r.kickWarned "VisualKick" }

/-- `default_pool_concurrency`. -/
def defaultPoolConcurrency : ℕ := 4

/-- The pool that runs the reactions. -/
def reactions : Machine (Pool (CommandMessage K) (LocomotionReactor K))
    (PoolEvent (CommandMessage K)) (CommandMessage K) :=
  Pool.machine defaultPoolConcurrency react

/-- A reactor with nothing to do. -/
def atRest (c : LocomotionController K) : Pool (CommandMessage K) (LocomotionReactor K) where
  queue := []
  running := []
  state := { controller := c }

/-- The mode a message requests. -/
def modeOf : CommandMessage K → Option ℤ
  | .modeChange req => some req.mode
  | _ => none

/-- The LowCmd a message carries. -/
def lowCmdOf : CommandMessage K → Option (ℤ × List (MotorCmdData K))
  | .lowCmd cmd => some (cmd.cmdType, cmd.motors)
  | _ => none

/-- The mode in the mailbox. -/
def mailboxMode (r : LocomotionReactor K) : ℤ := r.controller.mailbox.requestedMode

/-- The LowCmd in the mailbox. -/
def mailboxLowCmd (r : LocomotionReactor K) : ℤ × List (MotorCmdData K) :=
  (r.controller.mailbox.lowCmdType, r.controller.mailbox.lowCmdMotors)

theorem mailboxMode_react (r : LocomotionReactor K) (msg : CommandMessage K) :
    (r.react msg).mailboxMode = (modeOf msg).getD r.mailboxMode := by
  cases msg <;> rfl

theorem mailboxLowCmd_react (r : LocomotionReactor K) (msg : CommandMessage K) :
    (r.react msg).mailboxLowCmd = (lowCmdOf msg).getD r.mailboxLowCmd := by
  cases msg <;> rfl

/-- A message of a kind that nothing of its kind overtakes: emitted when the reactions to the
earlier ones have completed, and followed by none. -/
structure Unovertaken {α : Type*} (kind : CommandMessage K → Option α) (c : LocomotionController K)
    (before after : List (PoolEvent (CommandMessage K))) : Prop where
  settled : ∀ msg ∈ (reactions.run (atRest c) before).pending, kind msg = none
  last : ∀ msg ∈ Pool.emitted after, kind msg = none

/-- **A message that nothing overtakes stands.** -/
theorem register_of_unovertaken {α : Type*} {read : LocomotionReactor K → α}
    {kind : CommandMessage K → Option α}
    (hread : ∀ r msg, read (react r msg) = (kind msg).getD (read r))
    {c : LocomotionController K} {before after : List (PoolEvent (CommandMessage K))}
    {msg : CommandMessage K} {a : α} (hmsg : kind msg = some a)
    (h : Unovertaken kind c before after)
    (hquiet : (reactions.run (atRest c) (before ++ .emit msg :: after)).Quiet) :
    read (reactions.run (atRest c) (before ++ .emit msg :: after)).state = a := by
  have hwrite := Pool.lastWrite_of_settled defaultPoolConcurrency react hmsg h.settled h.last hquiet
  rw [reactions, Pool.register_run _ _ hread, hwrite]
  rfl

/-- **Once every reaction has completed, each emitted message has had its one reaction, and the
mailbox holds the mode and the LowCmd of the messages whose reactions got to the mutex last** —
those emitted last, if nothing of their kind overtook them. -/
theorem mailbox_of_quiet (c : LocomotionController K) {es : List (PoolEvent (CommandMessage K))}
    (hquiet : (reactions.run (atRest c) es).Quiet) :
    (reactions.trace (atRest c) es).Perm (Pool.emitted es)
      ∧ (reactions.run (atRest c) es).state.mailboxMode
        = (lastWrite modeOf (reactions.trace (atRest c) es)).getD c.mailbox.requestedMode
      ∧ (reactions.run (atRest c) es).state.mailboxLowCmd
        = (lastWrite lowCmdOf (reactions.trace (atRest c) es)).getD
          (c.mailbox.lowCmdType, c.mailbox.lowCmdMotors)
      ∧ (∀ before req after, es = before ++ .emit (.modeChange req) :: after →
          Unovertaken modeOf c before after →
            (reactions.run (atRest c) es).state.mailboxMode = req.mode)
      ∧ ∀ before cmd after, es = before ++ .emit (.lowCmd cmd) :: after →
          Unovertaken lowCmdOf c before after →
            (reactions.run (atRest c) es).state.mailboxLowCmd = (cmd.cmdType, cmd.motors) := by
  have hrest : (atRest c).Quiet := rfl
  refine ⟨Pool.trace_perm_emitted_of_quiet _ _ hrest hquiet,
    Pool.register_run _ _ mailboxMode_react _ es, Pool.register_run _ _ mailboxLowCmd_react _ es,
    ?mode, ?lowCmd⟩
  case mode =>
    rintro before req after rfl hfree
    exact register_of_unovertaken mailboxMode_react rfl hfree hquiet
  case lowCmd =>
    rintro before cmd after rfl hfree
    exact register_of_unovertaken mailboxLowCmd_react rfl hfree hquiet

/-- PREPARE and a LowCmd, one after the other: both stand. -/
theorem mailbox_of_quiet_inTurn :
    let es : List (PoolEvent (CommandMessage ℚ)) :=
      [.emit (.modeChange ⟨1⟩), .emit (.lowCmd ⟨1, []⟩), .start, .start, .finish 1, .finish 0]
    (reactions.run (atRest { cfg := LocomotionController.Config.ofYaml {} {} })
      es).state.mailboxMode = 1 := by
  intro es
  have hquiet :
      (reactions.run (atRest { cfg := LocomotionController.Config.ofYaml {} {} }) es).Quiet := rfl
  obtain ⟨-, -, -, hmode, -⟩ := mailbox_of_quiet _ hquiet
  exact hmode [] ⟨1⟩ _ rfl ⟨nofun, by simp [Pool.emitted, modeOf]⟩

/-- PREPARE, then CUSTOM, on two threads of the pool: CUSTOM gets to the mutex first, and PREPARE
stands. -/
theorem mailbox_not_lastEmitted :
    let es : List (PoolEvent (CommandMessage ℚ)) :=
      [.emit (.modeChange ⟨1⟩), .emit (.modeChange ⟨3⟩), .start, .start, .finish 1, .finish 0]
    let p := reactions.run (atRest { cfg := LocomotionController.Config.ofYaml {} {} }) es
    p.Quiet ∧ lastWrite modeOf (Pool.emitted es) = some 3 ∧ p.state.mailboxMode ≠ 3 := by
  refine ⟨rfl, rfl, ?_⟩
  decide +kernel

end LocomotionReactor

end K1Sim
