import K1Sim.Foundations.CriticalSection
import K1Sim.Locomotion.World

/-!
# Locomotion/Mailbox — the mailbox member by member, under `cmd_mutex_`

`world` runs a setter, the snapshot and the clearing of the mailbox each as one event.  Here each of
them is what the source has: a sequence of loads and stores of single members between taking
`cmd_mutex_` and letting it go, with the other threads running in between.  What the controller
does is the same (`mailbox_linearizes`).
-/

namespace K1Sim

open Foundations

namespace LocomotionController

/-- How far the physics thread is in a `step`.  `entering`: CUSTOM is entered and the mailbox not
cleared yet. -/
inductive Progress (K : Type*) [Zero K] where
  | idle
  | snapped (snap : CommandSnapshot K)
  | entering (snap : CommandSnapshot K)
  | consumed (snap : CommandSnapshot K)

/-- Everything outside the mailbox. -/
structure Unguarded (K : Type*) [Zero K] where
  cfg : Config K
  fsm : Fsm K
  data : MjData K
  progress : Progress K := .idle

/-- The operations that hold `cmd_mutex_`. -/
inductive MailboxOp (K : Type*) where
  | call (c : Call K)
  | snapshotCommand
  /-- `low_cmd_motors_.clear()`, on entry to CUSTOM. -/
  | clearMotors

/-- The moves that do not. -/
inductive MailboxMove (K : Type*) where
  | tick
  | mjStep (obs : Observation K)
  | reset (obs : Observation K) (ctrl : ℕ → K)

/-- The local variables of the operations: the snapshot being filled in, and the register that
`++mode_seq_` goes through. -/
structure MailboxLocals (K : Type*) [Zero K] where
  snap : CommandSnapshot K := {}
  register : UInt64 := 0

variable {K : Type*}

section Accesses

variable [Zero K]

/-- An assignment to a member of the mailbox. -/
def store (f : CommandSnapshot K → MailboxLocals K → CommandSnapshot K)
    (x : CommandSnapshot K × MailboxLocals K) : CommandSnapshot K × MailboxLocals K :=
  (f x.1 x.2, x.2)

/-- A read of a member of the mailbox. -/
def load (f : CommandSnapshot K → MailboxLocals K → MailboxLocals K)
    (x : CommandSnapshot K × MailboxLocals K) : CommandSnapshot K × MailboxLocals K :=
  (x.1, f x.1 x.2)

/-- The accesses of an operation, in the source's order. -/
def MailboxOp.accesses :
    MailboxOp K → List (CommandSnapshot K × MailboxLocals K → CommandSnapshot K × MailboxLocals K)
  | .call (.setHeadCommand pitch yaw) =>
    [store fun m _ => { m with headPitch := pitch }, store fun m _ => { m with headYaw := yaw }]
  | .call (.requestModeChange mode) =>
    [store fun m _ => { m with requestedMode := mode },
      load fun m l => { l with register := m.modeSeq },
      store fun m l => { m with modeSeq := l.register + 1 }]
  | .call (.setLowCmd cmdType motors) =>
    [store fun m _ => { m with lowCmdType := cmdType },
      store fun m _ => { m with lowCmdMotors := motors }]
  | .snapshotCommand =>
    [load fun m l => { l with snap.headPitch := m.headPitch },
      load fun m l => { l with snap.headYaw := m.headYaw },
      load fun m l => { l with snap.modeSeq := m.modeSeq },
      load fun m l => { l with snap.requestedMode := m.requestedMode },
      load fun m l => { l with snap.lowCmdType := m.lowCmdType },
      load fun m l => { l with snap.lowCmdMotors := m.lowCmdMotors }]
  | .clearMotors => [store fun m _ => { m with lowCmdMotors := [] }]

/-- The setters are other threads' and may come at any time; the other two are the physics
thread's own. -/
def MailboxOp.ready (u : Unguarded K) : MailboxOp K → Bool
  | .call _ => true
  | .snapshotCommand => match u.progress with
    | .idle => true
    | _ => false
  | .clearMotors => match u.progress with
    | .entering _ => true
    | _ => false

/-- What an operation leaves outside the mailbox. -/
def MailboxOp.finish (u : Unguarded K) : MailboxOp K → MailboxLocals K → Unguarded K
  | .call _, _ => u
  | .snapshotCommand, l => { u with progress := .snapped l.snap }
  | .clearMotors, _ => match u.progress with
    | .entering snap => { u with progress := .consumed snap }
    | _ => u

/-- While the physics thread is inside the lock it makes no other move, and `mj_step` and resets
wait for its `step` to end. -/
def MailboxOp.waits : MailboxOp K → MailboxMove K → Bool
  | .call _, _ => false
  | _, _ => true

end Accesses

variable [Field K] [LinearOrder K] [Libc K] (lm : LoadedModel K)

/-- The controller as the physics thread sees it between its critical sections: the mailbox is not
its to read. -/
def Unguarded.ctl (u : Unguarded K) : LocomotionController K := { cfg := u.cfg, fsm := u.fsm }

/-- A move, outside the lock.  `entering` and `idle` wait for an operation. -/
def Unguarded.move (u : Unguarded K) : MailboxMove K → Unguarded K
  | .tick => match u.progress with
    | .idle => u
    | .snapped snap =>
      { u with
        fsm := (consumeModeRequest lm u.ctl snap u.data).fsm
        progress := if enteredState u.ctl snap = some .custom then .entering snap
          else .consumed snap }
    | .entering _ => u
    | .consumed snap =>
      let r := actuate lm u.ctl snap u.data
      { u with fsm := r.1.fsm, data := r.2, progress := .idle }
  | .mjStep obs => match u.progress with
    | .idle => { u with data := advance lm.model.optTimestep u.data obs }
    | _ => u
  | .reset obs ctrl => match u.progress with
    | .idle => { u with data := rewind obs ctrl }
    | _ => u

/-- What a move shows: the last part of a `step` shows what the `step` left behind. -/
def Unguarded.moveShows (u : Unguarded K) : MailboxMove K → Option (Sample K)
  | .tick => match u.progress with
    | .consumed _ =>
      let v := u.move lm .tick
      some ⟨jointCtrl lm v.data, v.fsm.mode, v.fsm.fallState⟩
    | _ => none
  | _ => none

/-- The controller with its lock.  A setter is shown where it returns. -/
def mailboxProgram :
    Guarded (CommandSnapshot K) (Unguarded K) (MailboxOp K) (MailboxMove K) (MailboxLocals K)
      (Call K ⊕ Sample K) where
  ready := MailboxOp.ready
  locals _ := {}
  accesses := MailboxOp.accesses
  finish := MailboxOp.finish
  shows
    | _, .call c, _ => some (.inl c)
    | _, _, _ => none
  move := Unguarded.move lm
  moveShows u f := (u.moveShows lm f).map .inr
  waits := MailboxOp.waits
  ready_move u o f hwaits hready := by
    cases o with
    | call => rfl
    | snapshotCommand => exact absurd hwaits (by simp [MailboxOp.waits])
    | clearMotors => exact absurd hwaits (by simp [MailboxOp.waits])

/-! ## An operation run whole -/

section Whole

omit [LinearOrder K] [Libc K]

/-- A setter, access by access, is the setter. -/
theorem perform_call (c : LocomotionController K) (call : Call K) :
    (Guarded.perform (MailboxOp.call call).accesses (c.mailbox, {})).1
      = (applyCall c call).mailbox := by
  cases call <;> rfl

/-- A snapshot, access by access, is the mailbox. -/
theorem perform_snapshotCommand (m : CommandSnapshot K) :
    Guarded.perform MailboxOp.snapshotCommand.accesses (m, {}) = (m, { snap := m }) := rfl

theorem perform_clearMotors (m : CommandSnapshot K) :
    (Guarded.perform MailboxOp.clearMotors.accesses (m, {})).1
      = { m with lowCmdMotors := [] } := rfl

end Whole

/-! ## The physics thread reads no mailbox outside the lock -/

section Blind

variable {lm} (cfg : Config K) (fsm : Fsm K) (m m' snap : CommandSnapshot K) (d : MjData K)

omit [LinearOrder K] [Libc K] in
theorem enteredState_mailbox :
    enteredState ⟨cfg, fsm, m⟩ snap = enteredState ⟨cfg, fsm, m'⟩ snap := rfl

omit [Libc K] in
theorem consumeModeRequest_fsm_mailbox :
    (consumeModeRequest lm ⟨cfg, fsm, m⟩ snap d).fsm
      = (consumeModeRequest lm ⟨cfg, fsm, m'⟩ snap d).fsm := by
  simp only [consumeModeRequest]
  split
  · rfl
  · simp only [handleModeRequest]
    split <;> rfl

variable (lm) in
omit [Libc K] in
/-- **Only entry to CUSTOM writes the mailbox**, and what it writes is the clearing. -/
theorem consumeModeRequest_eq :
    consumeModeRequest lm ⟨cfg, fsm, m⟩ snap d
      = { cfg := cfg
          fsm := (consumeModeRequest lm ⟨cfg, fsm, m'⟩ snap d).fsm
          mailbox := if enteredState ⟨cfg, fsm, m'⟩ snap = some .custom
            then { m with lowCmdMotors := [] } else m } := by
  have hcfg := (consumeModeRequest_frame lm ⟨cfg, fsm, m⟩ snap d).1
  have hmailbox : (consumeModeRequest lm ⟨cfg, fsm, m⟩ snap d).mailbox
      = if enteredState ⟨cfg, fsm, m⟩ snap = some .custom
        then { m with lowCmdMotors := [] } else m := by
    split
    · next h => rw [consumeModeRequest_of_custom lm _ snap d h]
    · next h => exact (consumeModeRequest_of_ne_custom lm _ snap d h).2.2.2
  rw [enteredState_mailbox cfg fsm m m'] at hmailbox
  rw [← hmailbox, ← consumeModeRequest_fsm_mailbox cfg fsm m m' snap d]
  cases hresult : consumeModeRequest lm ⟨cfg, fsm, m⟩ snap d with
  | mk cfg' fsm'' m'' =>
    rw [hresult] at hcfg
    exact congrArg (LocomotionController.mk · fsm'' m'') hcfg

variable (lm) in
theorem actuate_mailbox :
    actuate lm ⟨cfg, fsm, m⟩ snap d
      = ({ (actuate lm ⟨cfg, fsm, m'⟩ snap d).1 with mailbox := m },
          (actuate lm ⟨cfg, fsm, m'⟩ snap d).2) := by
  simp only [actuate, updateFallDetection]
  cases fsm.state with
  | damping => rfl
  | prepare => rfl
  | custom =>
    simp only [stepCustom]
    split
    · rfl
    · split
      · rfl
      · split <;> rfl

end Blind

/-! ## Whole operations are the events of `world` -/

/-- `world`, with the calls in its trace. -/
def worldWithCalls : Machine (World K) (Event K) (Call K ⊕ Sample K) where
  next := (world lm).next
  out w
    | .call c => some (.inl c)
    | e => ((world lm).out w e).map .inr

/-- The phase of `world` that stands for the physics thread's progress.  CUSTOM is entered in one
event there: until the mailbox is cleared, the request has not been consumed. -/
def Stands (u : Unguarded K) (w : World K) : Prop :=
  match u.progress with
  | .idle => w.phase = .idle ∧ w.ctl.fsm = u.fsm
  | .snapped snap => w.phase = .snapped snap ∧ w.ctl.fsm = u.fsm
  | .entering snap => w.phase = .snapped snap
    ∧ enteredState ⟨w.ctl.cfg, w.ctl.fsm, {}⟩ snap = some .custom
    ∧ u.fsm = (consumeModeRequest lm ⟨w.ctl.cfg, w.ctl.fsm, {}⟩ snap w.data).fsm
  | .consumed snap => w.phase = .consumed snap ∧ w.ctl.fsm = u.fsm

/-- The mailbox and the rest beside a `World`. -/
structure Beside (s : CommandSnapshot K × Unguarded K) (w : World K) : Prop where
  cfg : w.ctl.cfg = s.2.cfg
  data : w.data = s.2.data
  mailbox : w.ctl.mailbox = s.1
  stands : Stands lm s.2 w

/-- The event a whole operation or a move stands for. -/
def eventOf (s : CommandSnapshot K × Unguarded K) : MailboxOp K ⊕ MailboxMove K → Option (Event K)
  | .inl (.call c) => some (.call c)
  | .inl .snapshotCommand => match s.2.progress with
    | .idle => some .tick
    | _ => none
  | .inl .clearMotors => match s.2.progress with
    | .entering _ => some .tick
    | _ => none
  | .inr .tick => match s.2.progress with
    | .idle => none
    | .snapped snap => if enteredState s.2.ctl snap = some .custom then none else some .tick
    | .entering _ => none
    | .consumed _ => some .tick
  | .inr (.mjStep obs) => some (.mjStep obs)
  | .inr (.reset obs ctrl) => some (.reset obs ctrl)

variable {lm}

theorem behind_call {s : CommandSnapshot K × Unguarded K} {w : World K} (h : Beside lm s w)
    (call : Call K) :
    (mailboxProgram lm).atomic.StandsBehind (worldWithCalls lm) (Beside lm) s w (.inl (.call call))
      (some (.call call)) := by
  obtain ⟨m, u⟩ := s
  obtain ⟨hcfg, hdata, hmailbox, hstands⟩ := h
  obtain rfl : w.ctl.mailbox = m := hmailbox
  refine ⟨rfl, ?_⟩
  change Beside lm _ ((world lm).next w (.call call))
  rw [next_call]
  exact ⟨hcfg, hdata, (perform_call w.ctl call).symm, hstands⟩

theorem behind_snapshotCommand {s : CommandSnapshot K × Unguarded K} {w : World K}
    (h : Beside lm s w) :
    (mailboxProgram lm).atomic.StandsBehind (worldWithCalls lm) (Beside lm) s w
      (.inl .snapshotCommand) (eventOf s (.inl .snapshotCommand)) := by
  obtain ⟨m, ⟨cfg, fsm, d, progress⟩⟩ := s
  obtain ⟨⟨cfg', fsm', m'⟩, d', ph⟩ := w
  cases progress with
  | snapped => exact ⟨rfl, h⟩
  | entering => exact ⟨rfl, h⟩
  | consumed => exact ⟨rfl, h⟩
  | idle =>
    obtain ⟨rfl, rfl, rfl, rfl, rfl⟩ := h
    exact ⟨rfl, rfl, rfl, rfl, rfl, rfl⟩

theorem behind_clearMotors {s : CommandSnapshot K × Unguarded K} {w : World K}
    (h : Beside lm s w) :
    (mailboxProgram lm).atomic.StandsBehind (worldWithCalls lm) (Beside lm) s w (.inl .clearMotors)
      (eventOf s (.inl .clearMotors)) := by
  obtain ⟨m, ⟨cfg, fsm, d, progress⟩⟩ := s
  obtain ⟨⟨cfg', fsm', m'⟩, d', ph⟩ := w
  cases progress with
  | idle => exact ⟨rfl, h⟩
  | snapped => exact ⟨rfl, h⟩
  | consumed => exact ⟨rfl, h⟩
  | entering snap =>
    obtain ⟨rfl, rfl, rfl, rfl, hentered, hfsm⟩ := h
    have hconsume := consumeModeRequest_eq lm cfg' fsm' m' {} snap d'
    rw [if_pos hentered] at hconsume
    refine ⟨rfl, ?_⟩
    simp only [worldWithCalls, world, World.tick]
    rw [hconsume]
    exact ⟨rfl, rfl, rfl, rfl, hfsm.symm⟩

theorem behind_tick_snapped {m : CommandSnapshot K} {u : Unguarded K} {snap : CommandSnapshot K}
    (hprogress : u.progress = .snapped snap) {w : World K} (h : Beside lm (m, u) w) :
    (mailboxProgram lm).atomic.StandsBehind (worldWithCalls lm) (Beside lm) (m, u) w (.inr .tick)
      (eventOf (m, u) (.inr .tick)) := by
  obtain ⟨cfg, fsm, d, progress⟩ := u
  obtain ⟨⟨cfg', fsm', m'⟩, d', ph⟩ := w
  obtain rfl : progress = .snapped snap := hprogress
  obtain ⟨rfl, rfl, rfl, rfl, rfl⟩ := h
  have hconsume := consumeModeRequest_eq lm cfg' fsm' m' {} snap d'
  by_cases hentered : enteredState ⟨cfg', fsm', {}⟩ snap = some .custom
  · simp only [eventOf, Unguarded.ctl, hentered, if_true]
    refine ⟨rfl, rfl, rfl, rfl, ?_⟩
    simp only [mailboxProgram, Guarded.atomic, Unguarded.move, Unguarded.ctl, hentered, if_true]
    exact ⟨rfl, hentered, rfl⟩
  · rw [if_neg hentered] at hconsume
    simp only [eventOf, Unguarded.ctl, hentered, if_false]
    refine ⟨rfl, ?_⟩
    simp only [worldWithCalls, world, World.tick, mailboxProgram, Guarded.atomic, Unguarded.move,
      Unguarded.ctl, hentered, if_false]
    rw [hconsume]
    exact ⟨rfl, rfl, rfl, rfl, rfl⟩

theorem behind_tick_consumed {m : CommandSnapshot K} {u : Unguarded K} {snap : CommandSnapshot K}
    (hprogress : u.progress = .consumed snap) {w : World K} (h : Beside lm (m, u) w) :
    (mailboxProgram lm).atomic.StandsBehind (worldWithCalls lm) (Beside lm) (m, u) w (.inr .tick)
      (eventOf (m, u) (.inr .tick)) := by
  obtain ⟨cfg, fsm, d, progress⟩ := u
  obtain ⟨⟨cfg', fsm', m'⟩, d', ph⟩ := w
  obtain rfl : progress = .consumed snap := hprogress
  obtain ⟨rfl, rfl, rfl, rfl, rfl⟩ := h
  have hsame := actuate_mailbox lm cfg' fsm' m' {} snap d'
  constructor
  · simp only [worldWithCalls, world, World.tick, World.sample, hsame]
    rfl
  · simp only [worldWithCalls, world, World.tick, hsame]
    exact ⟨(actuate_keeps lm ⟨cfg', fsm', {}⟩ snap d').1, rfl, rfl, rfl, rfl⟩

theorem behind_tick {s : CommandSnapshot K × Unguarded K} {w : World K} (h : Beside lm s w) :
    (mailboxProgram lm).atomic.StandsBehind (worldWithCalls lm) (Beside lm) s w (.inr .tick)
      (eventOf s (.inr .tick)) := by
  obtain ⟨m, u⟩ := s
  cases hprogress : u.progress with
  | snapped snap => exact behind_tick_snapped hprogress h
  | consumed snap => exact behind_tick_consumed hprogress h
  | idle =>
    obtain ⟨cfg, fsm, d, progress⟩ := u
    obtain rfl : progress = .idle := hprogress
    exact ⟨rfl, h⟩
  | entering snap =>
    obtain ⟨cfg, fsm, d, progress⟩ := u
    obtain rfl : progress = .entering snap := hprogress
    exact ⟨rfl, h⟩

theorem behind_mjStep {s : CommandSnapshot K × Unguarded K} {w : World K} (h : Beside lm s w)
    (obs : Observation K) :
    (mailboxProgram lm).atomic.StandsBehind (worldWithCalls lm) (Beside lm) s w (.inr (.mjStep obs))
      (some (.mjStep obs)) := by
  obtain ⟨m, ⟨cfg, fsm, d, progress⟩⟩ := s
  obtain ⟨c, d', ph⟩ := w
  obtain ⟨hcfg, rfl, hmailbox, hstands⟩ := h
  refine ⟨rfl, ?_⟩
  cases progress with
  | idle =>
    obtain ⟨rfl, hfsm⟩ := hstands
    exact ⟨hcfg, rfl, hmailbox, rfl, hfsm⟩
  | _ =>
    obtain rfl := hstands.1
    exact ⟨hcfg, rfl, hmailbox, hstands⟩

theorem behind_reset {s : CommandSnapshot K × Unguarded K} {w : World K} (h : Beside lm s w)
    (obs : Observation K) (ctrl : ℕ → K) :
    (mailboxProgram lm).atomic.StandsBehind (worldWithCalls lm) (Beside lm) s w
      (.inr (.reset obs ctrl)) (some (.reset obs ctrl)) := by
  obtain ⟨m, ⟨cfg, fsm, d, progress⟩⟩ := s
  obtain ⟨c, d', ph⟩ := w
  obtain ⟨hcfg, rfl, hmailbox, hstands⟩ := h
  refine ⟨rfl, ?_⟩
  cases progress with
  | idle =>
    obtain ⟨rfl, hfsm⟩ := hstands
    exact ⟨hcfg, rfl, hmailbox, rfl, hfsm⟩
  | _ =>
    obtain rfl := hstands.1
    exact ⟨hcfg, rfl, hmailbox, hstands⟩

/-- **Whole operations refine `world`.** -/
theorem atomic_refines_world (os : List (MailboxOp K ⊕ MailboxMove K))
    {s : CommandSnapshot K × Unguarded K} {w : World K} (h : Beside lm s w) :
    Beside lm ((mailboxProgram lm).atomic.run s os)
        ((worldWithCalls lm).run w ((mailboxProgram lm).atomic.word eventOf s os))
      ∧ (worldWithCalls lm).trace w ((mailboxProgram lm).atomic.word eventOf s os)
        = (mailboxProgram lm).atomic.trace s os := by
  refine (mailboxProgram lm).atomic.refines (fun s w o h => ?_) os h
  match o with
  | .inl (.call call) => exact behind_call h call
  | .inl .snapshotCommand => exact behind_snapshotCommand h
  | .inl .clearMotors => exact behind_clearMotors h
  | .inr .tick => exact behind_tick h
  | .inr (.mjStep obs) => exact behind_mjStep h obs
  | .inr (.reset obs ctrl) => exact behind_reset h obs ctrl

/-- The samples of `world` are what is left of its trace without the calls. -/
theorem trace_worldWithCalls (es : List (Event K)) (w : World K) :
    ((worldWithCalls lm).trace w es).filterMap Sum.getRight? = (world lm).trace w es := by
  induction es generalizing w with
  | nil => rfl
  | cons e es ih =>
    rw [Machine.trace_cons, Machine.trace_cons, List.filterMap_append]
    refine congrArg₂ (· ++ ·) ?_ (ih ((world lm).next w e))
    cases e with
    | call => rfl
    | mjStep => rfl
    | reset => rfl
    | tick => cases hout : (world lm).out w .tick <;> simp [worldWithCalls, hout]

/-- The controller between two `step`s, with `cmd_mutex_` free. -/
def atRest (c : LocomotionController K) (d : MjData K) :
    Locked (CommandSnapshot K) (Unguarded K) (MailboxOp K) (MailboxLocals K) :=
  ⟨c.mailbox, { cfg := c.cfg, fsm := c.fsm, data := d }, none⟩

variable (lm) in
theorem linearized_atRest (c : LocomotionController K) (d : MjData K) :
    (mailboxProgram lm).Linearized (atRest c d) (c.mailbox, (atRest c d).rest) := ⟨rfl, rfl⟩

omit [Libc K] in
theorem beside_atRest_iff {c : LocomotionController K} {d : MjData K} {w : World K} :
    Beside lm (c.mailbox, (atRest c d).rest) w ↔ w = ⟨c, d, .idle⟩ := by
  constructor
  · intro h
    obtain ⟨⟨cfg, fsm, m⟩, d', ph⟩ := w
    obtain ⟨cfg', fsm', m'⟩ := c
    obtain ⟨hcfg, hdata, hmailbox, hphase, hfsm⟩ := h
    obtain rfl : cfg = cfg' := hcfg
    obtain rfl : d' = d := hdata
    obtain rfl : m = m' := hmailbox
    obtain rfl : ph = .idle := hphase
    obtain rfl : fsm = fsm' := hfsm
    rfl
  · rintro rfl
    exact ⟨rfl, rfl, rfl, rfl, rfl⟩

variable (lm)

/-- **`cmd_mutex_` makes the controller's operations whole.**  However the loads and stores of the
mailbox fall among each other and among the rest of `step`, some run of `world` has the same setters
return and the same `step`s end with the same samples, in the same order; and whenever the lock is
free between two `step`s, the controller and the data are where that run has them. -/
theorem mailbox_linearizes (c : LocomotionController K) (d : MjData K)
    (es : List (LockStep (MailboxOp K) (MailboxMove K))) :
    ∃ ws : List (Event K),
      (worldWithCalls lm).trace ⟨c, d, .idle⟩ ws
          = (mailboxProgram lm).interleaved.trace (atRest c d) es
        ∧ (world lm).trace ⟨c, d, .idle⟩ ws
          = ((mailboxProgram lm).interleaved.trace (atRest c d) es).filterMap Sum.getRight?
        ∧ ∀ c' d', (mailboxProgram lm).interleaved.run (atRest c d) es = atRest c' d' →
          (world lm).run ⟨c, d, .idle⟩ ws = ⟨c', d', .idle⟩ := by
  obtain ⟨hlock, hshown⟩ := Guarded.interleaved_refines es (linearized_atRest lm c d)
  obtain ⟨hend, htrace⟩ := atomic_refines_world
    ((mailboxProgram lm).linearization (atRest c d) es) (beside_atRest_iff.mpr rfl)
  have hboth := htrace.trans hshown
  refine ⟨_, hboth, ?_, fun c' d' hrest => ?_⟩
  · rw [← trace_worldWithCalls, hboth]
  · rw [hrest] at hlock
    rw [hlock.eq_of_free rfl] at hend
    exact beside_atRest_iff.mp hend

end LocomotionController

end K1Sim
